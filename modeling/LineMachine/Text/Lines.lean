/-!
# `LineMachine.Text.Lines`: lines and their ends

* `stripTerminator` takes one line end off a text.
* `splitLines` cuts bytes behind every line feed.
* `completeLines` keeps the lines that end in one.
* `Source` is an input that may fail before it ends; `Source.lines` are the
  lines that can be read from it.
-/

set_option autoImplicit false

namespace LineMachine.Text

/-- The text without the line feed at its end, and without a carriage return
in front of that. -/
def stripTerminator (line : String) : String :=
  match line.toList.reverse with
  | '\n' :: '\r' :: rest => String.ofList rest.reverse
  | '\n' :: rest => String.ofList rest.reverse
  | _ => line

/-- The byte that ends a line. -/
def lineFeed : UInt8 := 0x0A

/-- The bytes cut behind every line feed. The last line may lack one. -/
def splitLines : List UInt8 → List (List UInt8)
  | [] => []
  | b :: bs =>
    if b = lineFeed then [b] :: splitLines bs
    else
      match splitLines bs with
      | [] => [[b]]
      | line :: lines => (b :: line) :: lines

/-- The lines of the bytes that end in a line feed. -/
def completeLines (bytes : List UInt8) : List (List UInt8) :=
  (splitLines bytes).filter fun line => line.getLast? = some lineFeed

/-- An input that delivers its bytes and then ends, or fails with a
message. -/
structure Source where
  bytes : List UInt8
  failure : Option String
deriving Repr, DecidableEq

/-- The lines that can be read from an input. A failure comes behind the
complete lines; what precedes it in its own line is lost. -/
def Source.lines (s : Source) : List (Except String (List UInt8)) :=
  match s.failure with
  | none => (splitLines s.bytes).map Except.ok
  | some message => (completeLines s.bytes).map Except.ok ++ [Except.error message]

end LineMachine.Text
