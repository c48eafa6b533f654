import LineMachine.Text.Utf8

/-!
# `LineMachine.File`: what files hold

* `FileContent` is what reading a file gives, `FileContent.text` its text.
* `extension?` is the extension of a path.
-/

set_option autoImplicit false

namespace LineMachine

/-- What reading a file gives. -/
inductive FileContent where
  | bytes (content : List UInt8)
  /-- there is no such file -/
  | missing
  /-- it is a directory -/
  | directory
deriving Repr, DecidableEq

namespace FileContent

/-- What is said when there is no such file. -/
def missingMessage : String := "No such file or directory (os error 2)"

/-- What is said when a directory is read. -/
def directoryMessage : String := "Is a directory (os error 21)"

/-- What is said when the bytes of a file are no text. -/
def encodingMessage : String := "stream did not contain valid UTF-8"

/-- The text of a file, or what is said when there is none. -/
def text : FileContent → Except String String
  | .missing => .error missingMessage
  | .directory => .error directoryMessage
  | .bytes content =>
    match Text.Utf8.decode? content with
    | some text => .ok text
    | none => .error encodingMessage

end FileContent

/-- The extension of the last part of a path: what follows its last dot, unless
the part begins with that dot. -/
def extension? (path : String) : Option String :=
  let parts := (path.splitOn "/").filter fun p => p ≠ "" && p ≠ "."
  match parts.getLast? with
  | none => none
  | some last =>
    if last = ".." then none
    else
      match (last.splitOn ".").reverse with
      | ext :: before =>
        if before = [] || before = [""] then none else some ext
      | [] => none

end LineMachine
