import LineMachine.Toml.Value
import LineMachine.Unicode.CharSet

/-!
# `LineMachine.Toml.Scalar`: strings, numbers and moments

Each reader takes the text from a place on and gives the value with the text
behind it.

* `basicText` and `literalText` read strings behind their opening quotes, and
  `readText` reads a string.
* `readNumber` reads integers and floating point numbers.
* `readMoment` reads dates and times.
* `readScalar` reads any of these, and truth values.
-/

set_option autoImplicit false

namespace LineMachine.Toml

/-- Whether a character is a blank inside a line. -/
def isBlank (c : Char) : Bool := c = ' ' || c = '\t'

/-- Whether a character may stand in a string or a comment. -/
def isTextChar (c : Char) : Bool := c = '\t' || (0x20 ≤ c.toNat && c ≠ '\x7f')

/-- Drops blanks. -/
def skipBlanks (cs : List Char) : List Char := cs.dropWhile isBlank

/-! ### Strings -/

/-- The character with a number in hexadecimal. -/
def hexChar? (digits : List Char) : Option Char := do
  let values ← digits.mapM Unicode.CharSet.hexValue?
  let n := values.foldl (fun n d => 16 * n + d) 0
  if n.isValidChar then some (Char.ofNat n) else none

/-- The character that a letter behind a backslash stands for. -/
def simpleEscape? : Char → Option Char
  | 'b' => some '\x08'
  | 'f' => some '\x0c'
  | 'n' => some '\n'
  | 'r' => some '\r'
  | 't' => some '\t'
  | '"' => some '"'
  | '\\' => some '\\'
  | _ => none

/-- One more character in front of what is read behind it. -/
def prepend (c : Option Char) (behind : Except Fault (List Char × List Char)) :
    Except Fault (List Char × List Char) :=
  match c with
  | none => .error .escape
  | some c => behind.map fun (chars, rest) => (c :: chars, rest)

/-- Whether a line ends here. -/
def startsBreak : List Char → Bool
  | '\n' :: _ => true
  | '\r' :: '\n' :: _ => true
  | _ => false

/-- Whether a backslash here continues the line: nothing but blanks follow. -/
def continuesLine (behind : List Char) : Bool := startsBreak (skipBlanks behind)

/-- Reads a string with escapes behind its opening quotes: on one line, or
`multi` on several. While `skipping`, blanks and line ends do not count. -/
def basicText (multi : Bool) : Bool → List Char → Except Fault (List Char × List Char)
  | _, [] => .error .unclosedText
  | skipping, '\r' :: '\n' :: rest =>
    if !multi then .error .controlCharacter
    else if skipping then basicText multi true rest
    else prepend (some '\n') (basicText multi false rest)
  | skipping, '\n' :: rest =>
    if !multi then .error .controlCharacter
    else if skipping then basicText multi true rest
    else prepend (some '\n') (basicText multi false rest)
  | _, '\\' :: 'u' :: a :: b :: c :: d :: rest =>
    prepend (hexChar? [a, b, c, d]) (basicText multi false rest)
  | _, '\\' :: 'U' :: a :: b :: c :: d :: e :: f :: g :: h :: rest =>
    prepend (hexChar? [a, b, c, d, e, f, g, h]) (basicText multi false rest)
  | _, '\\' :: rest =>
    if multi && continuesLine rest then basicText multi true rest
    else
      match rest with
      | [] => .error .unclosedText
      | e :: rest => prepend (simpleEscape? e) (basicText multi false rest)
  | _, '"' :: rest =>
    if !multi then .ok ([], rest)
    else
      match rest with
      | '"' :: '"' :: '"' :: '"' :: rest => .ok (['"', '"'], rest)
      | '"' :: '"' :: '"' :: rest => .ok (['"'], rest)
      | '"' :: '"' :: rest => .ok ([], rest)
      | rest => prepend (some '"') (basicText multi false rest)
  | skipping, c :: rest =>
    if skipping && isBlank c then basicText multi true rest
    else if isTextChar c then prepend (some c) (basicText multi false rest)
    else .error .controlCharacter

/-- Reads a string without escapes behind its opening quotes. -/
def literalText (multi : Bool) : List Char → Except Fault (List Char × List Char)
  | [] => .error .unclosedText
  | '\r' :: '\n' :: rest =>
    if multi then prepend (some '\n') (literalText multi rest) else .error .controlCharacter
  | '\n' :: rest =>
    if multi then prepend (some '\n') (literalText multi rest) else .error .controlCharacter
  | '\'' :: rest =>
    if !multi then .ok ([], rest)
    else
      match rest with
      | '\'' :: '\'' :: '\'' :: '\'' :: rest => .ok (['\'', '\''], rest)
      | '\'' :: '\'' :: '\'' :: rest => .ok (['\''], rest)
      | '\'' :: '\'' :: rest => .ok ([], rest)
      | rest => prepend (some '\'') (literalText multi rest)
  | c :: rest =>
    if isTextChar c then prepend (some c) (literalText multi rest) else .error .controlCharacter

/-- Drops one line end. -/
def skipBreak : List Char → List Char
  | '\r' :: '\n' :: rest => rest
  | '\n' :: rest => rest
  | cs => cs

/-- Reads a string. -/
def readText : List Char → Except Fault (String × List Char)
  | '"' :: '"' :: '"' :: rest => (basicText true false (skipBreak rest)).map fun r =>
    (String.ofList r.1, r.2)
  | '"' :: rest => (basicText false false rest).map fun r => (String.ofList r.1, r.2)
  | '\'' :: '\'' :: '\'' :: rest => (literalText true (skipBreak rest)).map fun r =>
    (String.ofList r.1, r.2)
  | '\'' :: rest => (literalText false rest).map fun r => (String.ofList r.1, r.2)
  | _ => .error .valueExpected

/-! ### Numbers -/

/-- Whether a character is a digit in a base of at most 16. -/
def isDigitIn (base : Nat) (c : Char) : Bool :=
  (Unicode.CharSet.hexValue? c).any fun d => d < base

/-- Takes digits, with at most one underscore between two of them. -/
def takeDigits (base : Nat) : List Char → List Char × List Char
  | [] => ([], [])
  | '_' :: rest =>
    if (rest.head?.any (isDigitIn base)) then takeDigits base rest else ([], '_' :: rest)
  | c :: rest =>
    if isDigitIn base c then
      let (more, rest) := takeDigits base rest
      (c :: more, rest)
    else ([], c :: rest)

/-- Takes digits, of which there must be one at the start. -/
def someDigits (base : Nat) (cs : List Char) : Option (List Char × List Char) :=
  if cs.head?.any (isDigitIn base) then some (takeDigits base cs) else none

/-- The value of digits. -/
def digitsValue (base : Nat) (digits : List Char) : Nat :=
  digits.foldl (fun n d => base * n + (Unicode.CharSet.hexValue? d).getD 0) 0

/-- An integer, if it is within 64 bits. -/
def integer (n : Int) (rest : List Char) : Except Fault (Value × List Char) :=
  if -0x8000000000000000 ≤ n ∧ n < 0x8000000000000000 then .ok (.integer n, rest)
  else .error .tooGreat

/-- Reads an integer in a base other than ten, behind the mark of the base. -/
def readBased (base : Nat) (cs : List Char) : Except Fault (Value × List Char) :=
  match someDigits base cs with
  | none => .error .valueExpected
  | some (digits, rest) => integer (digitsValue base digits) rest

/-- Takes the digits in front of the decimal point: a zero, or digits that do
not begin with one. -/
def wholeDigits : List Char → Option (List Char × List Char)
  | '0' :: rest => some (['0'], rest)
  | cs => someDigits 10 cs

/-- Takes a decimal point and the digits behind it, if they are there. -/
def fractionDigits : List Char → Option (List Char) × List Char
  | '.' :: rest =>
    match someDigits 10 rest with
    | some (digits, rest) => (some digits, rest)
    | none => (none, '.' :: rest)
  | cs => (none, cs)

/-- A sign, and the text behind it. -/
def takeSign : List Char → Bool × List Char
  | '-' :: rest => (true, rest)
  | '+' :: rest => (false, rest)
  | cs => (false, cs)

/-- Takes an exponent behind its letter. -/
def exponentDigits (cs : List Char) : Option (Int × List Char) :=
  let (down, behind) := takeSign cs
  match someDigits 10 behind with
  | some (digits, rest) =>
    let n : Int := digitsValue 10 digits
    some (if down then -n else n, rest)
  | none => none

/-- Takes an exponent, if it is there. -/
def readExponent : List Char → Option Int × List Char
  | cs@(c :: rest) =>
    if c = 'e' || c = 'E' then
      match exponentDigits rest with
      | some (n, rest) => (some n, rest)
      | none => (none, cs)
    else (none, cs)
  | [] => (none, [])

/-- A floating point number. A positive one that is too great is a fault; a
negative one is minus infinity. -/
def floating (negative : Bool) (digits : Nat) (e : Int) (rest : List Char) :
    Except Fault (Value × List Char) :=
  match Extended.ofDecimal negative digits e with
  | .infinite false => .error .tooGreat
  | x => .ok (.float x, rest)

/-- Reads a number in base ten behind its sign. -/
def readDecimal (negative : Bool) (cs : List Char) : Except Fault (Value × List Char) :=
  match cs with
  | 'i' :: 'n' :: 'f' :: rest => .ok (.float (.infinite negative), rest)
  | 'n' :: 'a' :: 'n' :: rest => .ok (.float .notANumber, rest)
  | _ =>
    match wholeDigits cs with
    | none => .error .valueExpected
    | some (whole, rest) =>
      let (places, rest) := fractionDigits rest
      let (e, rest) := readExponent rest
      match places, e with
      | none, none =>
        let n : Int := digitsValue 10 whole
        integer (if negative then -n else n) rest
      | _, _ =>
        let places := places.getD []
        floating negative (digitsValue 10 (whole ++ places)) (e.getD 0 - places.length) rest

/-- Reads a number. -/
def readNumber : List Char → Except Fault (Value × List Char)
  | '0' :: 'x' :: rest => readBased 16 rest
  | '0' :: 'o' :: rest => readBased 8 rest
  | '0' :: 'b' :: rest => readBased 2 rest
  | cs => readDecimal (takeSign cs).1 (takeSign cs).2

/-! ### Moments -/

/-- Takes a number with exactly `count` digits. -/
def fixedNumber (count : Nat) (cs : List Char) : Option (Nat × List Char) :=
  let digits := cs.take count
  if digits.length = count && digits.all Char.isDigit then
    some (digitsValue 10 digits, cs.drop count)
  else none

/-- Takes one character. -/
def takeChar (c : Char) : List Char → Option (List Char)
  | d :: rest => if c = d then some rest else none
  | [] => none

/-- The number of days of a month. -/
def daysIn (year month : Nat) : Nat :=
  if month = 2 then
    if year % 4 = 0 && (year % 100 ≠ 0 || year % 400 = 0) then 29 else 28
  else if month ∈ [4, 6, 9, 11] then 30
  else 31

/-- Reads a day. -/
def readDate (cs : List Char) : Option (Date × List Char) := do
  let (year, cs) ← fixedNumber 4 cs
  let cs ← takeChar '-' cs
  let (month, cs) ← fixedNumber 2 cs
  let cs ← takeChar '-' cs
  let (day, cs) ← fixedNumber 2 cs
  if 1 ≤ month ∧ month ≤ 12 ∧ 1 ≤ day ∧ day ≤ daysIn year month then some (⟨year, month, day⟩, cs)
  else none

/-- The nanoseconds of decimal places; those behind the ninth do not count. -/
def nanoseconds (places : List Char) : Nat :=
  let kept := places.take 9
  digitsValue 10 kept * Nat.pow 10 (9 - kept.length)

/-- Takes the decimal places of a second, if they are there. -/
def readPlaces : List Char → Nat × List Char
  | '.' :: rest =>
    let places := rest.takeWhile Char.isDigit
    if places.isEmpty then (0, '.' :: rest) else (nanoseconds places, rest.drop places.length)
  | cs => (0, cs)

/-- Reads a time of day. The second may be a leap second. -/
def readTime (cs : List Char) : Option (Time × List Char) := do
  let (hour, cs) ← fixedNumber 2 cs
  let cs ← takeChar ':' cs
  let (minute, cs) ← fixedNumber 2 cs
  let cs ← takeChar ':' cs
  let (second, cs) ← fixedNumber 2 cs
  let (places, cs) := readPlaces cs
  if hour ≤ 23 ∧ minute ≤ 59 ∧ second ≤ 60 then some (⟨hour, minute, second, places⟩, cs)
  else none

/-- Reads an offset. -/
def readOffset : List Char → Option (Offset × List Char)
  | 'Z' :: rest => some (.zulu, rest)
  | 'z' :: rest => some (.zulu, rest)
  | sign :: cs => do
    if sign = '+' || sign = '-' then
      let (hours, cs) ← fixedNumber 2 cs
      let cs ← takeChar ':' cs
      let (minutes, cs) ← fixedNumber 2 cs
      let n : Int := 60 * hours + minutes
      if hours ≤ 23 ∧ minutes ≤ 59 then some (.minutes (if sign = '-' then -n else n), cs)
      else none
    else none
  | [] => none

/-- Reads what may follow a day: a time, and an offset. -/
def readTimeBehind (d : Date) (cs : List Char) : Moment × List Char :=
  match cs with
  | mark :: behind =>
    if mark = 'T' || mark = 't' || mark = ' ' then
      match readTime behind with
      | none => (.date d, cs)
      | some (t, rest) =>
        match readOffset rest with
        | some (offset, rest) => (.dateTime d t (some offset), rest)
        | none => (.dateTime d t none, rest)
    else (.date d, cs)
  | [] => (.date d, [])

/-- Reads a moment. -/
def readMoment (cs : List Char) : Option (Moment × List Char) :=
  match readDate cs with
  | some (d, rest) => some (readTimeBehind d rest)
  | none => (readTime cs).map fun (t, rest) => (.time t, rest)

/-! ### All scalars -/

/-- Reads a value without brackets. -/
def readScalar (cs : List Char) : Except Fault (Value × List Char) :=
  match cs with
  | '"' :: _ => (readText cs).map fun (s, rest) => (.text s, rest)
  | '\'' :: _ => (readText cs).map fun (s, rest) => (.text s, rest)
  | 't' :: 'r' :: 'u' :: 'e' :: rest => .ok (.boolean true, rest)
  | 'f' :: 'a' :: 'l' :: 's' :: 'e' :: rest => .ok (.boolean false, rest)
  | _ =>
    match readMoment cs with
    | some (m, rest) => .ok (.moment m, rest)
    | none => readNumber cs

end LineMachine.Toml
