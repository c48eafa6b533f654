import LineMachine.Unicode.Lookup

/-!
# `LineMachine.Text.Quoted`: texts in quotes

A text is shown between double quotes. The quote, the backslash and four
control characters are written with a backslash; any other character that
leaves no mark of its own, or joins the one before it, is written by its
number.

* `needsNumber` says which characters are written by number.
* `escapeChar` writes one character.
* `quote` writes a text.
-/

set_option autoImplicit false

namespace LineMachine.Text

open LineMachine.Unicode

/-- The characters without a visible form: control, format, private,
unassigned and separating ones, the blank excepted. -/
def invisibleSet : CharSet :=
  (unionAll [categorySet "C", categorySet "Z"]).diff (CharSet.range 0x20 0x20)

/-- The characters that extend the one before them. -/
def extendingSet : CharSet := tableSet propertyTables "Grapheme_Extend"

/-- The characters that are not shown where they are not supported. -/
def ignorableSet : CharSet := tableSet propertyTables "Default_Ignorable_Code_Point"

/-- Whether `c` is written by its number. -/
def needsNumber (c : Char) : Bool :=
  extendingSet.contains c || invisibleSet.contains c || ignorableSet.contains c

/-- The written form of one character. -/
def escapeChar (c : Char) : List Char :=
  if c = '\x00' then ['\\', '0']
  else if c = '\t' then ['\\', 't']
  else if c = '\r' then ['\\', 'r']
  else if c = '\n' then ['\\', 'n']
  else if c = '"' then ['\\', '"']
  else if c = '\\' then ['\\', '\\']
  else if needsNumber c then
    ['\\', 'u', '\x7b'] ++ Nat.toDigits 16 c.toNat ++ ['\x7d']
  else [c]

/-- The text in quotes. -/
def quote (text : String) : String :=
  String.ofList ('"' :: (text.toList.flatMap escapeChar ++ ['"']))

end LineMachine.Text
