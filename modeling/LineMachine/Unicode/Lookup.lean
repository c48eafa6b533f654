import LineMachine.Unicode.CharSet
import LineMachine.Unicode.Table.Age
import LineMachine.Unicode.Table.Break
import LineMachine.Unicode.Table.Category
import LineMachine.Unicode.Table.Property
import LineMachine.Unicode.Table.Script
import LineMachine.Unicode.Table.ScriptExtension

/-!
# `LineMachine.Unicode.Lookup`: character classes by name

Character properties are named loosely: case, blanks, hyphens, underscores
and a leading `is` make no difference.

* `looseName` is the form in which two names are compared.
* `categorySet?`, `scriptSet?` and `propertySet?` look one kind of name up.
* `classSet?` looks a bare name up: a binary property, else a general
  category, else a script.
* `valueSet?` looks a property with a value up.
* `wordSet`, `digitSet` and `spaceSet` are the classes with names of one
  letter in patterns.
-/

set_option autoImplicit false

namespace LineMachine.Unicode

/-- The form in which names of properties and values are compared. A leading
`is` is dropped, except that `isc` alone keeps it: it is a name of its own. -/
def looseName (name : String) : String :=
  let keep (cs : List Char) : List Char :=
    (cs.filter fun c => c ≠ ' ' ∧ c ≠ '_' ∧ c ≠ '-' ∧ c.toNat ≤ 0x7F).map Char.toLower
  match name.toList with
  | i :: s :: rest =>
    if (i = 'i' ∨ i = 'I') ∧ (s = 's' ∨ s = 'S') then
      if keep rest = ['c'] then "isc" else String.ofList (keep rest)
    else String.ofList (keep (i :: s :: rest))
  | short => String.ofList (keep short)

/-- The first of the names in the row that has `loose` as one of its names,
all compared loosely. -/
def canonical? (rows : List (List String)) (loose : String) : Option String :=
  (rows.find? fun row => row.any fun name => looseName name = loose).bind List.head?

/-- The set listed for `name`. -/
def tableSet? (tables : List (String × String)) (name : String) : Option CharSet :=
  (tables.find? fun row => row.1 = name).map fun row => CharSet.ofTable row.2

/-- The set listed for `name`, the empty set when none is. -/
def tableSet (tables : List (String × String)) (name : String) : CharSet :=
  (tableSet? tables name).getD CharSet.empty

/-- The names of each general category, the short one first. Surrogates are no
characters and have no category. -/
def categoryNames : List (List String) := [
  ["C", "Other"], ["Cc", "Control", "cntrl"], ["Cf", "Format"], ["Cn", "Unassigned"],
  ["Co", "Private_Use"], ["L", "Letter"], ["LC", "Cased_Letter"], ["Ll", "Lowercase_Letter"], ["Lm", "Modifier_Letter"], ["Lo", "Other_Letter"],
  ["Lt", "Titlecase_Letter"], ["Lu", "Uppercase_Letter"], ["M", "Mark", "Combining_Mark"],
  ["Mc", "Spacing_Mark"], ["Me", "Enclosing_Mark"], ["Mn", "Nonspacing_Mark"], ["N", "Number"],
  ["Nd", "Decimal_Number", "digit"], ["Nl", "Letter_Number"], ["No", "Other_Number"],
  ["P", "Punctuation", "punct"], ["Pc", "Connector_Punctuation"], ["Pd", "Dash_Punctuation"],
  ["Pe", "Close_Punctuation"], ["Pf", "Final_Punctuation"], ["Pi", "Initial_Punctuation"],
  ["Po", "Other_Punctuation"], ["Ps", "Open_Punctuation"], ["S", "Symbol"],
  ["Sc", "Currency_Symbol"], ["Sk", "Modifier_Symbol"], ["Sm", "Math_Symbol"],
  ["So", "Other_Symbol"], ["Z", "Separator"], ["Zl", "Line_Separator"],
  ["Zp", "Paragraph_Separator"], ["Zs", "Space_Separator"]]

/-- The two-letter categories that make up the category with this short
name. -/
def categoryParts : String → List String
  | "C" => ["Cc", "Cf", "Cn", "Co"]
  | "L" => ["Lu", "Ll", "Lt", "Lm", "Lo"]
  | "LC" => ["Lu", "Ll", "Lt"]
  | "M" => ["Mn", "Mc", "Me"]
  | "N" => ["Nd", "Nl", "No"]
  | "P" => ["Pc", "Pd", "Ps", "Pe", "Pi", "Pf", "Po"]
  | "S" => ["Sm", "Sc", "Sk", "So"]
  | "Z" => ["Zs", "Zl", "Zp"]
  | part => [part]

/-- The union of a list of sets. -/
def unionAll (sets : List CharSet) : CharSet :=
  CharSet.ofRanges (sets.flatMap CharSet.ranges)

/-- The characters with some general category. -/
def assignedSet : CharSet := unionAll (categoryTables.map fun row => CharSet.ofTable row.2)

/-- The members of one two-letter category. -/
def categoryPartSet (part : String) : CharSet :=
  if part = "Cn" then assignedSet.complement else tableSet categoryTables part

/-- The members of the category with this short name. -/
def categorySet (short : String) : CharSet :=
  unionAll ((categoryParts short).map categoryPartSet)

/-- The general category, or one of the three catch-all classes, that a loose
name denotes. -/
def categorySet? (loose : String) : Option CharSet :=
  match loose with
  | "any" => some CharSet.all
  | "ascii" => some (CharSet.range 0 0x7F)
  | "assigned" => some assignedSet
  | _ => (canonical? categoryNames loose).map categorySet

/-- The script that a loose name denotes. A name without characters denotes
none. -/
def scriptSet? (loose : String) : Option CharSet :=
  (canonical? scriptNames loose).bind (tableSet? scriptTables)

/-- Every character that the script a loose name denotes makes use of. -/
def scriptExtensionSet? (loose : String) : Option CharSet :=
  (canonical? scriptNames loose).bind fun long =>
    (tableSet? scriptExtensionTables long).or (tableSet? scriptTables long)

/-- The binary property that a loose name denotes. -/
def propertySet? (loose : String) : Option CharSet :=
  (canonical? propertyNames loose).map (tableSet propertyTables)

/-- The class that a bare name denotes. -/
def classSet? (name : String) : Option CharSet :=
  let loose := looseName name
  (propertySet? loose).or ((categorySet? loose).or (scriptSet? loose))

/-- The characters that were assigned in the version with this name or before
it. -/
def ageSet? (loose : String) : Option CharSet :=
  let key (version : String) : String := looseName version
  let short (version : String) : String := (version.drop 1).toString.replace "_" "."
  let upTo := ageTables.takeWhile fun row => ¬ (key row.1 = loose ∨ short row.1 = loose)
  (ageTables[upTo.length]?).map fun row =>
    unionAll ((upTo ++ [row]).map fun r => CharSet.ofTable r.2)

/-- The characters with one of the values of a segmentation property. The
value of all characters without a special role is none of them. -/
def breakSet? (names : List (List String)) (tables : List (String × String)) (loose : String) :
    Option CharSet :=
  (canonical? names loose).bind (tableSet? tables)

/-- The class of the characters for which a property has a value. -/
def valueSet? (property value : String) : Option CharSet :=
  let value := looseName value
  match looseName property with
  | "gc" | "generalcategory" => categorySet? value
  | "sc" | "script" => scriptSet? value
  | "scx" | "scriptextensions" => scriptExtensionSet? value
  | "age" => ageSet? value
  | "gcb" | "graphemeclusterbreak" => breakSet? graphemeBreakNames graphemeBreakTables value
  | "wb" | "wordbreak" => breakSet? wordBreakNames wordBreakTables value
  | "sb" | "sentencebreak" => breakSet? sentenceBreakNames sentenceBreakTables value
  | _ => none

/-- The characters of words: alphabetic characters, marks, decimal digits,
connector punctuation and the two joiners. -/
def wordSet : CharSet :=
  unionAll [tableSet propertyTables "Alphabetic", categorySet "M", categorySet "Nd",
    categorySet "Pc", tableSet propertyTables "Join_Control"]

/-- The decimal digits of all scripts. -/
def digitSet : CharSet := categorySet "Nd"

/-- The white space characters. -/
def spaceSet : CharSet := tableSet propertyTables "White_Space"

/-- The alphabetic characters. -/
def alphabeticSet : CharSet := tableSet propertyTables "Alphabetic"

/-- The characters with a numeric category. -/
def numericSet : CharSet := categorySet "N"

end LineMachine.Unicode
