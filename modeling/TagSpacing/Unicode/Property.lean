import TagSpacing.Unicode.CategoryTable
import TagSpacing.Unicode.Script
import TagSpacing.Unicode.BinaryProperty
import TagSpacing.Unicode.Blank

/-! Properties of characters by name, and the classes of letters, digits and word characters. -/
namespace TagSpacing.Unicode

/-- A class of characters that has a name. -/
inductive Property
  | any
  | ascii
  | category (categories : List Category)
  | script (script : Script)
  | binary (table : CharTable)
  /-- White space. -/
  | blank
  /-- Decimal digits. -/
  | digit
  /-- Letters, marks, digits, connecting punctuation and join controls. -/
  | word

def isAlphabetic (c : Char) : Bool := alphabetic.contains c

def isDecimalDigit (c : Char) : Bool := category c = .nd

def isAlphanumeric (c : Char) : Bool :=
  isAlphabetic c || Category.numbers.contains (category c)

def isWord (c : Char) : Bool :=
  isAlphabetic c || Category.marks.contains (category c) || category c = .nd || category c = .pc ||
    joinControl.contains c

namespace Property

def contains : Property → Char → Bool
  | any, _ => true
  | ascii, c => c.toNat < 0x80
  | category categories, c => categories.contains (Unicode.category c)
  | script s, c => Unicode.script c = s
  | binary table, c => table.contains c
  | blank, c => isBlank c
  | digit, c => isDecimalDigit c
  | word, c => isWord c

/-- The number of runs of consecutive characters in a class, roughly. -/
def runs : Property → Nat
  | any | ascii => 1
  | category categories => categoryTable.values.foldl (fun n c => if categories.contains c then n + 1 else n) 0
  | script s => scriptTable.values.foldl (fun n c => if c = s then n + 1 else n) 0
  | binary table => table.changes.size / 2
  | blank => whiteSpace.changes.size / 2
  | digit => categoryTable.values.foldl (fun n c => if c = .nd then n + 1 else n) 0
  | word => alphabetic.changes.size / 2

/-- A name as the tables write it: spaces, underscores, hyphens, the case of letters and a leading
"is" make no difference, except that "isc" is not "c". -/
def normalizeName (name : List Char) : String :=
  let (hasIs, name) :=
    match name with
    | i :: s :: rest =>
      if (i = 'i' ∨ i = 'I') ∧ (s = 's' ∨ s = 'S') then (true, rest) else (false, name)
    | _ => (false, name)
  let kept := (name.filter fun c => c ≠ ' ' ∧ c ≠ '_' ∧ c ≠ '-' ∧ c.toNat < 0x80).map Char.toLower
  if hasIs ∧ kept = ['c'] then "isc" else String.ofList kept

/-- A general category, or one of three classes that go by its name. -/
def category? (name : String) : Option Property :=
  if name = "any" then some any
  else if name = "ascii" then some ascii
  else if name = "assigned" then some (category Category.assigned)
  else (Category.ofName? name).map category

/-- The property with a name: one that a character has or has not, else a general category, else a
script. Three short names are always categories. -/
def ofName? (name : List Char) : Option Property :=
  let name := normalizeName name
  let binary? := if ["cf", "sc", "lc"].contains name then none else (binaryProperty? name).map binary
  binary? <|> category? name <|> (script? name).map script

/-- The property that a property name and one of its values give. -/
def ofNameValue? (name value : List Char) : Option Property :=
  let value := normalizeName value
  match normalizeName name with
  | "gc" | "generalcategory" => category? value
  | "sc" | "script" => (script? value).map script
  | _ => none

end Property

end TagSpacing.Unicode
