/-! Tables over all characters that are constant on long runs of consecutive ones, written as text. -/
namespace TagSpacing.Unicode

/-- A text cut at every occurrence of a character. -/
def splitOnChar (separator : Char) (t : List Char) : List (List Char) :=
  t.foldr (fun c parts =>
    if c = separator then [] :: parts
    else
      match parts with
      | part :: rest => (c :: part) :: rest
      | [] => [[c]]) [[]]

/-- The words of a text, which spaces and line feeds separate. -/
def wordsOf (t : List Char) : List (List Char) :=
  (splitOnChar ' ' (t.map fun c => if c = '\n' then ' ' else c)).filter (!·.isEmpty)

def hexDigitValue (c : Char) : Nat :=
  if c.isDigit then c.toNat - '0'.toNat
  else if 'a' ≤ c ∧ c ≤ 'f' then c.toNat - 'a'.toNat + 10
  else if 'A' ≤ c ∧ c ≤ 'F' then c.toNat - 'A'.toNat + 10
  else 0

/-- The number that hexadecimal digits write. -/
def hexValue (digits : List Char) : Nat := digits.foldl (fun n c => 16 * n + hexDigitValue c) 0

/-- How many leading entries of a sorted array, those from `low` to `high` being undecided, are at
most `n`. -/
def countUpTo (bounds : Array Nat) (n low high : Nat) : Nat :=
  if h : low < high then
    let middle := (low + high) / 2
    if bounds.getD middle 0 ≤ n then countUpTo bounds n (middle + 1) high
    else countUpTo bounds n low middle
  else low
termination_by high - low

/-- The sums of the leading numbers of a list. -/
def runningSums (lengths : List Nat) : List Nat :=
  (lengths.foldl (fun (sum, sums) n => (sum + n, (sum + n) :: sums)) (0, [])).2.reverse

/-- A set of characters, by the code points at which membership changes. -/
structure CharTable where
  changes : Array Nat

namespace CharTable

/-- The set whose complement and itself have runs of the given lengths by turns, from U+0000 on. -/
def ofLengths (text : String) : CharTable :=
  ⟨(runningSums ((wordsOf text.toList).map hexValue)).toArray⟩

def contains (t : CharTable) (c : Char) : Bool :=
  countUpTo t.changes c.toNat 0 t.changes.size % 2 = 1

end CharTable

/-- A value for every character, by the code points after which runs end. -/
structure RunTable (α : Type) where
  ends : Array Nat
  values : Array α

namespace RunTable

variable {α : Type}

/-- The table of consecutive runs from U+0000 on. Each word of the text is a value of `width`
characters and the length of a run, one if it is absent. -/
def ofRuns (value : List Char → α) (width : Nat) (text : String) : RunTable α :=
  let words := wordsOf text.toList
  let length (word : List Char) : Nat :=
    match word.drop width with
    | [] => 1
    | digits => hexValue digits
  ⟨(runningSums (words.map length)).toArray, (words.map fun word => value (word.take width)).toArray⟩

/-- The value of a character, `default` past the last run. -/
def get (t : RunTable α) (c : Char) (default : α) : α :=
  t.values.getD (countUpTo t.ends c.toNat 0 t.ends.size) default

end RunTable

end TagSpacing.Unicode
