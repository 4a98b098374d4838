import TagSpacing.Position
import TagSpacing.Text
import TagSpacing.Unicode.Blank

/-! Selections as a user writes them: `LINE:COLUMN` or `LINE:COLUMN-LINE:COLUMN`, counted from one. -/
namespace TagSpacing

/-- What is wrong with a selection. -/
inductive SelectionFault
  | noPosition (text : Text)
  | noNumber (text : Text)
deriving DecidableEq

def SelectionFault.message : SelectionFault → String
  | noPosition t => s!"expected LINE:COL, got '{String.ofList t}'"
  | noNumber t => s!"'{String.ofList t}' is not a line or column number (they start at 1)"

namespace Selection

/-- The parts of a text in front of and behind the first occurrence of a character. -/
def cut? (separator : Char) (t : Text) : Option (Text × Text) :=
  match t.dropWhile (· != separator) with
  | _ :: rest => some (t.takeWhile (· != separator), rest)
  | [] => none

/-- Numbers are 64-bit words. -/
def numberBound : Nat := 1 <<< 64

/-- A number of at least one: decimal digits, with a plus sign in front or not. -/
def number? (t : Text) : Option Nat :=
  let digits :=
    match t with
    | '+' :: rest => rest
    | t => t
  if digits = [] ∨ ¬digits.all Char.isDigit then none
  else
    let n := digits.foldl (fun n c => 10 * n + (c.toNat - '0'.toNat)) 0
    if 0 < n ∧ n < numberBound then some n else none

/-- An index counted from zero, written as a number with blanks around it. -/
def readIndex (t : Text) : Except SelectionFault Nat :=
  match number? (Unicode.trim t) with
  | some n => .ok (n - 1)
  | none => .error (.noNumber t)

def readPosition (t : Text) : Except SelectionFault Position :=
  match cut? ':' t with
  | none => .error (.noPosition t)
  | some (line, column) => do return ⟨← readIndex line, ← readIndex column⟩

/-- The selection that a text writes: a caret, or an anchor and the place of the caret. -/
def read (t : Text) : Except SelectionFault Selection :=
  match cut? '-' t with
  | some (anchor, active) => do return ⟨← readPosition anchor, ← readPosition active⟩
  | none => caret <$> readPosition t

/-- The text of a selection, from its anchor to its caret. -/
def write (s : Selection) : String :=
  let position (p : Position) : String := s!"{p.line + 1}:{p.character + 1}"
  s!"{position s.anchor}-{position s.active}"

end Selection

end TagSpacing
