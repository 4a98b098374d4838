/-! Points, spans and selections of a document. Lines and columns count from zero, columns in characters. -/
namespace TagSpacing

/-- A point of a document: a line and a column of that line. -/
structure Position where
  line : Nat
  character : Nat
deriving DecidableEq, Inhabited

namespace Position

/-- The start of every document. -/
def zero : Position := ⟨0, 0⟩

/-- Document order: by line, then by column. -/
protected def le (p q : Position) : Prop :=
  p.line < q.line ∨ p.line = q.line ∧ p.character ≤ q.character

protected def lt (p q : Position) : Prop :=
  p.line < q.line ∨ p.line = q.line ∧ p.character < q.character

instance : LE Position := ⟨Position.le⟩
instance : LT Position := ⟨Position.lt⟩

instance (p q : Position) : Decidable (p ≤ q) :=
  inferInstanceAs (Decidable (p.line < q.line ∨ p.line = q.line ∧ p.character ≤ q.character))

instance (p q : Position) : Decidable (p < q) :=
  inferInstanceAs (Decidable (p.line < q.line ∨ p.line = q.line ∧ p.character < q.character))

theorem le_def {p q : Position} :
    p ≤ q ↔ p.line < q.line ∨ p.line = q.line ∧ p.character ≤ q.character := Iff.rfl

theorem lt_def {p q : Position} :
    p < q ↔ p.line < q.line ∨ p.line = q.line ∧ p.character < q.character := Iff.rfl

theorem le_refl (p : Position) : p ≤ p := by simp [le_def]

theorem le_of_not_le {p q : Position} (h : ¬ p ≤ q) : q ≤ p := by
  rw [le_def] at *
  omega

instance : Min Position := minOfLe
instance : Max Position := maxOfLe

/-- Columns are 64-bit words: a shift that leaves them is no position. -/
def columnBound : Nat := 1 <<< 64

/-- The point `delta` columns further on the same line, if that is a column. -/
def shift? (p : Position) (delta : Int) : Option Position :=
  let column := (p.character : Int) + delta
  if 0 ≤ column ∧ column < columnBound then some ⟨p.line, column.toNat⟩ else none

/-- Like `shift?`, with column 0 in place of a column that does not exist. -/
def shiftOrZero (p : Position) (delta : Int) : Position :=
  (p.shift? delta).getD ⟨p.line, 0⟩

instance : ToString Position := ⟨fun p => s!"{p.line}:{p.character}"⟩

end Position

/-- A span of a document. Its bounds are in document order. -/
structure Range where
  start : Position
  stop : Position
  start_le_stop : start ≤ stop
deriving DecidableEq

namespace Range

/-- The span between two points, given in either order. -/
def between (a b : Position) : Range :=
  if h : a ≤ b then ⟨a, b, h⟩ else ⟨b, a, Position.le_of_not_le h⟩

/-- The empty span at a point. -/
def point (p : Position) : Range := ⟨p, p, p.le_refl⟩

def isEmpty (r : Range) : Bool := r.start = r.stop

def isSingleLine (r : Range) : Bool := r.start.line = r.stop.line

/-- Both bounds belong to the span. -/
def contains (r : Range) (p : Position) : Bool := r.start ≤ p ∧ p ≤ r.stop

/-- Two spans overlap when they share more than a touching boundary. -/
def overlaps (r s : Range) : Bool := r.start < s.stop ∧ s.start < r.stop

instance : ToString Range := ⟨fun r => s!"{r.start}-{r.stop}"⟩

end Range

/-- A cursor's selection: `anchor` stays put while `active` follows the caret, so `active` may
come first. -/
structure Selection where
  anchor : Position
  active : Position
deriving DecidableEq, Inhabited

namespace Selection

/-- The empty selection at a point. -/
def caret (p : Position) : Selection := ⟨p, p⟩

def ofRange (r : Range) : Selection := ⟨r.start, r.stop⟩

def start (s : Selection) : Position := min s.anchor s.active

def stop (s : Selection) : Position := max s.anchor s.active

def isEmpty (s : Selection) : Bool := s.anchor = s.active

def isReversed (s : Selection) : Bool := s.active < s.anchor

/-- The span that the selection covers. -/
def range (s : Selection) : Range := Range.between s.anchor s.active

end Selection

end TagSpacing
