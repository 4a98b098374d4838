import TagSpacing.Editor
import TagSpacing.History
import TagSpacing.Snippet.Parser
import TagSpacing.Snippet.Render

/-! Open documents with selections and an undo history. -/
namespace TagSpacing

/-- What an undo step brings back. -/
structure Snapshot where
  text : Text
  selections : List Selection
deriving DecidableEq

structure Buffer where
  text : Text
  selections : List Selection
  history : History Snapshot
deriving DecidableEq

/-- A rendered snippet and the offsets between which it goes. -/
structure Insertion where
  start : Nat
  stop : Nat
  rendered : Rendered
deriving DecidableEq

namespace Insertion

/-- Whether one insertion comes before another, or neither does. -/
def precedes (a b : Insertion) : Bool :=
  a.start < b.start || (a.start == b.start && a.stop ≤ b.stop)

/-- Puts an insertion in front of the first one that does not come before it. -/
def insertSorted (a : Insertion) : List Insertion → List Insertion
  | [] => [a]
  | b :: rest => if a.precedes b then a :: b :: rest else b :: insertSorted a rest

/-- Insertions in document order; equal ones keep their order. -/
def sort (insertions : List Insertion) : List Insertion := insertions.foldr insertSorted []

def edit (i : Insertion) : Edit := ⟨i.start, i.stop, some i.rendered.text⟩

/-- The selections on the first tabstops of sorted insertions in the text after them. Offset `old` of
the text before them is offset `new` there. -/
def selections (t : Text) (old new : Nat) : List Insertion → List Selection
  | [] => []
  | i :: rest =>
    let start := new + (i.start - old)
    let (anchor, active) :=
      i.rendered.firstPlaceholder.getD (i.rendered.finalCursor, i.rendered.finalCursor)
    ⟨t.positionAt (start + anchor), t.positionAt (start + active)⟩ ::
      selections t i.stop (start + i.rendered.text.length) rest

end Insertion

namespace Buffer

/-- A buffer on a text, with a caret at its start. -/
def ofText (t : Text) : Buffer := ⟨t, [.caret .zero], .empty⟩

def snapshot (b : Buffer) : Snapshot := ⟨b.text, b.selections⟩

/-- Replaces the selections; without any there is a caret at the start of the text. -/
def select (b : Buffer) (selections : List Selection) : Buffer :=
  { b with selections := if selections = [] then [.caret .zero] else selections }

/-- Replaces a range as one undo step, and reports the change. Selections stay where they are. -/
def change (b : Buffer) (r : Range) (t : Text) : Except EditError (Buffer × Change) :=
  let (start, stop) := b.text.span r
  match b.text.edit [⟨start, stop, some t⟩] with
  | .error e => .error e
  | .ok text =>
    let range := Range.between (b.text.positionAt start) (b.text.positionAt stop)
    .ok (⟨text, b.selections, b.history.commit b.snapshot true true⟩, ⟨range, stop - start, t⟩)

/-- The insertions that a snippet makes at some ranges of a text, in the order of the ranges. -/
def insertions (t : Text) (s : Snippet) (ranges : List Range) : List Insertion :=
  ranges.map fun r =>
    let (start, stop) := t.span r
    ⟨start, stop, s.render (.selected (t.slice start stop))⟩

/-- Replaces all ranges of a request by its template as one edit, and selects what was inserted. -/
def insert (b : Buffer) (request : Request) : Except InsertError Buffer :=
  match Snippet.parse request.tag.template.toList with
  | .error e => .error (.snippet e)
  | .ok s =>
    let insertions := Insertion.sort (insertions b.text s request.ranges)
    match b.text.edit (insertions.map Insertion.edit) with
    | .error e => .error (.edit e)
    | .ok text =>
      let options := request.options
      .ok ⟨text, Insertion.selections text 0 0 insertions,
        b.history.commit b.snapshot options.undoStopBefore options.undoStopAfter⟩

/-- Steps back, if there is an undo step. -/
def undo? (b : Buffer) : Option Buffer :=
  (b.history.undo b.snapshot).map fun (s, h) => ⟨s.text, s.selections, h⟩

/-- Steps forward again, if a step was undone. -/
def redo? (b : Buffer) : Option Buffer :=
  (b.history.redo b.snapshot).map fun (s, h) => ⟨s.text, s.selections, h⟩

end Buffer

instance : Editor Buffer where
  text := Buffer.text
  selections := Buffer.selections
  insert := Buffer.insert

end TagSpacing
