import TagSpacing.Buffer

/-! Several open buffers, at most one of them with focus. -/
namespace TagSpacing

structure Workspace where
  buffers : List Buffer
  /-- The number of the buffer with focus. -/
  active : Option Nat
deriving DecidableEq

namespace Workspace

def empty : Workspace := ⟨[], none⟩

/-- Opens a buffer behind all others and gives it focus. -/
def openBuffer (w : Workspace) (b : Buffer) : Workspace := ⟨w.buffers ++ [b], some w.buffers.length⟩

/-- Moves focus; a number without buffer leaves none with focus. -/
def focus (w : Workspace) (index : Option Nat) : Workspace :=
  { w with active := index.filter (· < w.buffers.length) }

/-- The buffer with focus. -/
def active? (w : Workspace) : Option Buffer := w.active.bind fun i => w.buffers[i]?

/-- Puts another state of the buffer with focus in its place. -/
def setActive (w : Workspace) (b : Buffer) : Workspace :=
  match w.active with
  | some i => { w with buffers := w.buffers.set i b }
  | none => w

instance : Host Workspace Buffer := ⟨active?, setActive⟩

/-- Makes edits in the buffer with focus, one after the other, and gives what each reports. -/
def edit (w : Workspace) : List (Range × Text) → Workspace × List (Except EditError Change)
  | [] => (w, [])
  | (r, t) :: edits =>
    match w.active? with
    | none => (w, [])
    | some b =>
      match b.change r t with
      | .ok (b, change) =>
        let (w, reports) := edit (w.setActive b) edits
        (w, .ok change :: reports)
      | .error e =>
        let (w, reports) := edit w edits
        (w, .error e :: reports)

/-- Makes edits and reacts to all of them at once, as typing does. -/
def type (w : Workspace) (config : Config) (edits : List (Range × Text)) :
    Workspace × List (Except EditError Change) × List Outcome :=
  let (w, reports) := w.edit edits
  let (w, outcomes) := config.notify w (reports.filterMap Except.toOption)
  (w, reports, outcomes)

end Workspace

end TagSpacing
