/-! Undo and redo over whole states. -/
namespace TagSpacing

/-- A linear undo history. Every undo step keeps the state from before it; a step without an undo stop
in front is folded into the step before, so that both are undone at once. -/
structure History (σ : Type) where
  /-- States to go back to, the latest first. -/
  undoSteps : List σ
  /-- States that were undone, the latest first. -/
  redoSteps : List σ
  /-- Whether the last step asked for no stop after it. -/
  joinNext : Bool
deriving DecidableEq

namespace History

variable {σ : Type}

def empty : History σ := ⟨[], [], false⟩

/-- Records a step that left the given state. -/
def commit (h : History σ) (state : σ) (stopBefore stopAfter : Bool) : History σ :=
  let joins := (!stopBefore || h.joinNext) && !h.undoSteps.isEmpty
  ⟨if joins then h.undoSteps else state :: h.undoSteps, [], !stopAfter⟩

/-- Steps back from the state `current`; gives the state to restore. -/
def undo (h : History σ) (current : σ) : Option (σ × History σ) :=
  match h.undoSteps with
  | [] => none
  | previous :: rest => some (previous, ⟨rest, current :: h.redoSteps, false⟩)

/-- Steps forward again from the state `current`; gives the state to restore. -/
def redo (h : History σ) (current : σ) : Option (σ × History σ) :=
  match h.redoSteps with
  | [] => none
  | next :: rest => some (next, ⟨current :: h.undoSteps, rest, false⟩)

/-- Number of undo steps. -/
def length (h : History σ) : Nat := h.undoSteps.length

def canUndo (h : History σ) : Bool := !h.undoSteps.isEmpty

def canRedo (h : History σ) : Bool := !h.redoSteps.isEmpty

end History

end TagSpacing
