import TagSpacing.History

/-! What a commit leaves of an undo history. -/
namespace TagSpacing.History

variable {σ : Type}

/-- A step joins the one before it where one of both asked for no stop between them. -/
theorem undoSteps_commit (h : History σ) (state : σ) (stopBefore stopAfter : Bool) :
    (h.commit state stopBefore stopAfter).undoSteps =
      if (stopBefore = false ∨ h.joinNext = true) ∧ h.undoSteps ≠ [] then h.undoSteps
      else state :: h.undoSteps := by
  simp [commit]

theorem length_commit_le (h : History σ) (state : σ) (stopBefore stopAfter : Bool) :
    (h.commit state stopBefore stopAfter).length ≤ h.length + 1 := by
  simp only [length, commit]
  split
  · exact Nat.le_succ _
  · exact Nat.le_refl _

end TagSpacing.History
