import TagSpacing.Proofs.Concat

/-! From an offset to its position and back: the way leads to the same place, or from inside a line
ending to the end of its line. -/
namespace TagSpacing

namespace Layout

open Text

variable {ls : List Line}

/-- The way back never leads past the offset it started from. -/
theorem offsetIn_positionIn_le (h : Layout ls) (i : Nat) : offsetIn ls (positionIn ls i) ≤ i := by
  induction h generalizing i with
  | last hc =>
    rw [positionIn_singleton, offsetIn_cons_zero]
    exact Nat.min_le_left _ _
  | @cons content e ls _ _ hls ih =>
    rcases Nat.lt_or_ge i (Line.length ⟨content, some e⟩) with hlt | hge
    · rw [positionIn_cons_of_lt hlt, offsetIn_cons_zero]
      exact Nat.min_le_left _ _
    · obtain ⟨a, rfl⟩ := Nat.exists_eq_add_of_le hge
      rw [positionIn_cons_add _ hls.ne_nil, offsetIn_cons_succ _ hls.ne_nil]
      exact Nat.add_le_add_left (ih a) _

end Layout

namespace Text

variable {t : Text} {i : Nat}

theorem SplitsCrlf.lt_length (h : SplitsCrlf t i) : i < t.length := by
  obtain ⟨u, v, rfl, rfl⟩ := h
  simp

/-- No two neighbouring offsets lie inside line endings. -/
theorem SplitsCrlf.not_pred (h : SplitsCrlf t (i + 1)) : ¬ SplitsCrlf t i := by
  cases i with
  | zero => exact not_splitsCrlf_zero t
  | succ i =>
    intro hs
    have hcr := (splitsCrlf_succ_iff.mp h).1
    rw [(splitsCrlf_succ_iff.mp hs).2] at hcr
    exact absurd hcr (by decide)

instance (t : Text) : (i : Nat) → Decidable (SplitsCrlf t i)
  | 0 => isFalse (not_splitsCrlf_zero t)
  | _ + 1 => decidable_of_iff _ splitsCrlf_succ_iff.symm

theorem clamp_clamp (t : Text) (p : Position) : t.clamp (t.clamp p) = t.clamp p :=
  t.lines_layout.clampIn_clampIn p

theorem positionAt_of_length_le (h : t.length ≤ i) : t.positionAt i = t.positionAt t.length := by
  rw [positionAt, positionAt, Nat.min_eq_right h, Nat.min_self]

theorem offset_positionAt_le (t : Text) (i : Nat) : t.offset (t.positionAt i) ≤ i :=
  Nat.le_trans (t.lines_layout.offsetIn_positionIn_le _) (Nat.min_le_left _ _)

theorem offset_positionAt_of_not_splitsCrlf (h : ¬ SplitsCrlf t i) :
    t.offset (t.positionAt i) = min i t.length := by
  rcases Nat.le_total i t.length with hi | hi
  · rw [offset_positionAt hi h, Nat.min_eq_left hi]
  · have hend : ¬ SplitsCrlf t t.length := fun hs => Nat.lt_irrefl _ hs.lt_length
    rw [positionAt_of_length_le hi, offset_positionAt (Nat.le_refl _) hend, Nat.min_eq_right hi]

theorem offset_positionAt_of_splitsCrlf (h : SplitsCrlf t i) :
    t.offset (t.positionAt i) = i - 1 := by
  cases i with
  | zero => exact (not_splitsCrlf_zero t h).elim
  | succ i =>
    -- The offset in front is kept, and the way back keeps the order of offsets, so only the two
    -- offsets are left; the second is the offset of no position.
    have hi : i ≤ t.length := Nat.le_of_succ_le (Nat.le_of_lt h.lt_length)
    have hlow : t.offset (t.positionAt i) ≤ t.offset (t.positionAt (i + 1)) :=
      offset_mono (positionAt_mono (Nat.le_succ i))
    rw [offset_positionAt hi h.not_pred] at hlow
    have hhigh := t.offset_positionAt_le (i + 1)
    have hne : t.offset (t.positionAt (i + 1)) ≠ i + 1 := by
      intro heq
      have hnot := t.not_splitsCrlf_offset (t.positionAt (i + 1))
      rw [heq] at hnot
      exact hnot h
    omega

/-- Positions lead through their offset to the nearest valid position. Offsets up to the end of the
text lead through their position back to themselves, unless they split a line ending: no position
has such an offset, and they lead to the one in front. -/
theorem offset_positionAt_inverse (t : Text) :
    (∀ p, t.positionAt (t.offset p) = t.clamp p ∧ t.clamp (t.clamp p) = t.clamp p ∧
      ¬ SplitsCrlf t (t.offset p)) ∧
    ∀ i, t.offset (t.positionAt i) = if SplitsCrlf t i then i - 1 else min i t.length := by
  refine ⟨fun p => ⟨t.positionAt_offset p, t.clamp_clamp p, t.not_splitsCrlf_offset p⟩, ?_⟩
  intro i
  split
  · next h => exact offset_positionAt_of_splitsCrlf h
  · next h => exact offset_positionAt_of_not_splitsCrlf h

example : let t : Text := ['a', '\r', '\n', 'b']
    t.positionAt 2 = ⟨0, 2⟩ ∧ t.clamp ⟨0, 2⟩ = ⟨0, 1⟩ ∧ t.offset (t.positionAt 2) = 1 := by
  decide

end Text

end TagSpacing
