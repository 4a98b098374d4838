import TagSpacing.Proofs.Slice
import TagSpacing.Snippet.Render

/-! Programs that match a single character of a set: with all matches replaced by nothing, the
characters outside the set are left. -/
namespace TagSpacing

namespace Regex

/-- The program that takes one character of a set. -/
def setProgram (s : CharSet) : Program := #[.take s, .accept]

theorem run_setProgram_taken (s : CharSet) (offset o : Nat) (before : Option Char) (rest : Text) :
    run (setProgram s) offset before [⟨1, o, []⟩] none rest = some ⟨o, offset, []⟩ := by
  cases rest <;> rfl

theorem run_setProgram_nil (s : CharSet) (offset : Nat) (before : Option Char) :
    run (setProgram s) offset before [] none [] = none := rfl

theorem run_setProgram_cons (s : CharSet) (offset : Nat) (before : Option Char) (c : Char)
    (rest : Text) :
    run (setProgram s) offset before [] none (c :: rest) =
      if s.contains c then some ⟨offset, offset + 1, []⟩
      else run (setProgram s) (offset + 1) (some c) [] none rest := by
  have hf : follow (setProgram s) ⟨offset, before, some c⟩ (1 + 2 * (setProgram s).size + 1)
      [⟨0, offset, []⟩] (Array.replicate (setProgram s).size false) [] = [⟨0, offset, []⟩] := rfl
  have ha : advance (setProgram s) ⟨offset, before, some c⟩ [⟨0, offset, []⟩] =
      (if s.contains c then [⟨1, offset, []⟩] else [], none) := by
    simp [advance, setProgram]
    split <;> rfl
  rw [run]
  cases hc : s.contains c with
  | true => simp [hf, ha, hc, run_setProgram_taken]
  | false => simp [hf, ha, hc]

/-- The first match is the first character of the set. -/
theorem run_setProgram (s : CharSet) (offset : Nat) (before : Option Char) (rest : Text) :
    (∀ c ∈ rest, s.contains c = false) ∧ run (setProgram s) offset before [] none rest = none ∨
    ∃ u c v, rest = u ++ c :: v ∧ (∀ x ∈ u, s.contains x = false) ∧ s.contains c = true ∧
      run (setProgram s) offset before [] none rest =
        some ⟨offset + u.length, offset + u.length + 1, []⟩ := by
  induction rest generalizing offset before with
  | nil => exact Or.inl ⟨by simp, run_setProgram_nil s offset before⟩
  | cons c rest ih =>
    rw [run_setProgram_cons]
    cases hc : s.contains c with
    | true => exact Or.inr ⟨[], c, rest, by simp [hc]⟩
    | false =>
      rcases ih (offset + 1) (some c) with ⟨hall, hrun⟩ | ⟨u, d, v, rfl, hu, hd, hrun⟩
      · exact Or.inl ⟨by simpa [hc] using hall, by simpa using hrun⟩
      · refine Or.inr ⟨c :: u, d, v, rfl, by simpa [hc] using hu, hd, ?_⟩
        simpa [Nat.add_assoc, Nat.add_comm 1] using hrun

end Regex

namespace Transform

open Regex

variable {s : CharSet} {t : Text} {format : List FormatItem}

/-- Every round starts behind the match of the round before, so the text that is left over bounds
the rounds. -/
theorem replaceAll_matchesFrom (hr : ∀ i j, replacement format t ⟨i, j, []⟩ = []) {n offset : Nat}
    (hn : t.length < n + offset) (ho : offset ≤ t.length) (previous : Option Nat) :
    replaceAll format t offset (matchesFrom (setProgram s) t n offset previous) =
      (t.drop offset).filter fun c => !s.contains c := by
  induction n generalizing offset previous with
  | zero => omega
  | succ n ih =>
    rw [matchesFrom, find?, if_pos ho]
    simp only
    rcases run_setProgram s offset (if offset = 0 then none else t[offset - 1]?)
      (t.drop offset) with ⟨hall, hrun⟩ | ⟨u, c, v, hd, hu, hc, hrun⟩
    · rw [hrun]
      exact (List.filter_eq_self.mpr fun c hc => by simp [hall c hc]).symm
    · have hlen : offset + u.length + 1 ≤ t.length := by
        have := congrArg List.length hd
        simp at this
        omega
      have hslice : t.slice offset (offset + u.length) = u := by simp [Text.slice, hd]
      have hdrop : t.drop (offset + u.length + 1) = v := by
        rw [Nat.add_assoc, ← List.drop_drop, hd]
        simp
      rw [hrun]
      simp only
      rw [if_neg (by omega), replaceAll, hr, hslice, ih (by omega) hlen, hdrop, hd]
      have hkept : u.filter (fun c => !s.contains c) = u :=
        List.filter_eq_self.mpr fun x hx => by simp [hu x hx]
      rw [List.filter_append, List.filter_cons_of_neg (by simp [hc]), hkept, List.append_nil]

end Transform

end TagSpacing
