import Mathlib
import TagSpacing.Proofs.Path

/-! How threads are followed at a place: each step of the program is reached once, and none of the ways
that can still match is lost sight of. -/
namespace TagSpacing.Regex

variable {program : Program} {t : Text} {place : Place} {step offset k : Nat} {seen : Array Bool}
  {threads ready : List Thread}

/-- The threads that follow a thread without taking a character, in order of preference. -/
def Thread.slides (program : Program) (place : Place) (th : Thread) : List Thread :=
  match program[th.step]? with
  | some (.jump target) => [{ th with step := target }]
  | some (.branch first second) => [{ th with step := first }, { th with step := second }]
  | some (.mark slot) => [{ th with step := th.step + 1, marks := (slot, place.offset) :: th.marks }]
  | some (.look look ascii) =>
    if look.holds (wordChar ascii) place.before place.after then [{ th with step := th.step + 1 }]
    else []
  | _ => []

namespace Thread

theorem length_slides_le (program : Program) (place : Place) (th : Thread) :
    (th.slides program place).length ≤ 2 := by
  unfold slides
  split
  · exact Nat.le_succ 1
  · exact Nat.le_refl 2
  · exact Nat.le_succ 1
  · split
    · exact Nat.le_succ 1
    · exact Nat.zero_le 2
  · exact Nat.zero_le 2

theorem mem_slides_iff {th th' : Thread} : th' ∈ th.slides program place ↔
    th'.start = th.start ∧ ∃ marks, Slides program place th.step marks th'.step ∧
      th'.marks = marks ++ th.marks := by
  constructor
  · intro h
    unfold slides at h
    split at h
    · rename_i target hstep
      rw [List.mem_singleton.mp h]
      exact ⟨rfl, [], .jump hstep, rfl⟩
    · rename_i first second hstep
      rcases List.mem_pair.mp h with rfl | rfl
      · exact ⟨rfl, [], .first hstep, rfl⟩
      · exact ⟨rfl, [], .second hstep, rfl⟩
    · rename_i slot hstep
      rw [List.mem_singleton.mp h]
      exact ⟨rfl, [(slot, place.offset)], .mark hstep, rfl⟩
    · rename_i look ascii hstep
      split at h
      · rename_i hlook
        rw [List.mem_singleton.mp h]
        exact ⟨rfl, [], .look hstep hlook, rfl⟩
      · cases h
    · cases h
  · obtain ⟨step', start', marks'⟩ := th'
    rintro ⟨rfl, marks, hslide, rfl⟩
    cases hslide with
    | jump hstep => simp [slides, hstep]
    | first hstep => simp [slides, hstep]
    | second hstep => simp [slides, hstep]
    | mark hstep => simp [slides, hstep]
    | look hstep hlook => simp [slides, hstep, hlook]

end Thread

/-- A step that was not reached before either rests, or is replaced by those that follow it. -/
theorem follow_cons (n : Nat) (th : Thread) (threads ready : List Thread) (seen : Array Bool)
    (hseen : seen.getD th.step true = false) :
    Rests program th.step ∧ follow program place (n + 1) (th :: threads) seen ready =
      follow program place n threads (seen.setIfInBounds th.step true) (th :: ready) ∨
    ¬ Rests program th.step ∧ follow program place (n + 1) (th :: threads) seen ready =
      follow program place n (th.slides program place ++ threads)
        (seen.setIfInBounds th.step true) ready := by
  rw [follow, hseen]
  unfold Thread.slides Rests
  cases hstep : program[th.step]? with
  | none => exact Or.inr ⟨by simp, rfl⟩
  | some i =>
    cases i with
    | take s => exact Or.inl ⟨Or.inl ⟨s, rfl⟩, rfl⟩
    | accept => exact Or.inl ⟨Or.inr rfl, rfl⟩
    | jump target => exact Or.inr ⟨by simp, rfl⟩
    | branch first second => exact Or.inr ⟨by simp, rfl⟩
    | mark slot => exact Or.inr ⟨by simp, rfl⟩
    | look look ascii =>
      refine Or.inr ⟨by simp, ?_⟩
      by_cases hlook : look.holds (wordChar ascii) place.before place.after = true
      · simp [hlook]
      · simp [hlook]

/-- What holds of some threads and of all that follow them holds of those that are ready. -/
theorem forall_follow {P : Thread → Prop}
    (hslide : ∀ th, P th → ∀ th' ∈ th.slides program place, P th') (n : Nat)
    (hthreads : ∀ th ∈ threads, P th) (hready : ∀ th ∈ ready, P th) :
    ∀ th ∈ follow program place n threads seen ready, P th := by
  induction n generalizing threads seen ready with
  | zero => simpa [follow] using hready
  | succ n ih =>
    cases threads with
    | nil => simpa [follow] using hready
    | cons th threads =>
      obtain ⟨hth, hthreads⟩ := List.forall_mem_cons.mp hthreads
      cases hseen : seen.getD th.step true with
      | true =>
        rw [follow, hseen]
        exact ih hthreads hready
      | false =>
        rcases follow_cons n th threads ready seen hseen with ⟨_, heq⟩ | ⟨_, heq⟩
        · rw [heq]
          exact ih hthreads (List.forall_mem_cons.mpr ⟨hth, hready⟩)
        · rw [heq]
          exact ih (List.forall_mem_append.mpr ⟨hslide th hth, hthreads⟩) hready

/-- Threads that started earlier come first. -/
def Ordered (threads : List Thread) : Prop := threads.Pairwise (·.start ≤ ·.start)

theorem ordered_slides_append {th : Thread} (h : Ordered (th :: threads)) :
    Ordered (th.slides program place ++ threads) := by
  obtain ⟨hth, hthreads⟩ := List.pairwise_cons.mp h
  have hstart : ∀ th' ∈ th.slides program place, th'.start = th.start := by
    intro th' hmem
    exact (Thread.mem_slides_iff.mp hmem).1
  refine List.pairwise_append.mpr ⟨?_, hthreads, ?_⟩
  · refine List.pairwise_of_forall_mem_list fun a ha b hb => ?_
    exact Nat.le_of_eq ((hstart a ha).trans (hstart b hb).symm)
  · intro a ha b hb
    rw [hstart a ha]
    exact hth b hb

theorem ordered_follow (n : Nat) (h : Ordered (ready.reverse ++ threads)) :
    Ordered (follow program place n threads seen ready) := by
  induction n generalizing threads seen ready with
  | zero => exact (List.pairwise_append.mp h).1
  | succ n ih =>
    cases threads with
    | nil => exact (List.pairwise_append.mp h).1
    | cons th threads =>
      cases hseen : seen.getD th.step true with
      | true =>
        rw [follow, hseen]
        refine ih (List.Pairwise.sublist ?_ h)
        exact List.Sublist.append_left (List.sublist_cons_self th threads) _
      | false =>
        rcases follow_cons n th threads ready seen hseen with ⟨_, heq⟩ | ⟨_, heq⟩
        · rw [heq]
          apply ih
          rwa [List.reverse_cons, List.append_assoc]
        · rw [heq]
          apply ih
          obtain ⟨hready, hthreads, hcross⟩ := List.pairwise_append.mp h
          refine List.pairwise_append.mpr ⟨hready, ordered_slides_append hthreads, ?_⟩
          intro a ha b hb
          rcases List.mem_append.mp hb with hb | hb
          · rw [(Thread.mem_slides_iff.mp hb).1]
            exact hcross a ha th List.mem_cons_self
          · exact hcross a ha b (List.mem_cons_of_mem _ hb)

/-- Whether steps that were not reached before lead from a step to one that rests and is live. -/
inductive Rises (program : Program) (t : Text) (offset : Nat) (seen : Array Bool) : Nat → Prop
  | rest {step : Nat} (hseen : seen.getD step true = false) (hrest : Rests program step)
    (hlive : Live program t step offset) : Rises program t offset seen step
  | slide {step step' : Nat} {marks : List (Nat × Nat)} (hseen : seen.getD step true = false)
    (h : Slides program (placeAt t offset) step marks step')
    (hp : Rises program t offset seen step') : Rises program t offset seen step

namespace Rises

theorem getD_seen (h : Rises program t offset seen step) : seen.getD step true = false := by
  cases h with
  | rest hseen _ _ => exact hseen
  | slide hseen _ _ => exact hseen

theorem getD_fresh {i : Instruction} (h : program[step]? = some i) :
    (Array.replicate program.size false).getD step true = false := by
  have hlt : step < program.size := (Array.getElem?_eq_some_iff.mp h).1
  simp [Array.getD, hlt]

theorem of_live (h : Live program t step offset) :
    Rises program t offset (Array.replicate program.size false) step := by
  obtain ⟨marks, last, stop, hpath, hlast⟩ := h
  induction hpath with
  | refl step offset =>
    exact .rest (getD_fresh hlast) (Or.inr hlast) ⟨[], step, offset, .refl step offset, hlast⟩
  | slide hslide hp ih =>
    obtain ⟨i, hi⟩ := hslide.exists_instruction
    exact .slide (getD_fresh hi) hslide (ih hlast)
  | take hstep hc hs hp ih =>
    exact .rest (getD_fresh hstep) (Or.inl ⟨_, hstep⟩) ⟨_, _, _, .take hstep hc hs hp, hlast⟩

theorem getD_set {x : Nat} (h : seen.getD step true = false) (hne : step ≠ x) :
    (seen.setIfInBounds x true).getD step true = false := by
  rw [Array.getD_eq_getD_getElem?, Array.getElem?_setIfInBounds, if_neg (Ne.symm hne),
    ← Array.getD_eq_getD_getElem?, h]

theorem getD_set_self (seen : Array Bool) (x : Nat) :
    (seen.setIfInBounds x true).getD x true = true := by
  rw [Array.getD_eq_getD_getElem?, Array.getElem?_setIfInBounds, if_pos rfl]
  split <;> rfl

/-- With one more step reached, the others still lead on, or that step itself does. -/
theorem set (h : Rises program t offset seen step) (x : Nat) :
    Rises program t offset (seen.setIfInBounds x true) step ∨
      Rests program x ∧ Live program t x offset ∨
      ∃ marks y, Slides program (placeAt t offset) x marks y ∧
        Rises program t offset (seen.setIfInBounds x true) y := by
  induction h with
  | @rest step hseen hrest hlive =>
    by_cases hx : step = x
    · subst hx
      exact Or.inr (Or.inl ⟨hrest, hlive⟩)
    · exact Or.inl (.rest (getD_set hseen hx) hrest hlive)
  | @slide step step' marks hseen hslide hp ih =>
    rcases ih with ih | ih
    · by_cases hx : step = x
      · subst hx
        exact Or.inr (Or.inr ⟨marks, step', hslide, ih⟩)
      · exact Or.inl (.slide (getD_set hseen hx) hslide ih)
    · exact Or.inr ih

/-- The same for the steps of some threads in order, when the first of them is followed. -/
theorem of_mem_cons {th th' : Thread} (hord : Ordered (th :: threads)) (hmem : th' ∈ th :: threads)
    (hle : th'.start ≤ k) (h : Rises program t offset seen th'.step) :
    (∃ th' ∈ threads, th'.start ≤ k ∧
      Rises program t offset (seen.setIfInBounds th.step true) th'.step) ∨
    th.start ≤ k ∧ (Rests program th.step ∧ Live program t th.step offset ∨
      ∃ marks y, Slides program (placeAt t offset) th.step marks y ∧
        Rises program t offset (seen.setIfInBounds th.step true) y) := by
  have hstart : th.start ≤ k := by
    rcases List.mem_cons.mp hmem with rfl | hmem
    · exact hle
    · exact Nat.le_trans ((List.pairwise_cons.mp hord).1 th' hmem) hle
  rcases h.set th.step with hrise | hnext
  · rcases List.mem_cons.mp hmem with rfl | hmem
    · have hset := hrise.getD_seen
      rw [getD_set_self] at hset
      cases hset
    · exact Or.inl ⟨th', hmem, hle, hrise⟩
  · exact Or.inr ⟨hstart, hnext⟩

end Rises

/-- The number of steps that were not reached. -/
def unseen (seen : Array Bool) : Nat := seen.toList.count false

theorem unseen_set {x : Nat} (h : seen.getD x true = false) :
    unseen (seen.setIfInBounds x true) + 1 = unseen seen := by
  rw [Array.getD_eq_getD_getElem?, ← Array.getElem?_toList] at h
  have hlt : x < seen.toList.length := by
    by_contra hge
    rw [List.getElem?_eq_none (by omega)] at h
    cases h
  have hx : seen.toList[x] = false := by
    rw [List.getElem?_eq_getElem hlt] at h
    exact h
  have hpos : 0 < seen.toList.count false := by
    rw [List.count_pos_iff, ← hx]
    exact List.getElem_mem hlt
  rw [unseen, unseen, Array.toList_setIfInBounds, List.count_set hlt, hx, beq_self_eq_true, if_pos rfl,
    if_neg (by decide)]
  omega

/-- Threads that are followed do not lose sight of a match: one that started no later than any that
can still match is among those that are ready, and can match. The steps that were not reached and the
threads that wait bound the rounds. -/
theorem exists_follow (n : Nat) (hn : threads.length + 2 * unseen seen < n) (hord : Ordered threads)
    (h : (∃ th ∈ ready, th.start ≤ k ∧ Rests program th.step ∧ Live program t th.step offset) ∨
      ∃ th ∈ threads, th.start ≤ k ∧ Rises program t offset seen th.step) :
    ∃ th ∈ follow program (placeAt t offset) n threads seen ready,
      th.start ≤ k ∧ Rests program th.step ∧ Live program t th.step offset := by
  induction n generalizing threads seen ready with
  | zero => omega
  | succ n ih =>
    cases threads with
    | nil =>
      rcases h with ⟨th, hmem, h⟩ | ⟨th, hmem, _⟩
      · exact ⟨th, List.mem_reverse.mpr hmem, h⟩
      · cases hmem
    | cons th threads =>
      obtain ⟨hth, hthreads⟩ := List.pairwise_cons.mp hord
      simp only [List.length_cons] at hn
      cases hseen : seen.getD th.step true with
      | true =>
        rw [follow, hseen]
        refine ih (by omega) hthreads ?_
        rcases h with h | ⟨th', hmem, hle, hrise⟩
        · exact Or.inl h
        · rcases List.mem_cons.mp hmem with rfl | hmem
          · rw [hrise.getD_seen] at hseen
            cases hseen
          · exact Or.inr ⟨th', hmem, hle, hrise⟩
      | false =>
        have hcount := unseen_set hseen
        have hlength := th.length_slides_le program (placeAt t offset)
        have hnext : (∃ th' ∈ ready, th'.start ≤ k ∧ Rests program th'.step ∧
              Live program t th'.step offset) ∨
            (∃ th' ∈ threads, th'.start ≤ k ∧
              Rises program t offset (seen.setIfInBounds th.step true) th'.step) ∨
            th.start ≤ k ∧ (Rests program th.step ∧ Live program t th.step offset ∨
              ∃ marks y, Slides program (placeAt t offset) th.step marks y ∧
                Rises program t offset (seen.setIfInBounds th.step true) y) := by
          rcases h with h | ⟨th', hmem, hle, hrise⟩
          · exact Or.inl h
          · exact Or.inr (hrise.of_mem_cons hord hmem hle)
        rcases follow_cons n th threads ready seen hseen with ⟨hrest, heq⟩ | ⟨hrest, heq⟩
        · rw [heq]
          refine ih (by omega) hthreads ?_
          rcases hnext with ⟨th', hmem, h⟩ | h | ⟨hle, h | ⟨marks, y, hslide, _⟩⟩
          · exact Or.inl ⟨th', List.mem_cons_of_mem _ hmem, h⟩
          · exact Or.inr h
          · exact Or.inl ⟨th, List.mem_cons_self, hle, h⟩
          · exact (hrest.not_slides hslide).elim
        · rw [heq]
          refine ih (by rw [List.length_append]; omega) (ordered_slides_append hord) ?_
          rcases hnext with h | ⟨th', hmem, h⟩ | ⟨hle, ⟨hrest', _⟩ | ⟨marks, y, hslide, hrise⟩⟩
          · exact Or.inl h
          · exact Or.inr ⟨th', List.mem_append_right _ hmem, h⟩
          · exact (hrest hrest').elim
          · have hmem : (⟨y, th.start, marks ++ th.marks⟩ : Thread) ∈
                th.slides program (placeAt t offset) :=
              Thread.mem_slides_iff.mpr ⟨rfl, marks, hslide, rfl⟩
            exact Or.inr ⟨_, List.mem_append_left _ hmem, hle, hrise⟩

end TagSpacing.Regex
