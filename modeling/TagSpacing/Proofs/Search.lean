import Mathlib
import TagSpacing.Proofs.Follow

/-! What the search of a program finds: it follows all ways at once and finds a match that starts
leftmost. -/
namespace TagSpacing.Regex

variable {program : Program} {t : Text} {place : Place} {step offset k : Nat} {threads : List Thread}

section Advance

variable {th : Thread} {m : Match}

theorem advance_cons_accept (hstep : program[th.step]? = some .accept) :
    advance program place (th :: threads) = ([], some ⟨th.start, place.offset, th.marks⟩) := by
  simp only [advance, hstep]

theorem advance_cons_take {s : CharSet} (hstep : program[th.step]? = some (.take s)) :
    advance program place (th :: threads) =
      (if place.after.any s.contains then
        { th with step := th.step + 1 } :: (advance program place threads).1
      else (advance program place threads).1, (advance program place threads).2) := by
  simp only [advance, hstep]
  split <;> rfl

theorem advance_cons_of_not_rests (hstep : ¬ Rests program th.step) :
    advance program place (th :: threads) = advance program place threads := by
  unfold Rests at hstep
  rw [advance]
  split <;> simp_all

/-- A match that is found is that of a thread that accepts. -/
theorem exists_of_advance_found (h : (advance program place threads).2 = some m) :
    ∃ th ∈ threads, program[th.step]? = some .accept ∧ m = ⟨th.start, place.offset, th.marks⟩ := by
  induction threads with
  | nil => cases h
  | cons th threads ih =>
    by_cases hrest : Rests program th.step
    · rcases hrest with ⟨s, hstep⟩ | hstep
      · rw [advance_cons_take hstep] at h
        obtain ⟨th', hmem, h⟩ := ih h
        exact ⟨th', List.mem_cons_of_mem _ hmem, h⟩
      · rw [advance_cons_accept hstep] at h
        exact ⟨th, List.mem_cons_self, hstep, (Option.some.inj h).symm⟩
    · rw [advance_cons_of_not_rests hrest] at h
      obtain ⟨th', hmem, h⟩ := ih h
      exact ⟨th', List.mem_cons_of_mem _ hmem, h⟩

/-- The threads that go on have taken the next character. -/
theorem exists_of_mem_advance (h : th ∈ (advance program place threads).1) :
    ∃ th' ∈ threads, th = { th' with step := th'.step + 1 } ∧
      ∃ s c, program[th'.step]? = some (.take s) ∧ place.after = some c ∧ s.contains c = true := by
  induction threads with
  | nil => cases h
  | cons th' threads ih =>
    have htail : th ∈ (advance program place threads).1 → ∃ th'' ∈ th' :: threads,
        th = { th'' with step := th''.step + 1 } ∧ ∃ s c, program[th''.step]? = some (.take s) ∧
          place.after = some c ∧ s.contains c = true := by
      intro h
      obtain ⟨th'', hmem, h⟩ := ih h
      exact ⟨th'', List.mem_cons_of_mem _ hmem, h⟩
    by_cases hrest : Rests program th'.step
    · rcases hrest with ⟨s, hstep⟩ | hstep
      · rw [advance_cons_take hstep] at h
        cases hafter : place.after.any s.contains with
        | true =>
          obtain ⟨c, hc, hs⟩ := (Option.any_eq_true _ _).mp hafter
          simp only [hafter, if_true] at h
          rcases List.mem_cons.mp h with rfl | h
          · exact ⟨th', List.mem_cons_self, rfl, s, c, hstep, hc, hs⟩
          · exact htail h
        | false =>
          simp only [hafter] at h
          exact htail h
      · rw [advance_cons_accept hstep] at h
        cases h
    · rw [advance_cons_of_not_rests hrest] at h
      exact htail h

theorem ordered_advance (h : Ordered threads) : Ordered (advance program place threads).1 ∧
    ∀ m, (advance program place threads).2 = some m →
      ∀ th ∈ (advance program place threads).1, th.start ≤ m.start := by
  induction threads with
  | nil => exact ⟨List.Pairwise.nil, fun m hm => by cases hm⟩
  | cons th threads ih =>
    obtain ⟨hth, hthreads⟩ := List.pairwise_cons.mp h
    obtain ⟨hord, hle⟩ := ih hthreads
    by_cases hrest : Rests program th.step
    · rcases hrest with ⟨s, hstep⟩ | hstep
      · rw [advance_cons_take hstep]
        split
        · refine ⟨List.pairwise_cons.mpr ⟨fun th' hmem => ?_, hord⟩, fun m hm => ?_⟩
          · obtain ⟨th'', hmem'', rfl, _⟩ := exists_of_mem_advance hmem
            exact hth th'' hmem''
          · refine List.forall_mem_cons.mpr ⟨?_, hle m hm⟩
            obtain ⟨th', hmem, _, rfl⟩ := exists_of_advance_found hm
            exact hth th' hmem
        · exact ⟨hord, hle⟩
      · rw [advance_cons_accept hstep]
        exact ⟨List.Pairwise.nil, fun m _ th' hmem => by cases hmem⟩
    · rw [advance_cons_of_not_rests hrest]
      exact ⟨hord, hle⟩

theorem Live.of_take {s : CharSet} (h : Live program t step offset)
    (hstep : program[step]? = some (.take s)) :
    (placeAt t offset).after.any s.contains = true ∧ Live program t (step + 1) (offset + 1) := by
  obtain ⟨marks, last, stop, hpath, hlast⟩ := h
  have hrest : Rests program step := Or.inl ⟨s, hstep⟩
  cases hpath with
  | refl => simp_all
  | slide hslide _ => exact (hrest.not_slides hslide).elim
  | take hstep' hc hs hp =>
    rw [hstep] at hstep'
    cases hstep'
    refine ⟨?_, marks, last, stop, hp, hlast⟩
    simp [placeAt, hc, hs]

/-- A thread that can match is given up for a match that starts no later, or goes on. -/
theorem exists_advance (hord : Ordered threads)
    (h : ∃ th ∈ threads, th.start ≤ k ∧ Rests program th.step ∧ Live program t th.step offset) :
    (∃ m, (advance program (placeAt t offset) threads).2 = some m ∧ m.start ≤ k) ∨
      ∃ th ∈ (advance program (placeAt t offset) threads).1,
        th.start ≤ k ∧ Live program t th.step (offset + 1) := by
  induction threads with
  | nil =>
    obtain ⟨th, hmem, _⟩ := h
    cases hmem
  | cons th threads ih =>
    obtain ⟨hth, hthreads⟩ := List.pairwise_cons.mp hord
    obtain ⟨th', hmem, hle, hrest', hlive⟩ := h
    by_cases hrest : Rests program th.step
    · rcases hrest with ⟨s, hstep⟩ | hstep
      · rw [advance_cons_take hstep]
        rcases List.mem_cons.mp hmem with rfl | hmem
        · obtain ⟨hafter, hlive⟩ := hlive.of_take hstep
          rw [if_pos hafter]
          exact Or.inr ⟨_, List.mem_cons_self, hle, hlive⟩
        · rcases ih hthreads ⟨th', hmem, hle, hrest', hlive⟩ with h | ⟨th'', hmem, h⟩
          · exact Or.inl h
          · refine Or.inr ⟨th'', ?_, h⟩
            split
            · exact List.mem_cons_of_mem _ hmem
            · exact hmem
      · rw [advance_cons_accept hstep]
        refine Or.inl ⟨_, rfl, ?_⟩
        rcases List.mem_cons.mp hmem with rfl | hmem
        · exact hle
        · exact Nat.le_trans (hth th' hmem) hle
    · rw [advance_cons_of_not_rests hrest]
      rcases List.mem_cons.mp hmem with rfl | hmem
      · exact (hrest hrest').elim
      · exact ih hthreads ⟨th', hmem, hle, hrest', hlive⟩

end Advance

/-- What the search knows in front of an offset: its threads are ways that began at `first` or later,
the earlier ones first, and the best match is one too. As long as a thread may still give a better
match, it began no later. -/
structure Searching (program : Program) (t : Text) (first offset : Nat) (threads : List Thread)
    (best : Option Match) : Prop where
  ordered : Ordered threads
  path (th : Thread) (h : th ∈ threads) :
    first ≤ th.start ∧ Path program t 0 th.start th.marks th.step offset
  accepts (m : Match) (h : best = some m) : first ≤ m.start ∧ m.start ≤ offset ∧ Accepts program t m
  start_le (m : Match) (h : best = some m) : ∀ th ∈ threads, th.start ≤ m.start

/-- The threads that are followed at an offset: as long as no match is known, one more starts there. -/
def entered (offset : Nat) (threads : List Thread) (best : Option Match) : List Thread :=
  if best.isNone then threads ++ [⟨0, offset, []⟩] else threads

/-- The threads that are ready at an offset. -/
def settled (program : Program) (t : Text) (offset : Nat) (threads : List Thread) (best : Option Match) :
    List Thread :=
  let threads := entered offset threads best
  follow program (placeAt t offset) (threads.length + 2 * program.size + 1) threads
    (Array.replicate program.size false) []

/-- The threads that go on behind an offset, and the match that was found there. -/
def advanced (program : Program) (t : Text) (offset : Nat) (threads : List Thread)
    (best : Option Match) : List Thread × Option Match :=
  advance program (placeAt t offset) (settled program t offset threads best)

namespace Searching

variable {first : Nat} {best : Option Match} {th : Thread}

theorem mem_entered (h : th ∈ entered offset threads best) :
    th ∈ threads ∨ best = none ∧ th = ⟨0, offset, []⟩ := by
  unfold entered at h
  split at h
  · rename_i hbest
    rcases List.mem_append.mp h with h | h
    · exact Or.inl h
    · exact Or.inr ⟨Option.isNone_iff_eq_none.mp hbest, List.mem_singleton.mp h⟩
  · exact Or.inl h

theorem ordered_entered (h : Searching program t first offset threads best) :
    Ordered (entered offset threads best) := by
  unfold entered
  split
  · refine List.pairwise_append.mpr ⟨h.ordered, List.pairwise_singleton _ _, ?_⟩
    intro th hth th' hth'
    rw [List.mem_singleton.mp hth']
    exact (h.path th hth).2.le
  · exact h.ordered

theorem ordered_settled (h : Searching program t first offset threads best) :
    Ordered (settled program t offset threads best) := by
  apply ordered_follow
  rw [List.reverse_nil, List.nil_append]
  exact h.ordered_entered

theorem path_settled (h : Searching program t first offset threads best) (hfirst : first ≤ offset) :
    ∀ th ∈ settled program t offset threads best,
      first ≤ th.start ∧ Path program t 0 th.start th.marks th.step offset := by
  refine forall_follow ?_ _ ?_ (List.forall_mem_nil _)
  · rintro th ⟨hfirst, hpath⟩ th' hmem
    obtain ⟨hstart, marks, hslide, hmarks⟩ := Thread.mem_slides_iff.mp hmem
    have hnext : Path program t th.step offset marks th'.step offset := .slide hslide (.refl _ _)
    rw [hstart, hmarks]
    exact ⟨hfirst, hpath.trans hnext⟩
  · intro th hmem
    rcases mem_entered hmem with hmem | ⟨_, rfl⟩
    · exact h.path th hmem
    · exact ⟨hfirst, .refl _ _⟩

theorem start_le_settled (h : Searching program t first offset threads best) {m : Match}
    (hbest : best = some m) : ∀ th ∈ settled program t offset threads best, th.start ≤ m.start := by
  refine forall_follow ?_ _ ?_ (List.forall_mem_nil _)
  · intro th hle th' hmem
    rw [(Thread.mem_slides_iff.mp hmem).1]
    exact hle
  · intro th hmem
    rcases mem_entered hmem with hmem | ⟨hnone, _⟩
    · exact h.start_le m hbest th hmem
    · rw [hnone] at hbest
      cases hbest

/-- A match that is found at an offset is a way through the program, and no later than the best. -/
theorem found (h : Searching program t first offset threads best) (hfirst : first ≤ offset)
    (ho : offset ≤ t.length) {m : Match}
    (hm : (Regex.advanced program t offset threads best).2 = some m) :
    (first ≤ m.start ∧ m.start ≤ offset ∧ Accepts program t m) ∧
      ∀ m', best = some m' → m.start ≤ m'.start := by
  obtain ⟨th, hmem, hstep, rfl⟩ := exists_of_advance_found hm
  obtain ⟨hle, hpath⟩ := h.path_settled hfirst th hmem
  exact ⟨⟨hle, hpath.le, ho, th.step, hpath, hstep⟩, fun m' hm' => h.start_le_settled hm' th hmem⟩

theorem eq_some_of_orElse {found : Option Match} {m : Match} (h : (found <|> best) = some m) :
    found = some m ∨ found = none ∧ best = some m := by
  cases found with
  | none => exact Or.inr ⟨rfl, h⟩
  | some m' => exact Or.inl h

/-- What the search knows in front of the next offset. -/
theorem advanced (h : Searching program t first offset threads best) (hfirst : first ≤ offset)
    (ho : offset ≤ t.length) :
    Searching program t first (offset + 1) (advanced program t offset threads best).1
      ((Regex.advanced program t offset threads best).2 <|> best) := by
  obtain ⟨hord, hle⟩ := ordered_advance h.ordered_settled
  have hstart : ∀ m, best = some m → ∀ th ∈ (Regex.advanced program t offset threads best).1,
      th.start ≤ m.start := by
    intro m hm th hth
    obtain ⟨th', hmem, rfl, _⟩ := exists_of_mem_advance hth
    exact h.start_le_settled hm th' hmem
  refine ⟨hord, fun th hth => ?_, fun m hm => ?_, fun m hm => ?_⟩
  · obtain ⟨th', hmem, rfl, s, c, hstep, hc, hs⟩ := exists_of_mem_advance hth
    obtain ⟨hle, hpath⟩ := h.path_settled hfirst th' hmem
    have htake : Path program t th'.step offset [] (th'.step + 1) (offset + 1) :=
      .take hstep hc hs (.refl _ _)
    exact ⟨hle, hpath.trans htake⟩
  · rcases eq_some_of_orElse hm with hfound | ⟨_, hm⟩
    · obtain ⟨⟨hle, hoffset, haccepts⟩, _⟩ := h.found hfirst ho hfound
      exact ⟨hle, by omega, haccepts⟩
    · obtain ⟨hle, hoffset, haccepts⟩ := h.accepts m hm
      exact ⟨hle, by omega, haccepts⟩
  · rcases eq_some_of_orElse hm with hfound | ⟨_, hm⟩
    · exact hle m hfound
    · exact hstart m hm

end Searching

/-- Whether a match that starts at `k` or before is known or in sight in front of an offset. -/
def InSight (program : Program) (t : Text) (k offset : Nat) (threads : List Thread)
    (best : Option Match) : Prop :=
  offset ≤ k ∧ Live program t 0 k ∨ (∃ m, best = some m ∧ m.start ≤ k) ∨
    ∃ th ∈ threads, th.start ≤ k ∧ Live program t th.step offset

namespace InSight

variable {first : Nat} {best : Option Match}

theorem unseen_fresh (n : Nat) : unseen (Array.replicate n false) = n := by
  simp [unseen]

/-- The search does not lose sight of a match. -/
theorem advanced (h : InSight program t k offset threads best)
    (hs : Searching program t first offset threads best) (hfirst : first ≤ offset)
    (ho : offset ≤ t.length) :
    InSight program t k (offset + 1) (advanced program t offset threads best).1
      ((Regex.advanced program t offset threads best).2 <|> best) := by
  have hbest : ∀ m, best = some m → m.start ≤ k →
      InSight program t k (offset + 1) (Regex.advanced program t offset threads best).1
        ((Regex.advanced program t offset threads best).2 <|> best) := by
    intro m hm hle
    refine Or.inr (Or.inl ?_)
    cases hfound : (Regex.advanced program t offset threads best).2 with
    | none => exact ⟨m, hm, hle⟩
    | some m' => exact ⟨m', rfl, Nat.le_trans ((hs.found hfirst ho hfound).2 m hm) hle⟩
  have hthread : ∀ th ∈ entered offset threads best, th.start ≤ k → Live program t th.step offset →
      InSight program t k (offset + 1) (Regex.advanced program t offset threads best).1
        ((Regex.advanced program t offset threads best).2 <|> best) := by
    intro th hmem hle hlive
    have hready : ∃ th ∈ settled program t offset threads best,
        th.start ≤ k ∧ Rests program th.step ∧ Live program t th.step offset := by
      refine exists_follow _ ?_ hs.ordered_entered (Or.inr ⟨th, hmem, hle, .of_live hlive⟩)
      rw [unseen_fresh]
      exact Nat.lt_succ_self _
    rcases exists_advance hs.ordered_settled hready with ⟨m, hm, hle⟩ | hnext
    · refine Or.inr (Or.inl ⟨m, ?_, hle⟩)
      rw [Regex.advanced, hm]
      rfl
    · exact Or.inr (Or.inr hnext)
  rcases h with ⟨hk, hlive⟩ | ⟨m, hm, hle⟩ | ⟨th, hmem, hle, hlive⟩
  · cases hnone : best with
    | some m =>
      obtain ⟨_, hstart, _⟩ := hs.accepts m hnone
      rw [← hnone]
      exact hbest m hnone (by omega)
    | none =>
      rcases Nat.lt_or_eq_of_le hk with hlt | rfl
      · exact Or.inl ⟨hlt, hlive⟩
      · rw [← hnone]
        refine hthread ⟨0, offset, []⟩ ?_ (Nat.le_refl _) hlive
        rw [entered, hnone]
        exact List.mem_append_right _ List.mem_cons_self
  · exact hbest m hm hle
  · refine hthread th ?_ hle hlive
    unfold entered
    split
    · exact List.mem_append_left _ hmem
    · exact hmem

end InSight

/-- The search goes on behind an offset unless the text is at its end, or a match is known and no
thread is left. -/
theorem run_eq (program : Program) (t : Text) (threads : List Thread) (best : Option Match)
    (ho : offset ≤ t.length) :
    run program offset (placeAt t offset).before threads best (t.drop offset) =
      let next := advanced program t offset threads best
      let best := next.2 <|> best
      if offset = t.length ∨ next.1 = [] ∧ best.isSome then best
      else run program (offset + 1) (placeAt t (offset + 1)).before next.1 best (t.drop (offset + 1)) := by
  have hplace : (⟨offset, (placeAt t offset).before, (t.drop offset).head?⟩ : Place) =
      placeAt t offset := by
    rw [List.head?_drop]
    rfl
  rw [run, hplace]
  cases hrest : t.drop offset with
  | nil =>
    have hlen : offset = t.length := by
      have := List.drop_eq_nil_iff.mp hrest
      omega
    rw [if_pos (Or.inl hlen)]
    rfl
  | cons c rest =>
    have hc : t[offset]? = some c := by
      rw [← List.head?_drop, hrest, List.head?_cons]
    have hlt : offset < t.length := (List.getElem?_eq_some_iff.mp hc).1
    have hdrop : t.drop (offset + 1) = rest := by
      rw [← List.drop_drop, hrest, List.drop_one, List.tail_cons]
    have hbefore : (placeAt t (offset + 1)).before = some c := by
      simpa [placeAt] using hc
    rw [hdrop, hbefore]
    simp only [List.isEmpty_iff, Nat.ne_of_lt hlt, false_or]
    rfl

theorem lt_length_of_mem_advanced {best : Option Match} {th : Thread}
    (h : th ∈ (advanced program t offset threads best).1) : offset < t.length := by
  obtain ⟨_, _, _, _, c, _, hc, _⟩ := exists_of_mem_advance h
  exact (List.getElem?_eq_some_iff.mp hc).1

/-- What a search has found when it ends is a way through the program, and no way starts before it. -/
theorem run_spec {first offset : Nat} {threads : List Thread} {best : Option Match}
    (hs : Searching program t first offset threads best) (hfirst : first ≤ offset)
    (ho : offset ≤ t.length) :
    (∀ m, run program offset (placeAt t offset).before threads best (t.drop offset) = some m →
      first ≤ m.start ∧ Accepts program t m) ∧
    ∀ k ≤ t.length, InSight program t k offset threads best →
      ∃ m, run program offset (placeAt t offset).before threads best (t.drop offset) = some m ∧
        m.start ≤ k := by
  have hnext := hs.advanced hfirst ho
  rw [run_eq program t threads best ho]
  simp only
  split
  · rename_i hstop
    refine ⟨fun m hm => ?_, fun k hk hsight => ?_⟩
    · obtain ⟨hle, _, haccepts⟩ := hnext.accepts m hm
      exact ⟨hle, haccepts⟩
    · rcases hsight.advanced hs hfirst ho with ⟨hlt, _⟩ | h | ⟨th, hmem, _⟩
      · rcases hstop with hend | ⟨_, hbest⟩
        · omega
        · obtain ⟨m, hm⟩ := Option.isSome_iff_exists.mp hbest
          obtain ⟨_, hstart, _⟩ := hnext.accepts m hm
          exact ⟨m, hm, by omega⟩
      · exact h
      · have hlt := lt_length_of_mem_advanced hmem
        rcases hstop with hend | ⟨hnil, _⟩
        · omega
        · rw [hnil] at hmem
          cases hmem
  · rename_i hgo
    have hlt : offset < t.length := by
      rcases Nat.lt_or_eq_of_le ho with hlt | hend
      · exact hlt
      · exact (hgo (Or.inl hend)).elim
    obtain ⟨hsound, hsight⟩ := run_spec hnext (by omega) hlt
    exact ⟨hsound, fun k hk h => hsight k hk (h.advanced hs hfirst ho)⟩
  termination_by t.length - offset

/-- Whether a result is the leftmost match from an offset on, or there is none. -/
def Leftmost (matching : Match → Prop) (offset : Nat) : Option Match → Prop
  | none => ∀ m, matching m → m.start < offset
  | some m => matching m ∧ offset ≤ m.start ∧ ∀ m', matching m' → offset ≤ m'.start → m.start ≤ m'.start

theorem Accepts.bounds {m : Match} (h : Accepts program t m) :
    m.start ≤ m.stop ∧ m.stop ≤ t.length := by
  obtain ⟨hle, last, hpath, _⟩ := h
  exact ⟨hpath.le, hle⟩

theorem find?_eq_run (ho : offset ≤ t.length) : find? program t offset =
    run program offset (placeAt t offset).before [] none (t.drop offset) := if_pos ho

theorem searching_nil (program : Program) (t : Text) (offset : Nat) :
    Searching program t offset offset [] none where
  ordered := List.Pairwise.nil
  path := fun th h => by cases h
  accepts := fun m h => by cases h
  start_le := fun m h => by cases h

/-- The search finds a leftmost match if there is any. -/
theorem leftmost_find? (program : Program) (t : Text) (offset : Nat) :
    Leftmost (Accepts program t) offset (find? program t offset) := by
  by_cases ho : offset ≤ t.length
  · obtain ⟨hsound, hsight⟩ := run_spec (searching_nil program t offset) (Nat.le_refl _) ho
    rw [← find?_eq_run ho] at hsound hsight
    have hfound : ∀ m', Accepts program t m' → offset ≤ m'.start →
        ∃ m, find? program t offset = some m ∧ m.start ≤ m'.start := by
      intro m' h hle
      obtain ⟨hstart, hstop⟩ := h.bounds
      obtain ⟨_, last, hpath, hlast⟩ := h
      exact hsight m'.start (by omega) (Or.inl ⟨hle, _, last, _, hpath, hlast⟩)
    cases hfind : find? program t offset with
    | none =>
      intro m' h
      by_contra hge
      obtain ⟨m, hm, _⟩ := hfound m' h (by omega)
      rw [hfind] at hm
      cases hm
    | some m =>
      obtain ⟨hle, haccepts⟩ := hsound m hfind
      refine ⟨haccepts, hle, fun m' h hle' => ?_⟩
      obtain ⟨m'', hm, hstart⟩ := hfound m' h hle'
      rw [hfind] at hm
      cases hm
      exact hstart
  · have hfind : find? program t offset = none := if_neg ho
    rw [hfind]
    intro m h
    obtain ⟨hstart, hstop⟩ := h.bounds
    omega

end TagSpacing.Regex
