import Mathlib
import TagSpacing.Proofs.Fitting

/-! The program of a pattern means what the pattern means: the ways through it are the ways in which
a text fits the pattern. Each part of a pattern has its steps in one place of the program; between
their first step and the step behind them the program does what the part stands for. -/
namespace TagSpacing.Regex

namespace Pattern

variable {p q : Pattern} {greedy : Bool} {start least : Nat}

theorem flatMap_range_succ {α : Type*} (f : Nat → List α) (n : Nat) :
    (List.range (n + 1)).flatMap f = f 0 ++ (List.range n).flatMap fun i => f (i + 1) := by
  rw [List.range_succ_eq_map, List.flatMap_cons, List.flatMap_map]

theorem code_times_one_none : code start (times p 1 none greedy) =
    code start p ++ [option greedy start (start + p.size + 1)] := by
  simp [code]

theorem code_times_none : code start (times p (least + 2) none greedy) =
    code start p ++ code (start + p.size) (times p (least + 1) none greedy) := by
  have hplace : ∀ i, start + (i + 1) * p.size = start + p.size + i * p.size := by
    intro i
    rw [Nat.succ_mul]
    omega
  have hstop : start + (least + 2) * p.size = start + p.size + (least + 1) * p.size := hplace (least + 1)
  simp only [code]
  rw [flatMap_range_succ, hstop, List.append_assoc]
  simp only [hplace, Nat.zero_mul, Nat.add_zero]

theorem code_times_zero : code start (times p 0 (some 0) greedy) = [] := rfl

theorem code_times_optional (m : Nat) : code start (times p 0 (some (m + 1)) greedy) =
    option greedy (start + 1) (start + (m + 1) * (p.size + 1)) ::
      (code (start + 1) p ++ code (start + 1 + p.size) (times p 0 (some m) greedy)) := by
  have hplace : ∀ i, start + (i + 1) * (p.size + 1) = start + 1 + p.size + i * (p.size + 1) := by
    intro i
    rw [Nat.succ_mul]
    omega
  simp only [code]
  rw [Nat.sub_zero, flatMap_range_succ]
  simp [hplace]

theorem code_times_required (m : Nat) : code start (times p (least + 1) (some m) greedy) =
    code start p ++ code (start + p.size) (times p least (some (m - 1)) greedy) := by
  have hplace : ∀ i, start + (i + 1) * p.size = start + p.size + i * p.size := by
    intro i
    rw [Nat.succ_mul]
    omega
  have hcount : m - (least + 1) = m - 1 - least := by omega
  simp only [code]
  rw [flatMap_range_succ, hplace least, hcount, List.append_assoc]
  simp only [hplace, Nat.zero_mul, Nat.add_zero]

theorem code_times_star : code start (times p 0 none greedy) =
    option greedy (start + 1) (start + p.size + 2) :: (code (start + 1) p ++
      [if 0 < p.leastLength then .jump start
        else option greedy (start + 1) (start + p.size + 2)]) := rfl

theorem size_group (index : Nat) : (group index p).size = p.size + 2 := rfl

theorem size_sequence : (sequence p q).size = p.size + q.size := rfl

theorem size_choice : (choice p q).size = p.size + q.size + 2 := rfl

theorem size_times_star : (times p 0 none greedy).size = p.size + 2 := rfl

theorem size_times_none : (times p (least + 1) none greedy).size = (least + 1) * p.size + 1 := rfl

theorem size_times_some (m : Nat) :
    (times p least (some m) greedy).size = least * p.size + (m - least) * (p.size + 1) := by
  cases least <;> rfl

/-- How the code of a repetition is built up from that of fewer rounds. -/
theorem times_induction {P : Nat → Option Nat → Prop} (star : P 0 none) (plus : P 1 none)
    (more : ∀ least, P (least + 1) none → P (least + 2) none) (zero : P 0 (some 0))
    (optional : ∀ m, P 0 (some m) → P 0 (some (m + 1)))
    (required : ∀ least m, P least (some (m - 1)) → P (least + 1) (some m)) :
    ∀ least most, P least most := by
  intro least most
  cases most with
  | none =>
    match least with
    | 0 => exact star
    | least + 1 =>
      induction least with
      | zero => exact plus
      | succ least ih => exact more least ih
  | some m =>
    induction least generalizing m with
    | zero =>
      induction m with
      | zero => exact zero
      | succ m ih => exact optional m ih
    | succ least ih => exact required least m (ih (m - 1))

theorem length_code (p : Pattern) (start : Nat) : (p.code start).length = p.size := by
  induction p generalizing start with
  | empty => rfl
  | set s => rfl
  | look l ascii => rfl
  | group index p ih =>
    simp [code, size_group, ih]
  | sequence p q ihp ihq =>
    simp [code, size_sequence, ihp, ihq]
  | choice p q ihp ihq =>
    simp only [code, size_choice, List.length_cons, List.length_append, ihp, ihq]
    omega
  | times p least most greedy ih =>
    revert start
    refine times_induction (P := fun least most => ∀ start,
      (code start (times p least most greedy)).length = (times p least most greedy).size)
      ?star ?plus ?more ?zero ?optional ?required least most
    case star =>
      intro start
      simp [code_times_star, size_times_star, ih]
    case plus =>
      intro start
      simp [code_times_one_none, size_times_none, ih]
    case more =>
      intro least hmore start
      rw [code_times_none, List.length_append, ih, hmore, size_times_none, size_times_none,
        Nat.succ_mul (least + 1)]
      omega
    case zero =>
      intro start
      simp [code_times_zero, size_times_some]
    case optional =>
      intro m hoptional start
      rw [code_times_optional, List.length_cons, List.length_append, ih, hoptional, size_times_some,
        size_times_some, Nat.sub_zero, Nat.sub_zero, Nat.succ_mul m]
      omega
    case required =>
      intro least m hrequired start
      have hcount : m - 1 - least = m - (least + 1) := by omega
      rw [code_times_required, List.length_append, ih, hrequired, size_times_some, size_times_some,
        hcount, Nat.succ_mul least]
      omega

end Pattern

/-- Whether a program has some code at a step. -/
def Contains (program : Program) (start : Nat) (code : List Instruction) : Prop :=
  ∀ (i : Nat) (ins : Instruction), code[i]? = some ins → program[start + i]? = some ins

theorem contains_cons_iff {program : Program} {start : Nat} {ins : Instruction}
    {code : List Instruction} : Contains program start (ins :: code) ↔
      program[start]? = some ins ∧ Contains program (start + 1) code := by
  constructor
  · intro h
    refine ⟨h 0 ins rfl, fun i ins' hi => ?_⟩
    rw [Nat.add_assoc, Nat.add_comm 1]
    exact h (i + 1) ins' hi
  · rintro ⟨h, hcode⟩ i ins' hi
    cases i with
    | zero =>
      cases hi
      exact h
    | succ i =>
      have := hcode i ins' hi
      rwa [Nat.add_assoc, Nat.add_comm 1] at this

theorem contains_append_iff {program : Program} {start : Nat} {code code' : List Instruction} :
    Contains program start (code ++ code') ↔
      Contains program start code ∧ Contains program (start + code.length) code' := by
  constructor
  · intro h
    refine ⟨fun i ins hi => h i ins ?_, fun i ins hi => ?_⟩
    · have hlt : i < code.length := (List.getElem?_eq_some_iff.mp hi).1
      rwa [List.getElem?_append_left hlt]
    · rw [Nat.add_assoc]
      refine h _ ins ?_
      rwa [List.getElem?_append_right (Nat.le_add_right _ _), Nat.add_sub_cancel_left]
  · rintro ⟨h, h'⟩ i ins hi
    by_cases hlt : i < code.length
    · rw [List.getElem?_append_left hlt] at hi
      exact h i ins hi
    · rw [List.getElem?_append_right (by omega)] at hi
      have := h' _ ins hi
      rwa [Nat.add_assoc, Nat.add_sub_cancel' (by omega)] at this

variable {program : Program} {t : Text} {step next : Nat}

/-- Whether a program leads from a step to another just as a passage does: it can take the passage, and
each way on to the end begins with the passage. -/
structure Performs (program : Program) (t : Text) (step : Nat) (a : Passage) (next : Nat) : Prop where
  leads {start stop : Nat} {marks : List (Nat × Nat)} (h : a start marks stop) :
    Path program t step start marks next stop
  splits {n start last stop : Nat} {marks : List (Nat × Nat)}
    (hw : Walk program t n step start marks last stop) (hlast : program[last]? = some .accept) :
    ∃ n' ≤ n, ∃ mid inner outer, a start inner mid ∧ Walk program t n' next mid outer last stop ∧
      marks = outer ++ inner

/-- Whether a step leads on to either of two steps and does nothing else. -/
structure Chooses (program : Program) (t : Text) (step one other : Nat) : Prop where
  first (offset : Nat) : Path program t step offset [] one offset
  second (offset : Nat) : Path program t step offset [] other offset
  splits {n start last stop : Nat} {marks : List (Nat × Nat)}
    (hw : Walk program t n step start marks last stop) (hlast : program[last]? = some .accept) :
    ∃ n' < n, Walk program t n' one start marks last stop ∨
      Walk program t n' other start marks last stop

namespace Chooses

variable {first second : Nat}

theorem of_branch (h : program[step]? = some (.branch first second)) :
    Chooses program t step first second where
  first offset := .slide (.first h) (.refl first offset)
  second offset := .slide (.second h) (.refl second offset)
  splits hw hlast := by
    obtain ⟨n', hlt, inner, step', outer, hslide, hrest, rfl⟩ := hw.exists_slides hlast h nofun nofun
    obtain ⟨rfl, hstep⟩ := (slides_iff h).mp hslide
    rw [List.append_nil]
    refine ⟨n', hlt, ?_⟩
    rcases hstep with rfl | rfl
    · exact Or.inl hrest
    · exact Or.inr hrest

theorem swap (h : Chooses program t step first second) : Chooses program t step second first where
  first := h.second
  second := h.first
  splits hw hlast := by
    obtain ⟨n', hlt, hw⟩ := h.splits hw hlast
    exact ⟨n', hlt, hw.symm⟩

/-- The order in which the two are tried makes no difference here. -/
theorem of_option {greedy : Bool} (h : program[step]? = some (Pattern.option greedy first second)) :
    Chooses program t step first second := by
  cases greedy with
  | true => exact of_branch h
  | false => exact (of_branch h).swap

/-- A step that jumps to one that chooses chooses too. -/
theorem of_jump {back : Nat} (hc : Chooses program t step first second)
    (h : program[back]? = some (.jump step)) : Chooses program t back first second where
  first offset := .slide (.jump h) (hc.first offset)
  second offset := .slide (.jump h) (hc.second offset)
  splits hw hlast := by
    obtain ⟨n', hlt, inner, step', outer, hslide, hrest, rfl⟩ := hw.exists_slides hlast h nofun nofun
    obtain ⟨rfl, rfl⟩ := (slides_iff h).mp hslide
    obtain ⟨n'', hlt', hrest⟩ := hc.splits hrest hlast
    rw [List.append_nil]
    exact ⟨n'', by omega, hrest⟩

end Chooses

namespace Performs

open Passage

variable {a b : Passage}

theorem refl (step : Nat) : Performs program t step stay step where
  leads h := by
    obtain ⟨rfl, rfl⟩ := h
    exact .refl step _
  splits {n start last stop marks} hw _ :=
    ⟨n, Nat.le_refl n, start, [], marks, ⟨rfl, rfl⟩, hw, (List.append_nil marks).symm⟩

theorem of_take {s : CharSet} (h : program[step]? = some (.take s)) :
    Performs program t step (char t s) (step + 1) where
  leads hchar := by
    obtain ⟨⟨c, hc, hs⟩, rfl, rfl⟩ := hchar
    exact .take h hc hs (.refl _ _)
  splits {_ start _ _ marks} hw hlast := by
    rcases hw.of_lt hlast h nofun with ⟨n', hlt, s', c, hs', hc, hs, hw⟩ | ⟨_, _, _, _, _, hslide, _⟩
    · cases hs'
      exact ⟨n', Nat.le_of_lt hlt, start + 1, [], marks, ⟨⟨c, hc, hs⟩, rfl, rfl⟩, hw,
        (List.append_nil marks).symm⟩
    · exact ((slides_iff h).mp hslide).elim

/-- A step that takes no character and always goes on at the same step. -/
theorem of_slides {i : Instruction} (h : program[step]? = some i) (htake : ∀ s, i ≠ .take s)
    (haccept : i ≠ .accept) (hslides : ∀ start marks step',
      Slides program (placeAt t start) step marks step' ↔ step' = next ∧ a start marks start)
    (hstay : ∀ start marks stop, a start marks stop → stop = start) :
    Performs program t step a next where
  leads {start _ marks} ha := by
    cases hstay _ _ _ ha
    exact .slide ((hslides start marks next).mpr ⟨rfl, ha⟩) (.refl _ _)
  splits {_ start _ _ _} hw hlast := by
    obtain ⟨n', hlt, inner, step', outer, hslide, hrest, rfl⟩ := hw.exists_slides hlast h htake haccept
    obtain ⟨rfl, ha⟩ := (hslides start inner step').mp hslide
    exact ⟨n', Nat.le_of_lt hlt, start, inner, outer, ha, hrest, rfl⟩

theorem of_mark {slot : Nat} (h : program[step]? = some (.mark slot)) :
    Performs program t step (note slot) (step + 1) := by
  refine of_slides h nofun nofun (fun start marks step' => ?_) (fun start marks stop hnote => hnote.2)
  rw [slides_iff h]
  simp only [note, placeAt, and_true]
  exact and_comm

theorem of_look {look : Look} {ascii : Bool} (h : program[step]? = some (.look look ascii)) :
    Performs program t step (check t look ascii) (step + 1) := by
  refine of_slides h nofun nofun (fun start marks step' => ?_)
    (fun start marks stop hcheck => hcheck.2.2)
  rw [slides_iff h]
  simp only [check, stay, and_true]
  constructor
  · rintro ⟨hlook, hmarks, hstep⟩
    exact ⟨hstep, hlook, hmarks⟩
  · rintro ⟨hstep, hlook, hmarks⟩
    exact ⟨hlook, hmarks, hstep⟩

theorem of_jump {target : Nat} (h : program[step]? = some (.jump target)) :
    Performs program t step stay target := by
  refine of_slides h nofun nofun (fun start marks step' => ?_) (fun start marks stop hstay => hstay.2)
  rw [slides_iff h]
  simp only [stay, and_true]
  exact and_comm

theorem andThen {mid : Nat} (ha : Performs program t step a mid) (hb : Performs program t mid b next) :
    Performs program t step (a.andThen b) next where
  leads h := by
    obtain ⟨_, _, _, h, h', rfl⟩ := h
    exact (ha.leads h).trans (hb.leads h')
  splits hw hlast := by
    obtain ⟨n', hle, mid, inner, outer, h, hrest, rfl⟩ := ha.splits hw hlast
    obtain ⟨n'', hle', mid', inner', outer', h', hrest', rfl⟩ := hb.splits hrest hlast
    exact ⟨n'', hle'.trans hle, mid', inner' ++ inner, outer', ⟨mid, inner, inner', h, h', rfl⟩, hrest',
      List.append_assoc outer' inner' inner⟩

theorem either {one other : Nat} (h : Chooses program t step one other)
    (ha : Performs program t one a next) (hb : Performs program t other b next) :
    Performs program t step (a.either b) next where
  leads {start _ marks} hab := by
    rw [← List.append_nil marks]
    rcases hab with hab | hab
    · exact (h.first start).trans (ha.leads hab)
    · exact (h.second start).trans (hb.leads hab)
  splits hw hlast := by
    obtain ⟨n', hlt, hw' | hw'⟩ := h.splits hw hlast
    · obtain ⟨n'', hle, mid, inner, outer, hab, hrest, rfl⟩ := ha.splits hw' hlast
      exact ⟨n'', by omega, mid, inner, outer, Or.inl hab, hrest, rfl⟩
    · obtain ⟨n'', hle, mid, inner, outer, hab, hrest, rfl⟩ := hb.splits hw' hlast
      exact ⟨n'', by omega, mid, inner, outer, Or.inr hab, hrest, rfl⟩

/-- A loop: where it is entered and behind each round, the body comes again or the loop is left. Ways
that go on behind a round are shorter, as choosing the body is a step. -/
theorem rounds {body out back : Nat} (hstep : Chooses program t step body out)
    (hbody : Performs program t body a back) (hback : Chooses program t back body out) :
    Performs program t step (a.repeated 0 none) out where
  leads {start stop marks} h := by
    obtain ⟨n, _, _, h⟩ := h
    induction n generalizing step start marks with
    | zero =>
      obtain ⟨rfl, rfl⟩ := h
      exact hstep.second _
    | succ n ih =>
      obtain ⟨mid, inner, outer, h, h', rfl⟩ := h
      have hround := (hstep.first start).trans (hbody.leads h)
      rw [List.append_nil] at hround
      exact hround.trans (ih hback (Nat.zero_le n) nofun h')
  splits {n start last stop marks} hw hlast := by
    induction n using Nat.strong_induction_on generalizing step start marks with
    | _ n ih =>
      obtain ⟨n', hlt, hw' | hw'⟩ := hstep.splits hw hlast
      · obtain ⟨n'', hle, mid, inner, outer, h, hrest, rfl⟩ := hbody.splits hw' hlast
        obtain ⟨k, hk, mid', inner', outer', ⟨m, _, _, h'⟩, hrest', rfl⟩ :=
          ih n'' (by omega) hback hrest
        refine ⟨k, by omega, mid', inner' ++ inner, outer', ⟨m + 1, ?_, nofun, ?_⟩, hrest',
          List.append_assoc outer' inner' inner⟩
        · exact Nat.zero_le _
        · exact ⟨mid, inner, inner', h, h', rfl⟩
      · exact ⟨n', Nat.le_of_lt hlt, start, [], marks, ⟨0, Nat.le_refl 0, nofun, rfl, rfl⟩, hw',
          (List.append_nil marks).symm⟩

end Performs

open Pattern Passage

section Times

variable {p : Pattern} {greedy : Bool}

theorem performs_star {start : Nat} (ih : ∀ start, Contains program start (p.code start) →
      Performs program t start (p.fits t) (start + p.size))
    (h : Contains program start ((times p 0 none greedy).code start)) :
    Performs program t start ((p.fits t).repeated 0 none) (start + (times p 0 none greedy).size) := by
  rw [code_times_star] at h
  obtain ⟨hstep, h⟩ := contains_cons_iff.mp h
  obtain ⟨hbody, hback⟩ := contains_append_iff.mp h
  have hback := (contains_cons_iff.mp hback).1
  rw [length_code] at hback
  have hchoose := Chooses.of_option (t := t) hstep
  refine Performs.rounds hchoose (ih _ hbody) ?_
  split at hback
  · exact hchoose.of_jump hback
  · exact .of_option hback

/-- The program of a repetition, if that of the repeated pattern leads on as it should. -/
theorem performs_times (least : Nat) (most : Option Nat) (start : Nat)
    (ih : ∀ start, Contains program start (p.code start) →
      Performs program t start (p.fits t) (start + p.size))
    (h : Contains program start ((times p least most greedy).code start)) :
    Performs program t start ((p.fits t).repeated least most)
      (start + (times p least most greedy).size) := by
  revert start
  refine times_induction (P := fun least most => ∀ start,
    Contains program start ((times p least most greedy).code start) →
      Performs program t start ((p.fits t).repeated least most)
        (start + (times p least most greedy).size))
    ?star ?plus ?more ?zero ?optional ?required least most
  case star => exact fun start => performs_star ih
  case plus =>
    intro start h
    rw [code_times_one_none] at h
    obtain ⟨hbody, hback⟩ := contains_append_iff.mp h
    have hback := (contains_cons_iff.mp hback).1
    rw [length_code] at hback
    have hchoose := Chooses.of_option (t := t) hback
    have hnext : start + (times p 1 none greedy).size = start + p.size + 1 := by
      rw [size_times_none]
      omega
    rw [hnext, repeated_succ]
    exact (ih start hbody).andThen (.rounds hchoose (ih start hbody) hchoose)
  case more =>
    intro least hmore start h
    rw [code_times_none] at h
    obtain ⟨hbody, hrest⟩ := contains_append_iff.mp h
    rw [length_code] at hrest
    have hnext : start + (times p (least + 2) none greedy).size =
        start + p.size + (times p (least + 1) none greedy).size := by
      rw [size_times_none, size_times_none, Nat.succ_mul (least + 1)]
      omega
    rw [hnext, repeated_succ]
    exact (ih start hbody).andThen (hmore _ hrest)
  case zero =>
    intro start _
    have hsize : (times p 0 (some 0) greedy).size = 0 := by simp [size_times_some]
    rw [repeated_zero, hsize]
    exact .refl start
  case optional =>
    intro m hoptional start h
    rw [code_times_optional] at h
    obtain ⟨hstep, h⟩ := contains_cons_iff.mp h
    obtain ⟨hbody, hrest⟩ := contains_append_iff.mp h
    rw [length_code] at hrest
    have hout : (times p 0 (some (m + 1)) greedy).size = (m + 1) * (p.size + 1) := by
      rw [size_times_some, Nat.zero_mul, Nat.zero_add, Nat.sub_zero]
    have hnext : start + (m + 1) * (p.size + 1) =
        start + 1 + p.size + (times p 0 (some m) greedy).size := by
      rw [size_times_some, Nat.sub_zero, Nat.succ_mul m]
      omega
    rw [hout, repeated_optional]
    refine Performs.either (.of_option hstep) ?_ (.refl _)
    rw [hnext]
    exact (ih _ hbody).andThen (hoptional _ hrest)
  case required =>
    intro least m hrequired start h
    rw [code_times_required] at h
    obtain ⟨hbody, hrest⟩ := contains_append_iff.mp h
    rw [length_code] at hrest
    have hnext : start + (times p (least + 1) (some m) greedy).size =
        start + p.size + (times p least (some (m - 1)) greedy).size := by
      have hcount : m - 1 - least = m - (least + 1) := by omega
      rw [size_times_some, size_times_some, hcount, Nat.succ_mul least]
      omega
    rw [hnext, repeated_succ]
    exact (ih start hbody).andThen (hrequired _ hrest)

end Times

/-- The program of a pattern leads from its first step to the one behind it just as texts fit the
pattern. -/
theorem performs_code (p : Pattern) {start : Nat} (h : Contains program start (p.code start)) :
    Performs program t start (p.fits t) (start + p.size) := by
  induction p generalizing start with
  | empty => exact .refl start
  | set s => exact .of_take (contains_cons_iff.mp h).1
  | look l ascii => exact .of_look (contains_cons_iff.mp h).1
  | group index p ih =>
    obtain ⟨hopen, h⟩ := contains_cons_iff.mp h
    obtain ⟨hbody, hclose⟩ := contains_append_iff.mp h
    rw [length_code] at hclose
    have hnext : start + (group index p).size = start + 1 + p.size + 1 := by
      rw [size_group]
      omega
    rw [hnext]
    exact (Performs.of_mark hopen).andThen
      ((ih hbody).andThen (.of_mark (contains_cons_iff.mp hclose).1))
  | sequence p q ihp ihq =>
    obtain ⟨hp, hq⟩ := contains_append_iff.mp h
    rw [length_code] at hq
    rw [size_sequence, ← Nat.add_assoc]
    exact (ihp hp).andThen (ihq hq)
  | choice p q ihp ihq =>
    obtain ⟨hbranch, h⟩ := contains_cons_iff.mp h
    obtain ⟨hp, h⟩ := contains_append_iff.mp h
    obtain ⟨hjump, hq⟩ := contains_cons_iff.mp h
    rw [length_code] at hjump hq
    have hsecond : start + 1 + p.size + 1 = start + p.size + 2 := by omega
    have hnext : start + (choice p q).size = start + p.size + 2 + q.size := by
      rw [size_choice]
      omega
    rw [hsecond] at hq
    rw [hnext]
    have hfirst := (ihp hp).andThen (.of_jump hjump)
    rw [andThen_stay] at hfirst
    exact .either (.of_branch hbranch) hfirst (ihq hq)
  | times p least most greedy ih =>
    exact performs_times least most start (fun _ => ih) h

/-- The ways through the program of a pattern are the matches of the pattern. -/
theorem accepts_iff_matches {p : Pattern} (h : p.compile? = some program) (m : Match) :
    Accepts program t m ↔ p.Matches t m := by
  have hprogram : program = (p.code 0 ++ [Instruction.accept]).toArray := by
    unfold Pattern.compile? at h
    split at h
    · exact (Option.some.inj h).symm
    · cases h
  have hcontains : Contains program 0 (p.code 0 ++ [Instruction.accept]) := by
    intro i ins hi
    rw [hprogram, Nat.zero_add]
    simpa using hi
  obtain ⟨hcode, haccept⟩ := contains_append_iff.mp hcontains
  have hperforms : Performs program t 0 (p.fits t) (0 + p.size) := performs_code p hcode
  rw [length_code] at haccept
  have haccept := (contains_cons_iff.mp haccept).1
  refine and_congr_right fun _ => ⟨?_, fun hfits => ⟨_, hperforms.leads hfits, haccept⟩⟩
  rintro ⟨last, hpath, hlast⟩
  obtain ⟨n, hwalk⟩ := hpath.exists_walk
  obtain ⟨n', _, mid, inner, outer, hfits, hrest, hmarks⟩ := hperforms.splits hwalk hlast
  obtain ⟨_, rfl, hstop⟩ := hrest.of_accept haccept
  rw [hmarks, hstop]
  exact hfits

end TagSpacing.Regex
