import Mathlib
import TagSpacing.Proofs.Search
import TagSpacing.Proofs.Code
import TagSpacing.Proofs.Slice
import TagSpacing.Snippet.Render

/-! What a transform does to a text: its matches, one behind the other, become the format, and the text
around them stays. -/
namespace TagSpacing

namespace Regex

/-- Matches that a search gives one behind the other, from an offset on, where `previous` is the end of
the match before. An empty match there is passed over. -/
inductive Successive (search : Nat → Option Match) : Nat → Option Nat → List Match → Prop
  | done {offset : Nat} {previous : Option Nat} (h : search offset = none) :
    Successive search offset previous []
  | pass {offset : Nat} {previous : Option Nat} {m : Match} {ms : List Match}
    (h : search offset = some m) (hempty : m.start = m.stop) (hprevious : previous = some m.stop)
    (hs : Successive search (offset + 1) previous ms) : Successive search offset previous ms
  | next {offset : Nat} {previous : Option Nat} {m : Match} {ms : List Match}
    (h : search offset = some m) (hnew : m.start < m.stop ∨ previous ≠ some m.stop)
    (hs : Successive search m.stop (some m.stop) ms) : Successive search offset previous (m :: ms)

variable {program : Program} {t : Text} {offset : Nat} {m : Match} {ms : List Match}

theorem find?_bounds (h : find? program t offset = some m) :
    offset ≤ m.start ∧ m.start ≤ m.stop ∧ m.stop ≤ t.length := by
  have hleft := leftmost_find? program t offset
  rw [h] at hleft
  obtain ⟨haccepts, hle, _⟩ := hleft
  exact ⟨hle, haccepts.bounds⟩

/-- The rounds that are left suffice: each search moves the offset on, or finds the empty match that
stands there, which is not found again. -/
theorem successive_matchesFrom (program : Program) (t : Text) (n offset : Nat) (previous : Option Nat)
    (hn : 2 * (t.length + 1 - offset) ≤ n + if previous = some offset then 1 else 0) :
    Successive (find? program t) offset previous (matchesFrom program t n offset previous) := by
  induction n generalizing offset previous with
  | zero =>
    refine .done (if_neg ?_)
    split at hn <;> omega
  | succ n ih =>
    rw [matchesFrom]
    cases hfind : find? program t offset with
    | none => exact .done hfind
    | some m =>
      obtain ⟨hoffset, hle, hlength⟩ := find?_bounds hfind
      simp only
      split
      · rename_i hskip
        obtain ⟨hempty, hprevious⟩ := hskip
        refine .pass hfind hempty hprevious.symm (ih _ _ ?_)
        split at hn <;> omega
      · rename_i hnew
        refine .next hfind ?_ (ih _ _ ?_)
        · by_cases hempty : m.start = m.stop
          · exact Or.inr fun hprevious => hnew ⟨hempty, hprevious.symm⟩
          · exact Or.inl (by omega)
        · rw [if_pos rfl]
          by_cases hstay : m.stop = offset
          · have hprevious : previous ≠ some offset := by
              rintro rfl
              exact hnew ⟨by omega, by rw [hstay]⟩
            rw [if_neg hprevious] at hn
            omega
          · split at hn <;> omega

theorem successive_matches? (program : Program) (t : Text) :
    Successive (find? program t) 0 none (matches? program t) := by
  apply successive_matchesFrom
  simp
  omega

/-- The first of the successive matches is what a single search finds. -/
theorem take_one_matches? (program : Program) (t : Text) :
    (matches? program t).take 1 = (find? program t 0).toList := by
  rw [matches?, matchesFrom]
  cases find? program t 0 with
  | none => rfl
  | some m => simp

/-- Whether matches lie in a text behind an offset, none before the end of the one in front. -/
def InOrder (t : Text) (last : Nat) : List Match → Prop
  | [] => last ≤ t.length
  | m :: ms => last ≤ m.start ∧ m.start ≤ m.stop ∧ InOrder t m.stop ms

theorem InOrder.le_length {last : Nat} (h : InOrder t last ms) : last ≤ t.length := by
  induction ms generalizing last with
  | nil => exact h
  | cons m ms ih =>
    obtain ⟨hlast, hle, h⟩ := h
    have := ih h
    omega

theorem InOrder.take {last : Nat} (h : InOrder t last ms) (n : Nat) : InOrder t last (ms.take n) := by
  induction n generalizing last ms with
  | zero => exact h.le_length
  | succ n ih =>
    cases ms with
    | nil => exact h
    | cons m ms =>
      obtain ⟨hlast, hle, h⟩ := h
      exact ⟨hlast, hle, ih h⟩

namespace Successive

variable {previous : Option Nat}

theorem inOrder (h : Successive (find? program t) offset previous ms) {last : Nat}
    (hlast : last ≤ offset) (hlength : last ≤ t.length) : InOrder t last ms := by
  induction h generalizing last with
  | done _ => exact hlength
  | pass _ _ _ _ ih => exact ih (by omega) hlength
  | next hfind _ _ ih =>
    obtain ⟨hoffset, hle, hstop⟩ := find?_bounds hfind
    exact ⟨by omega, hle, ih (Nat.le_refl _) hstop⟩

theorem exists_search {search : Nat → Option Match} (h : Successive search offset previous ms)
    (hm : m ∈ ms) : ∃ o, search o = some m := by
  induction h with
  | done _ => cases hm
  | pass _ _ _ _ ih => exact ih hm
  | @next offset _ _ _ hfind _ _ ih =>
    rcases List.mem_cons.mp hm with rfl | hm
    · exact ⟨offset, hfind⟩
    · exact ih hm

end Successive

/-- The search in the program of a pattern finds leftmost matches of the pattern. -/
theorem leftmost_matches {p : Pattern} (h : p.compile? = some program) (t : Text) (offset : Nat) :
    Leftmost (p.Matches t) offset (find? program t offset) := by
  have haccepts : Accepts program t = p.Matches t := by
    funext m
    exact propext (accepts_iff_matches h m)
  rw [← haccepts]
  exact leftmost_find? program t offset

end Regex

namespace Transform

open Regex

/-- The text before, between and behind matches. -/
def gaps (t : Text) (last : Nat) : List Match → List Text
  | [] => [t.drop last]
  | m :: ms => t.slice last m.start :: gaps t m.stop ms

/-- Texts by turns, one of the first list first. -/
def weave : List Text → List Text → Text
  | u :: us, v :: vs => u ++ v ++ weave us vs
  | us, _ => us.flatten

/-- What an item of a format stands for in a match. -/
def value (t : Text) (m : Match) : FormatItem → Text
  | .text s => s
  | .group index => captured t m index

theorem replacement_eq (format : List FormatItem) (t : Text) (m : Match) :
    replacement format t m = format.flatMap (value t m) := by
  refine List.flatMap_congr fun item _ => ?_
  cases item with
  | text s => rfl
  | group index => rfl

theorem replaceAll_eq (format : List FormatItem) (t : Text) (last : Nat) (ms : List Match) :
    replaceAll format t last ms =
      weave (gaps t last ms) (ms.map fun m => format.flatMap (value t m)) := by
  induction ms generalizing last with
  | nil => simp [replaceAll, gaps, weave]
  | cons m ms ih => simp [replaceAll, gaps, weave, replacement_eq, ih]

/-- Matches in order and the text around them make up the text. -/
theorem weave_gaps {t : Text} {last : Nat} {ms : List Match} (h : InOrder t last ms) :
    weave (gaps t last ms) (ms.map fun m => t.slice m.start m.stop) = t.drop last := by
  induction ms generalizing last with
  | nil => simp [gaps, weave]
  | cons m ms ih =>
    obtain ⟨hlast, hle, h⟩ := h
    rw [List.map_cons, gaps, weave, ih h, List.append_assoc, Text.slice_append_drop hle,
      Text.slice_append_drop hlast]

theorem targets_eq (tr : Transform) (t : Text) : tr.targets t =
    if tr.isGlobal then matches? tr.program t else (matches? tr.program t).take 1 := by
  rw [targets, take_one_matches?]

theorem inOrder_targets (tr : Transform) (t : Text) : InOrder t 0 (tr.targets t) := by
  have horder := (successive_matches? tr.program t).inOrder (Nat.le_refl 0) (Nat.zero_le t.length)
  rw [targets_eq]
  split
  · exact horder
  · exact horder.take 1

theorem exists_find?_of_mem_targets {tr : Transform} {t : Text} {m : Match} (h : m ∈ tr.targets t) :
    ∃ offset, find? tr.program t offset = some m := by
  rw [targets_eq] at h
  have hmem : m ∈ matches? tr.program t := by
    split at h
    · exact h
    · exact List.mem_of_mem_take h
  exact (successive_matches? tr.program t).exists_search hmem

theorem exists_pattern (tr : Transform) : ∃ p,
    Pattern.parse? { ignoreCase := tr.ignoreCase, multiLine := tr.multiLine } tr.pattern = some p ∧
      p.compile? = some tr.program :=
  Option.bind_eq_some_iff.mp tr.compile_pattern

/-- A transform rewrites its matches and nothing else. The search gives leftmost matches of the pattern
that the transform was written with, and those that are replaced are the successive ones, or the first
of these. They lie in order, so the text is made up of them and the gaps around them, and what comes out
has the same gaps around the format, in which a group stands for what it captured. -/
theorem apply_rewrites (tr : Transform) (t : Text) :
    ∃ p, Pattern.parse? { ignoreCase := tr.ignoreCase, multiLine := tr.multiLine } tr.pattern = some p ∧
      (∀ offset, Leftmost (p.Matches t) offset (find? tr.program t offset)) ∧
      Successive (find? tr.program t) 0 none (matches? tr.program t) ∧
      let ms := if tr.isGlobal then matches? tr.program t else (matches? tr.program t).take 1
      InOrder t 0 ms ∧
        t = weave (gaps t 0 ms) (ms.map fun m => t.slice m.start m.stop) ∧
        tr.apply t = weave (gaps t 0 ms) (ms.map fun m => tr.format.flatMap (value t m)) ∧
        (∀ m ∈ ms, p.Matches t m ∧ captured t m 0 = t.slice m.start m.stop ∧
          ∀ index ≠ 0, Captures p t m index ∧ (index ∉ p.groups → captured t m index = [])) ∧
        (tr.format = [.group 0] → tr.apply t = t) ∧ ((∀ m, ¬ p.Matches t m) → tr.apply t = t) := by
  obtain ⟨p, hp, hcompile⟩ := tr.exists_pattern
  have hleft := leftmost_matches hcompile t
  have htext := (weave_gaps (inOrder_targets tr t)).symm
  have happly := replaceAll_eq tr.format t 0 (tr.targets t)
  have hmatches : ∀ m ∈ tr.targets t, p.Matches t m := by
    intro m hm
    obtain ⟨offset, hfind⟩ := exists_find?_of_mem_targets hm
    have hmatch := hleft offset
    rw [hfind] at hmatch
    exact hmatch.1
  refine ⟨p, hp, hleft, successive_matches? tr.program t, ?_⟩
  rw [← targets_eq]
  refine ⟨inOrder_targets tr t, htext, happly, fun m hm => ?_, fun hformat => ?_, fun hnone => ?_⟩
  · have hm := hmatches m hm
    exact ⟨hm, rfl, fun index hindex => ⟨hm.captures hindex, hm.captured_eq_nil hindex⟩⟩
  · rw [apply, happly, hformat]
    simp only [List.flatMap_cons, List.flatMap_nil, List.append_nil, value, captured_zero]
    exact htext.symm
  · have hnil : tr.targets t = [] :=
      List.eq_nil_iff_forall_not_mem.mpr fun m hm => hnone m (hmatches m hm)
    rw [apply, hnil]
    rfl

theorem apply_rewrites_grouped :
    ∃ (tr : Transform) (p : Pattern),
      Pattern.parse? { ignoreCase := tr.ignoreCase, multiLine := tr.multiLine } tr.pattern = some p ∧
      tr.format = [.group 0] ∧ tr.apply "xab".toList = "xab".toList ∧
      ⟨2, 3, []⟩ ∈ matches? tr.program "xab".toList ∧ Captures p "xab".toList ⟨2, 3, []⟩ 1 ∧
      7 ∉ p.groups ∧ captured "xab".toList ⟨2, 3, []⟩ 7 = [] ∧
      (∀ m, ¬ p.Matches ['x'] m) ∧ tr.apply ['x'] = ['x'] := by
  have hparse : Pattern.parse? {} "(a)|b".toList =
      some (.choice (.group 1 (.set (.single 'a'))) (.set (.single 'b'))) := by cbv
  obtain ⟨tr, hpattern, hformat, hglobal, hmatches, hfind⟩ : ∃ tr : Transform,
      Pattern.parse? { ignoreCase := tr.ignoreCase, multiLine := tr.multiLine } tr.pattern =
        Pattern.parse? {} "(a)|b".toList ∧ tr.format = [.group 0] ∧ tr.isGlobal = true ∧
      matches? tr.program "xab".toList = [⟨1, 2, [(3, 2), (2, 1)]⟩, ⟨2, 3, []⟩] ∧
      find? tr.program ['x'] 0 = none :=
    ⟨⟨"(a)|b".toList, [.group 0], true, false, false, #[.branch 1 5, .mark 2, .take (.single 'a'),
      .mark 3, .jump 6, .take (.single 'b'), .accept], by cbv⟩, rfl, rfl, rfl, by cbv, by cbv⟩
  obtain ⟨p, hp, _, _, _, _, _, hcaptured, hidentity, _⟩ := apply_rewrites tr "xab".toList
  obtain ⟨p', hp', hleft, _, _, _, _, _, _, hnone⟩ := apply_rewrites tr ['x']
  cases hp.symm.trans hp'
  have hmem : (⟨2, 3, []⟩ : Match) ∈ matches? tr.program "xab".toList := by
    rw [hmatches]
    exact List.mem_cons_of_mem _ List.mem_cons_self
  have hgroup : 7 ∉ p.groups := by
    rw [← Option.some.inj (hparse.symm.trans (hpattern.symm.trans hp))]
    decide
  have hunmatched : ∀ m, ¬ p.Matches ['x'] m := by
    intro m hm
    have hbefore := hleft 0
    rw [hfind] at hbefore
    exact Nat.not_lt_zero _ (hbefore m hm)
  rw [if_pos hglobal] at hcaptured
  obtain ⟨_, _, hindex⟩ := hcaptured _ hmem
  exact ⟨tr, p, hp, hformat, hidentity hformat, hmem, (hindex 1 (by decide)).1, hgroup,
    (hindex 7 (by decide)).2 hgroup, hunmatched, hnone hunmatched⟩

end Transform

end TagSpacing
