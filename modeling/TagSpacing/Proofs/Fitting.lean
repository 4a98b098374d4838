import Mathlib
import TagSpacing.Proofs.Path

/-! What a pattern means: how texts fit it, and which places its groups note on the way. -/
namespace TagSpacing.Regex

/-- What can lead from one offset of a text to another and notes places on the way, the latest
first. -/
abbrev Passage := Nat → List (Nat × Nat) → Nat → Prop

namespace Passage

/-- Stays where it is and notes nothing. -/
def stay : Passage := fun start marks stop => marks = [] ∧ stop = start

/-- Notes the place in a slot. -/
def note (slot : Nat) : Passage := fun start marks stop => marks = [(slot, start)] ∧ stop = start

/-- Takes a character of a set. -/
def char (t : Text) (s : CharSet) : Passage := fun start marks stop =>
  (∃ c, t[start]? = some c ∧ s.contains c = true) ∧ marks = [] ∧ stop = start + 1

/-- Stays where a condition on the place holds. -/
def check (t : Text) (look : Look) (ascii : Bool) : Passage := fun start marks stop =>
  look.holds (wordChar ascii) (placeAt t start).before (placeAt t start).after = true ∧
    stay start marks stop

/-- One passage and then the other. -/
def andThen (a b : Passage) : Passage := fun start marks stop =>
  ∃ mid marks₁ marks₂, a start marks₁ mid ∧ b mid marks₂ stop ∧ marks = marks₂ ++ marks₁

/-- Either passage. -/
def either (a b : Passage) : Passage := fun start marks stop => a start marks stop ∨ b start marks stop

/-- So many times in a row. -/
def rounds (a : Passage) : Nat → Passage
  | 0 => stay
  | n + 1 => a.andThen (a.rounds n)

/-- At least so many times in a row, and at most so many. -/
def repeated (a : Passage) (least : Nat) (most : Option Nat) : Passage := fun start marks stop =>
  ∃ n, least ≤ n ∧ (∀ m ∈ most, n ≤ max least m) ∧ a.rounds n start marks stop

variable {a b : Passage} {least : Nat}

theorem ext (h : ∀ start marks stop, a start marks stop ↔ b start marks stop) : a = b :=
  funext fun start => funext fun marks => funext fun stop => propext (h start marks stop)

theorem andThen_stay (a : Passage) : a.andThen stay = a := by
  apply ext
  intro start marks stop
  constructor
  · rintro ⟨mid, inner, outer, h, ⟨rfl, rfl⟩, rfl⟩
    exact h
  · intro h
    exact ⟨stop, marks, [], h, ⟨rfl, rfl⟩, rfl⟩

theorem repeated_zero (a : Passage) : a.repeated 0 (some 0) = stay := by
  apply ext
  intro start marks stop
  constructor
  · rintro ⟨n, _, hmost, h⟩
    have hn : n = 0 := Nat.le_zero.mp (hmost 0 rfl)
    subst hn
    exact h
  · intro h
    exact ⟨0, Nat.le_refl 0, fun m _ => Nat.zero_le _, h⟩

theorem repeated_succ (a : Passage) (least : Nat) (most : Option Nat) :
    a.repeated (least + 1) most = a.andThen (a.repeated least (most.map (· - 1))) := by
  apply ext
  intro start marks stop
  constructor
  · rintro ⟨n, hleast, hmost, h⟩
    obtain ⟨n, rfl⟩ : ∃ k, n = k + 1 := ⟨n - 1, by omega⟩
    obtain ⟨mid, inner, outer, h, h', rfl⟩ := h
    refine ⟨mid, inner, outer, h, ⟨n, by omega, fun m hm => ?_, h'⟩, rfl⟩
    obtain ⟨m, hmem, rfl⟩ := Option.mem_map.mp hm
    have := hmost m hmem
    omega
  · rintro ⟨mid, inner, outer, h, ⟨n, hleast, hmost, h'⟩, rfl⟩
    refine ⟨n + 1, by omega, fun m hm => ?_, mid, inner, outer, h, h', rfl⟩
    have := hmost (m - 1) (Option.mem_map.mpr ⟨m, hm, rfl⟩)
    omega

theorem repeated_optional (a : Passage) (m : Nat) :
    a.repeated 0 (some (m + 1)) = (a.andThen (a.repeated 0 (some m))).either stay := by
  apply ext
  intro start marks stop
  constructor
  · rintro ⟨n, _, hmost, h⟩
    have hle := hmost (m + 1) rfl
    cases n with
    | zero => exact Or.inr h
    | succ n =>
      obtain ⟨mid, inner, outer, h, h', rfl⟩ := h
      refine Or.inl ⟨mid, inner, outer, h, ⟨n, Nat.zero_le n, fun m' hm => ?_, h'⟩, rfl⟩
      cases hm
      omega
  · rintro (⟨mid, inner, outer, h, ⟨n, _, hmost, h'⟩, rfl⟩ | h)
    · have hle := hmost m rfl
      refine ⟨n + 1, Nat.zero_le _, fun m' hm => ?_, mid, inner, outer, h, h', rfl⟩
      cases hm
      omega
    · exact ⟨0, Nat.le_refl 0, fun m _ => Nat.zero_le _, h⟩

end Passage

/-- How a text fits a pattern. -/
def Pattern.fits (t : Text) : Pattern → Passage
  | empty => .stay
  | set s => .char t s
  | look l ascii => .check t l ascii
  | group index p => .andThen (.note (2 * index)) (.andThen (p.fits t) (.note (2 * index + 1)))
  | sequence p q => .andThen (p.fits t) (q.fits t)
  | choice p q => .either (p.fits t) (q.fits t)
  | times p least most _ => .repeated (p.fits t) least most

/-- Whether a pattern fits part of a text, with the places that a match notes. -/
def Pattern.Matches (p : Pattern) (t : Text) (m : Match) : Prop :=
  m.stop ≤ t.length ∧ p.fits t m.start m.marks m.stop

variable {t : Text}

/-- The numbers of the groups of a pattern. -/
def Pattern.groups : Pattern → List Nat
  | empty => []
  | set _ => []
  | look _ _ => []
  | group index p => index :: p.groups
  | sequence p q => p.groups ++ q.groups
  | choice p q => p.groups ++ q.groups
  | times p _ _ _ => p.groups

/-- Whether what a passage notes are spans of some groups that lie between its ends: either both ends
of a group are noted or none. -/
def Passage.Spans (groups : List Nat) (a : Passage) : Prop :=
  ∀ start marks stop, a start marks stop → start ≤ stop ∧ ∀ i,
    marks.lookup (2 * i) = none ∧ marks.lookup (2 * i + 1) = none ∨
      ∃ x y, marks.lookup (2 * i) = some x ∧ marks.lookup (2 * i + 1) = some y ∧
        i ∈ groups ∧ start ≤ x ∧ x ≤ y ∧ y ≤ stop

namespace Passage.Spans

variable {a b : Passage} {groups groups' : List Nat}

theorem mono (h : a.Spans groups) (hsub : groups ⊆ groups') : a.Spans groups' := by
  intro start marks stop ha
  obtain ⟨hle, hspans⟩ := h start marks stop ha
  refine ⟨hle, fun i => ?_⟩
  rcases hspans i with hnone | ⟨x, y, hx, hy, hi, hxy⟩
  · exact Or.inl hnone
  · exact Or.inr ⟨x, y, hx, hy, hsub hi, hxy⟩

theorem of_nil (h : ∀ start marks stop, a start marks stop → marks = [] ∧ start ≤ stop) :
    a.Spans groups := by
  intro start marks stop ha
  obtain ⟨rfl, hle⟩ := h start marks stop ha
  exact ⟨hle, fun i => Or.inl ⟨rfl, rfl⟩⟩

theorem stay : Passage.stay.Spans groups := by
  apply of_nil
  rintro start marks stop ⟨rfl, rfl⟩
  exact ⟨rfl, Nat.le_refl _⟩

theorem either (ha : a.Spans groups) (hb : b.Spans groups) : (a.either b).Spans groups := by
  rintro start marks stop (h | h)
  · exact ha start marks stop h
  · exact hb start marks stop h

theorem andThen (ha : a.Spans groups) (hb : b.Spans groups) : (a.andThen b).Spans groups := by
  rintro start _ stop ⟨mid, inner, outer, h, h', rfl⟩
  obtain ⟨hle, hinner⟩ := ha _ _ _ h
  obtain ⟨hle', houter⟩ := hb _ _ _ h'
  refine ⟨hle.trans hle', fun i => ?_⟩
  rw [List.lookup_append, List.lookup_append]
  rcases houter i with ⟨hx, hy⟩ | ⟨x, y, hx, hy, hi, hstart, hxy, hstop⟩
  · rw [hx, hy]
    rcases hinner i with hnone | ⟨x, y, hx, hy, hi, hstart, hxy, hstop⟩
    · exact Or.inl hnone
    · exact Or.inr ⟨x, y, hx, hy, hi, hstart, hxy, hstop.trans hle'⟩
  · rw [hx, hy]
    exact Or.inr ⟨x, y, rfl, rfl, hi, hle.trans hstart, hxy, hstop⟩

theorem rounds (h : a.Spans groups) (n : Nat) : (a.rounds n).Spans groups := by
  induction n with
  | zero => exact stay
  | succ n ih => exact h.andThen ih

theorem repeated (h : a.Spans groups) (least : Nat) (most : Option Nat) :
    (a.repeated least most).Spans groups := by
  rintro start marks stop ⟨n, _, _, hn⟩
  exact h.rounds n start marks stop hn

theorem group (h : a.Spans groups) (index : Nat) :
    ((note (2 * index)).andThen (a.andThen (note (2 * index + 1)))).Spans (index :: groups) := by
  rintro _ _ stop ⟨start, _, _, ⟨rfl, rfl⟩, ⟨_, inner, _, ha, ⟨rfl, rfl⟩, rfl⟩, rfl⟩
  obtain ⟨hle, hspans⟩ := h _ _ _ ha
  refine ⟨hle, fun i => ?_⟩
  by_cases hi : i = index
  · subst hi
    have hopen : (2 * i == 2 * i + 1) = false := by simp
    rcases hspans i with ⟨hx, _⟩ | ⟨x, y, hx, _, _, hstart, hxy, hstop⟩
    · refine Or.inr ⟨start, stop, ?_, ?_, List.mem_cons_self, Nat.le_refl _, hle, Nat.le_refl _⟩
      · simp [List.lookup_append, List.lookup_cons, hopen, hx]
      · simp
    · refine Or.inr ⟨x, stop, ?_, ?_, List.mem_cons_self, hstart, hxy.trans hstop, Nat.le_refl _⟩
      · simp [List.lookup_append, List.lookup_cons, hopen, hx]
      · simp
  · have hslot : ∀ slot, slot = 2 * i ∨ slot = 2 * i + 1 → List.lookup slot
        ([(2 * index + 1, stop)] ++ inner ++ [(2 * index, start)]) = inner.lookup slot := by
      intro slot hslot
      have hopen : (slot == 2 * index) = false := beq_false_of_ne (by omega)
      have hclose : (slot == 2 * index + 1) = false := beq_false_of_ne (by omega)
      simp [List.lookup_append, List.lookup_cons, hopen, hclose]
    rw [hslot _ (Or.inl rfl), hslot _ (Or.inr rfl)]
    rcases hspans i with hnone | ⟨x, y, hx, hy, hmem, hxy⟩
    · exact Or.inl hnone
    · exact Or.inr ⟨x, y, hx, hy, List.mem_cons_of_mem _ hmem, hxy⟩

end Passage.Spans

theorem spans_fits (p : Pattern) : (p.fits t).Spans p.groups := by
  induction p with
  | empty => exact .stay
  | set s =>
    apply Passage.Spans.of_nil
    rintro start marks stop ⟨_, rfl, rfl⟩
    exact ⟨rfl, Nat.le_succ _⟩
  | look l ascii =>
    apply Passage.Spans.of_nil
    rintro start marks stop ⟨_, rfl, rfl⟩
    exact ⟨rfl, Nat.le_refl _⟩
  | group index p ih => exact ih.group index
  | sequence p q ihp ihq =>
    exact .andThen (ihp.mono (List.subset_append_left _ _)) (ihq.mono (List.subset_append_right _ _))
  | choice p q ihp ihq =>
    exact .either (ihp.mono (List.subset_append_left _ _)) (ihq.mono (List.subset_append_right _ _))
  | times p least most greedy ih => exact ih.repeated least most

/-- What a group captured in a match. -/
def captured (t : Text) (m : Match) (index : Nat) : Text :=
  match m.group? index with
  | some (start, stop) => t.slice start stop
  | none => []

theorem captured_zero (t : Text) (m : Match) : captured t m 0 = t.slice m.start m.stop := rfl

/-- Whether a group captured what stands between the places that were noted for it last, within the
match, or took no part and captured nothing. -/
def Captures (p : Pattern) (t : Text) (m : Match) (index : Nat) : Prop :=
  m.marks.lookup (2 * index) = none ∧ m.marks.lookup (2 * index + 1) = none ∧ captured t m index = [] ∨
    ∃ x y, m.marks.lookup (2 * index) = some x ∧ m.marks.lookup (2 * index + 1) = some y ∧
      index ∈ p.groups ∧ m.start ≤ x ∧ x ≤ y ∧ y ≤ m.stop ∧ captured t m index = t.slice x y

namespace Pattern.Matches

variable {p : Pattern} {m : Match} {index : Nat}

theorem captures (h : p.Matches t m) (hindex : index ≠ 0) : Captures p t m index := by
  obtain ⟨_, hspans⟩ := spans_fits p _ _ _ h.2
  unfold Captures captured Match.group?
  rw [if_neg hindex]
  rcases hspans index with ⟨hx, hy⟩ | ⟨x, y, hx, hy, hmem, hstart, hxy, hstop⟩
  · exact Or.inl ⟨hx, hy, by rw [hx]⟩
  · exact Or.inr ⟨x, y, hx, hy, hmem, hstart, hxy, hstop, by rw [hx, hy]⟩

/-- A group that does not exist captures nothing. -/
theorem captured_eq_nil (h : p.Matches t m) (hindex : index ≠ 0) (hmem : index ∉ p.groups) :
    captured t m index = [] := by
  rcases h.captures hindex with ⟨_, _, hnil⟩ | ⟨_, _, _, _, hgroup, _⟩
  · exact hnil
  · exact (hmem hgroup).elim

end Pattern.Matches

end TagSpacing.Regex
