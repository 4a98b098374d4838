import Mathlib.Data.List.Sort
import TagSpacing.Proofs.Offset
import TagSpacing.Proofs.Splice

/-! The spans of some ranges in document order, and when one edit can be made at each of them. -/
namespace TagSpacing

/-- Document order of spans: by start, then by end. -/
def SpanLE (a b : Nat × Nat) : Prop := a.1 < b.1 ∨ a.1 = b.1 ∧ a.2 ≤ b.2

instance : DecidableRel SpanLE := fun a b =>
  inferInstanceAs (Decidable (a.1 < b.1 ∨ a.1 = b.1 ∧ a.2 ≤ b.2))

instance : Std.Total SpanLE := ⟨fun a b => by unfold SpanLE; omega⟩

instance : IsTrans (Nat × Nat) SpanLE := ⟨fun a b c => by unfold SpanLE; omega⟩

instance : Std.Antisymm SpanLE := ⟨fun a b hab hba => by
  unfold SpanLE at hab hba
  exact Prod.ext (by omega) (by omega)⟩

/-- Whether two spans share more than a touching boundary. -/
def SpansOverlap (a b : Nat × Nat) : Prop := a.1 < b.2 ∧ b.1 < a.2

theorem SpansOverlap.symm {a b : Nat × Nat} (h : SpansOverlap a b) : SpansOverlap b a := ⟨h.2, h.1⟩

namespace Text

/-- The spans of some ranges of a text in document order. -/
def spans (t : Text) (ranges : List Range) : List (Nat × Nat) :=
  (ranges.map t.span).insertionSort SpanLE

/-- A range with both bounds moved into the text. -/
def clampRange (t : Text) (r : Range) : Range := .between (t.clamp r.start) (t.clamp r.stop)

variable {t : Text} {ranges : List Range} {a : Nat × Nat} {p q : Position}

theorem perm_spans (t : Text) (ranges : List Range) : (t.spans ranges).Perm (ranges.map t.span) :=
  List.perm_insertionSort SpanLE _

theorem pairwise_spans (t : Text) (ranges : List Range) : (t.spans ranges).Pairwise SpanLE :=
  List.pairwise_insertionSort SpanLE _

theorem span_bounds (t : Text) (r : Range) :
    (t.span r).1 ≤ (t.span r).2 ∧ (t.span r).2 ≤ t.length := by
  rw [span_eq]
  exact ⟨offset_mono r.start_le_stop, t.offset_le_length _⟩

theorem bounds_of_mem_spans (h : a ∈ t.spans ranges) : a.1 ≤ a.2 ∧ a.2 ≤ t.length := by
  obtain ⟨r, _, rfl⟩ := List.mem_map.mp ((t.perm_spans ranges).mem_iff.mp h)
  exact t.span_bounds r

theorem clamp_mono (h : p ≤ q) : t.clamp p ≤ t.clamp q := by
  rw [← positionAt_offset, ← positionAt_offset]
  exact positionAt_mono (offset_mono h)

theorem clampRange_eq (t : Text) (r : Range) :
    t.clampRange r = ⟨t.clamp r.start, t.clamp r.stop, clamp_mono r.start_le_stop⟩ :=
  Range.between_of_le (clamp_mono r.start_le_stop)

theorem overlaps_clampRange_iff (t : Text) (r s : Range) :
    (t.clampRange r).overlaps (t.clampRange s) = true ↔ SpansOverlap (t.span r) (t.span s) := by
  simp only [Range.overlaps, clampRange_eq, span_eq, SpansOverlap, decide_eq_true_eq,
    offset_lt_offset_iff]

end Text

namespace Edit

variable {length last : Nat} {es : List Edit}

/-- Edits inside a text that are in order can be made unless one starts inside the one before. -/
theorem firstFault?_eq_none_iff (hes : ∀ e ∈ es, e.start ≤ e.stop ∧ e.stop ≤ length) :
    firstFault? length last es = none ↔
      (∀ e ∈ es, last ≤ e.start) ∧ es.Pairwise fun a b => a.stop ≤ b.start := by
  induction es generalizing last with
  | nil => simp [firstFault?]
  | cons e es ih =>
    obtain ⟨he, hes⟩ := List.forall_mem_cons.mp hes
    rw [firstFault?, Option.or_eq_none_iff, fault?_eq_none_iff, ih hes, List.pairwise_cons,
      List.forall_mem_cons]
    constructor
    · rintro ⟨⟨hle, _, _⟩, hall, hp⟩
      refine ⟨⟨hle, fun x hx => ?_⟩, hall, hp⟩
      have := hall x hx
      omega
    · rintro ⟨⟨hle, _⟩, hall, hp⟩
      exact ⟨⟨hle, he⟩, hall, hp⟩

/-- The only fault of edits inside a text is that one starts before the end of the one before. -/
theorem firstFault?_eq_overlapping (hes : ∀ e ∈ es, e.start ≤ e.stop ∧ e.stop ≤ length)
    {fault : EditError} (hf : firstFault? length last es = some fault) :
    ∃ previousStop start stop, fault = .overlapping previousStop start stop := by
  induction es generalizing last with
  | nil => cases hf
  | cons e es ih =>
    obtain ⟨he, hes⟩ := List.forall_mem_cons.mp hes
    rw [firstFault?, Option.or_eq_some_iff] at hf
    rcases hf with hf | ⟨_, hf⟩
    · rw [fault?, if_neg (by omega), if_neg (by omega)] at hf
      split at hf
      · cases hf
        exact ⟨_, _, _, rfl⟩
      · cases hf
    · exact ih hes hf

end Edit

/-- Of two spans in order, the second starts inside the first only if they overlap. -/
theorem le_iff_not_spansOverlap {a b : Nat × Nat} (hab : SpanLE a b) (hb : b.1 ≤ b.2) :
    a.2 ≤ b.1 ↔ ¬ SpansOverlap a b := by
  unfold SpanLE at hab
  unfold SpansOverlap
  omega

/-- It is enough to look at each span and the one before it in document order. -/
theorem pairwise_spans_iff (t : Text) (ranges : List Range) :
    (t.spans ranges).Pairwise (fun a b => a.2 ≤ b.1) ↔
      ranges.Pairwise fun r s => (t.clampRange r).overlaps (t.clampRange s) = false := by
  have hsort : (t.spans ranges).Pairwise (fun a b => a.2 ≤ b.1) ↔
      (t.spans ranges).Pairwise (fun a b => ¬ SpansOverlap a b) := by
    constructor
    all_goals
      intro h
      refine (h.and (t.pairwise_spans ranges)).imp_of_mem ?_
      rintro a b _ hb ⟨hab, hle⟩
    · exact (le_iff_not_spansOverlap hle (Text.bounds_of_mem_spans hb).1).mp hab
    · exact (le_iff_not_spansOverlap hle (Text.bounds_of_mem_spans hb).1).mpr hab
  rw [hsort, (t.perm_spans ranges).pairwise_iff (fun h hs => h hs.symm), List.pairwise_map]
  simp only [← Text.overlaps_clampRange_iff, Bool.not_eq_true]

end TagSpacing
