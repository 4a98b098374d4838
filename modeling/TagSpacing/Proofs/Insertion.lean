import TagSpacing.Buffer
import TagSpacing.Proofs.Span
import TagSpacing.Proofs.Template

/-! What an insertion does to a buffer, and when it is refused. -/
namespace TagSpacing

/-- The insertion of a tag's template at a span of a text. -/
def Tag.insertion (tag : Tag) (t : Text) (a : Nat × Nat) : Insertion :=
  ⟨a.1, a.2, tag.rendered (t.slice a.1 a.2)⟩

theorem Tag.firstPlaceholder_rendered (tag : Tag) (t : Text) :
    (tag.rendered t).firstPlaceholder =
      some (tag.opening.length, tag.opening.length + (tag.kept t).length) := rfl

namespace Insertion

variable {f : Nat × Nat → Insertion}

theorem precedes_iff {i j : Insertion} :
    i.precedes j = true ↔ SpanLE (i.start, i.stop) (j.start, j.stop) := by
  simp [precedes, SpanLE]

theorem insertSorted_map (hf : ∀ a b, (f a).precedes (f b) = true ↔ SpanLE a b) (a : Nat × Nat)
    (as : List (Nat × Nat)) :
    insertSorted (f a) (as.map f) = (as.orderedInsert SpanLE a).map f := by
  induction as with
  | nil => rfl
  | cons b as ih =>
    rw [List.map_cons, insertSorted, List.orderedInsert_cons, ih]
    by_cases h : SpanLE a b <;> simp [hf, h]

theorem sort_map (hf : ∀ a b, (f a).precedes (f b) = true ↔ SpanLE a b)
    (as : List (Nat × Nat)) : sort (as.map f) = (as.insertionSort SpanLE).map f := by
  induction as with
  | nil => rfl
  | cons a as ih =>
    rw [List.insertionSort_cons, ← insertSorted_map hf, ← ih]
    rfl

end Insertion

namespace Buffer

variable {b : Buffer} {request : Request}

theorem sort_insertions (tag : Tag) (t : Text) (ranges : List Range) :
    Insertion.sort (insertions t tag.snippet ranges) = (t.spans ranges).map (tag.insertion t) := by
  have hmap : insertions t tag.snippet ranges = (ranges.map t.span).map (tag.insertion t) := by
    rw [List.map_map]
    refine List.map_congr_left fun r _ => ?_
    simp only [Function.comp_apply, Tag.insertion, tag.render_snippet]
  rw [hmap, Insertion.sort_map]
  · rfl
  · intro a b
    exact Insertion.precedes_iff

/-- The insertions of a request in document order. -/
def planned (b : Buffer) (request : Request) : List Insertion :=
  (b.text.spans request.ranges).map (request.tag.insertion b.text)

/-- The text after the insertions of a request. -/
def textAfter (b : Buffer) (request : Request) : Text :=
  b.text.splice 0 ((b.planned request).map Insertion.edit)

/-- The buffer after an insertion that is not refused. -/
def inserted (b : Buffer) (request : Request) : Buffer where
  text := b.textAfter request
  selections := Insertion.selections (b.textAfter request) 0 0 (b.planned request)
  history :=
    b.history.commit b.snapshot request.options.undoStopBefore request.options.undoStopAfter

/-- Whether no two ranges of a request overlap in the text of the buffer. -/
def Disjoint (b : Buffer) (request : Request) : Prop :=
  request.ranges.Pairwise fun r s =>
    (b.text.clampRange r).overlaps (b.text.clampRange s) = false

theorem planned_edit_bounds (b : Buffer) (request : Request) :
    ∀ e ∈ (b.planned request).map Insertion.edit, e.start ≤ e.stop ∧ e.stop ≤ b.text.length := by
  intro e he
  obtain ⟨i, hi, rfl⟩ := List.mem_map.mp he
  obtain ⟨a, ha, rfl⟩ := List.mem_map.mp hi
  exact Text.bounds_of_mem_spans ha

theorem firstFault?_planned_eq_none_iff (b : Buffer) (request : Request) :
    Edit.firstFault? b.text.length 0 ((b.planned request).map Insertion.edit) = none ↔
      b.Disjoint request := by
  rw [Edit.firstFault?_eq_none_iff (b.planned_edit_bounds request), Disjoint, ← pairwise_spans_iff,
    List.pairwise_map, planned, List.pairwise_map]
  exact and_iff_right fun _ _ => Nat.zero_le _

theorem insert_eq (b : Buffer) (request : Request) :
    b.insert request =
      match Edit.firstFault? b.text.length 0 ((b.planned request).map Insertion.edit) with
      | some fault => .error (.edit fault)
      | none => .ok (b.inserted request) := by
  have hsort : Insertion.sort (insertions b.text request.tag.snippet request.ranges) =
      b.planned request := sort_insertions request.tag b.text request.ranges
  have hedit := b.text.edit_eq ((b.planned request).map Insertion.edit)
  simp only [insert, Tag.parse_template, hsort, hedit]
  cases Edit.firstFault? b.text.length 0 ((b.planned request).map Insertion.edit) <;> rfl

theorem pairwise_spans_of_disjoint (h : b.Disjoint request) :
    (b.text.spans request.ranges).Pairwise fun a b => a.2 ≤ b.1 :=
  (pairwise_spans_iff b.text request.ranges).mpr h

theorem insert_of_disjoint (h : b.Disjoint request) :
    b.insert request = .ok (b.inserted request) := by
  rw [insert_eq, (b.firstFault?_planned_eq_none_iff request).mpr h]

theorem insert_of_not_disjoint (h : ¬ b.Disjoint request) :
    ∃ previousStop start stop,
      b.insert request = .error (.edit (.overlapping previousStop start stop)) := by
  rw [insert_eq]
  cases hf : Edit.firstFault? b.text.length 0 ((b.planned request).map Insertion.edit) with
  | none => exact (h ((b.firstFault?_planned_eq_none_iff request).mp hf)).elim
  | some fault =>
    obtain ⟨p, s, e, rfl⟩ := Edit.firstFault?_eq_overlapping (b.planned_edit_bounds request) hf
    exact ⟨p, s, e, rfl⟩

theorem insert_eq_ok_iff {b' : Buffer} :
    b.insert request = .ok b' ↔ b.Disjoint request ∧ b' = b.inserted request := by
  by_cases h : b.Disjoint request
  · rw [insert_of_disjoint h]
    simp [h, eq_comm]
  · obtain ⟨p, s, e, he⟩ := insert_of_not_disjoint h
    simp [he, h]

theorem disjoint_of_single {r : Range} (hr : request.ranges = [r]) : b.Disjoint request := by
  rw [Disjoint, hr]
  exact List.pairwise_singleton _ _

theorem planned_of_single {r : Range} (hr : request.ranges = [r]) :
    b.planned request = [request.tag.insertion b.text (b.text.span r)] := by
  rw [planned, hr]
  rfl

/-- One range is replaced by the template with what it kept of the range, and that is selected. -/
theorem insert_of_single {r : Range} {before middle after : Text} (hr : request.ranges = [r])
    (ht : b.text = before ++ middle ++ after)
    (hspan : b.text.span r = (before.length, before.length + middle.length)) :
    ∃ b', b.insert request = .ok b' ∧
      b'.text = before ++ (request.tag.opening ++ request.tag.kept middle ++ request.tag.closing) ++
        after ∧
      b'.selections =
        [⟨b'.text.positionAt (before.length + request.tag.opening.length),
          b'.text.positionAt (before.length +
            (request.tag.opening.length + (request.tag.kept middle).length))⟩] := by
  have hplanned := planned_of_single (b := b) hr
  rw [hspan] at hplanned
  have hbefore : b.text.slice 0 before.length = before := by simp [ht, Text.slice]
  have hmiddle : b.text.slice before.length (before.length + middle.length) = middle := by
    rw [ht, Text.slice_append_append]
  have hafter : b.text.drop (before.length + middle.length) = after := by
    rw [ht, ← List.length_append, List.drop_left]
  have htext : b.textAfter request = before ++
      (request.tag.opening ++ request.tag.kept middle ++ request.tag.closing) ++ after := by
    rw [textAfter, hplanned]
    simp only [List.map_cons, List.map_nil, Text.splice, Tag.insertion, Insertion.edit,
      Tag.rendered, Option.getD_some, hbefore, hmiddle, hafter]
  refine ⟨b.inserted request, insert_of_disjoint (disjoint_of_single hr), htext, ?_⟩
  simp only [inserted, hplanned, Insertion.selections, Tag.insertion,
    Tag.firstPlaceholder_rendered, Option.getD_some, hmiddle, Nat.zero_add, Nat.sub_zero]

end Buffer

end TagSpacing
