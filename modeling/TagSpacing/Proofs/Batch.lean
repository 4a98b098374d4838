import TagSpacing.Proofs.Concat
import TagSpacing.Proofs.Insertion

/-! One insertion at many ranges, and one insertion after the other at each of them. From the end of
the text to its front, every range still lies where it did when its turn comes. -/
namespace TagSpacing

namespace Text

variable {t : Text} {last k : Nat} {es : List Edit}

/-- Up to its first edit a splice is the text. -/
theorem splice_of_le (hlast : last ≤ k) (hes : ∀ e ∈ es, k ≤ e.start) :
    t.splice last es = t.slice last k ++ t.splice k es := by
  cases es with
  | nil => exact (slice_append_drop hlast).symm
  | cons e es =>
    have hk : k ≤ e.start := hes e List.mem_cons_self
    rw [splice, splice, ← slice_append_slice hlast hk]
    simp only [List.append_assoc]

/-- Whether both bounds of a range are positions of the text. -/
def HasRange (t : Text) (r : Range) : Prop := t.clamp r.start = r.start ∧ t.clamp r.stop = r.stop

theorem clampRange_of_hasRange {r : Range} (h : t.HasRange r) : t.clampRange r = r := by
  obtain ⟨start, stop, hle⟩ := r
  simp only [clampRange_eq, Range.mk.injEq]
  exact h

end Text

namespace Tag

variable {tag : Tag} {t : Text} {r : Range} {a : Nat × Nat} {as : List (Nat × Nat)}

/-- The text after the insertion of a tag's template at some spans, which are in order. -/
def insertAll (tag : Tag) (t : Text) (as : List (Nat × Nat)) : Text :=
  t.splice 0 ((as.map (tag.insertion t)).map Insertion.edit)

theorem insertAll_nil (tag : Tag) (t : Text) : tag.insertAll t [] = t := rfl

theorem insertAll_cons (tag : Tag) (t : Text) (a : Nat × Nat) (as : List (Nat × Nat)) :
    tag.insertAll t (a :: as) = t.slice 0 a.1 ++ ((tag.rendered (t.slice a.1 a.2)).text ++
      t.splice a.2 ((as.map (tag.insertion t)).map Insertion.edit)) :=
  List.append_assoc _ _ _

theorem head?_rendered_ne (tag : Tag) (t v : Text) :
    ((tag.rendered t).text ++ v).head? ≠ some '\n' := by
  cases tag <;> simp [rendered, opening]

theorem le_start_of_mem_edits {k : Nat} (has : ∀ a ∈ as, k ≤ a.1) :
    ∀ e ∈ (as.map (tag.insertion t)).map Insertion.edit, k ≤ e.start := by
  intro e he
  obtain ⟨i, hi, rfl⟩ := List.mem_map.mp he
  obtain ⟨a, ha, rfl⟩ := List.mem_map.mp hi
  exact has a ha

/-- An insertion in front of others is made in the same way, whether they are there already or
not. -/
theorem insertAll_insertAll (ha : a.1 ≤ a.2) (hat : a.2 ≤ t.length) (has : ∀ b ∈ as, a.2 ≤ b.1) :
    tag.insertAll (tag.insertAll t as) [a] = tag.insertAll t (a :: as) := by
  have hu : tag.insertAll t as =
      t.slice 0 a.2 ++ t.splice a.2 ((as.map (tag.insertion t)).map Insertion.edit) :=
    Text.splice_of_le (Nat.zero_le a.2) (le_start_of_mem_edits has)
  rw [insertAll_cons, insertAll_cons, hu]
  generalize t.splice a.2 ((as.map (tag.insertion t)).map Insertion.edit) = v
  have hfront : (t.slice 0 a.2 ++ v).slice 0 a.1 = t.slice 0 a.1 := Text.slice_slice_append ha hat v
  have hspan : (t.slice 0 a.2 ++ v).slice a.1 a.2 = t.slice a.1 a.2 :=
    Text.slice_slice_append (Nat.le_refl _) hat v
  have hback : (t.slice 0 a.2 ++ v).drop a.2 = v := List.drop_left' (Text.length_slice_zero hat)
  rw [hfront, hspan, List.map_nil, List.map_nil, Text.splice, hback]

/-- Insertions behind a range leave it where it is. -/
theorem span_insertAll (hr : t.HasRange r) (has : ∀ a ∈ as, (t.span r).2 ≤ a.1 ∧ a.1 ≤ t.length) :
    (tag.insertAll t as).span r = t.span r := by
  cases as with
  | nil => rw [insertAll_nil]
  | cons a as =>
    obtain ⟨hle, hlen⟩ := has a List.mem_cons_self
    have hoffset : ∀ p, t.clamp p = p → t.offset p ≤ a.1 →
        (tag.insertAll t (a :: as)).offset p = t.offset p := by
      intro p hp hpa
      rw [insertAll_cons]
      exact Text.offset_slice_append hp hpa hlen (tag.head?_rendered_ne _ _)
    rw [Text.span_eq] at hle
    have hstart : t.offset r.start ≤ a.1 := Nat.le_trans (Text.offset_mono r.start_le_stop) hle
    rw [Text.span_eq, Text.span_eq, hoffset r.start hr.1 hstart, hoffset r.stop hr.2 hle]

end Tag

namespace Buffer

variable {b : Buffer} {request : Request} {ranges : List Range} {singles : List Request}

theorem text_inserted (b : Buffer) (request : Request) :
    (b.inserted request).text =
      request.tag.insertAll b.text (b.text.spans request.ranges) := rfl

theorem text_inserted_of_single {r : Range} (hr : request.ranges = [r]) :
    (b.inserted request).text = request.tag.insertAll b.text [b.text.span r] := by
  rw [text_inserted, hr]
  rfl

/-- One insertion after the other, each in front of those before it. -/
theorem exists_foldlM_insert {tag : Tag} {t : Text} {as : List (Nat × Nat)}
    (hb : b.text = tag.insertAll t as)
    (hsingles : List.Forall₂ (fun q r => q.tag = tag ∧ q.ranges = [r]) singles ranges)
    (hvalid : ∀ r ∈ ranges, t.HasRange r)
    (hback : ranges.Pairwise fun r s => (t.span s).2 ≤ (t.span r).1)
    (has : ∀ r ∈ ranges, ∀ a ∈ as, (t.span r).2 ≤ a.1 ∧ a.1 ≤ t.length) :
    ∃ b', singles.foldlM insert b = .ok b' ∧
      b'.text = tag.insertAll t ((ranges.map t.span).reverse ++ as) := by
  induction hsingles generalizing b as with
  | nil => exact ⟨b, rfl, hb⟩
  | @cons q r singles ranges hq _ ih =>
    obtain ⟨rfl, hr⟩ := hq
    obtain ⟨hrvalid, hvalid⟩ := List.forall_mem_cons.mp hvalid
    obtain ⟨hrback, hback⟩ := List.pairwise_cons.mp hback
    obtain ⟨hras, has⟩ := List.forall_mem_cons.mp has
    obtain ⟨hrle, hrlen⟩ := t.span_bounds r
    have hok : b.insert q = .ok (b.inserted q) := insert_of_disjoint (disjoint_of_single hr)
    have htext : (b.inserted q).text = q.tag.insertAll t (t.span r :: as) := by
      rw [text_inserted_of_single hr, hb, Tag.span_insertAll hrvalid hras,
        Tag.insertAll_insertAll hrle hrlen fun a ha => (hras a ha).1]
    have has' : ∀ s ∈ ranges, ∀ a ∈ t.span r :: as, (t.span s).2 ≤ a.1 ∧ a.1 ≤ t.length := by
      intro s hs a ha
      rcases List.mem_cons.mp ha with rfl | ha
      · exact ⟨hrback s hs, Nat.le_trans hrle hrlen⟩
      · exact has s hs a ha
    obtain ⟨b', hrun, hb'⟩ := ih htext hvalid hback has'
    refine ⟨b', ?_, ?_⟩
    · rw [List.foldlM_cons, hok]
      exact hrun
    · rw [hb', List.map_cons, List.reverse_cons, List.append_assoc, List.singleton_append]

theorem disjoint_of_hasRange (hvalid : ∀ r ∈ request.ranges, b.text.HasRange r)
    (hapart : request.ranges.Pairwise fun r s => r.overlaps s = false) : b.Disjoint request := by
  refine hapart.imp_of_mem ?_
  intro r s hr hs hover
  rw [Text.clampRange_of_hasRange (hvalid r hr), Text.clampRange_of_hasRange (hvalid s hs)]
  exact hover

/-- In document order the spans of some ranges are the reverse of the spans from the end on. -/
theorem spans_eq_reverse {t : Text} {rs : List Range} (hperm : ranges.Perm rs)
    (hdesc : ranges.Pairwise fun r s => SpanLE (t.span s) (t.span r)) :
    t.spans rs = (ranges.map t.span).reverse := by
  have hsorted : (ranges.map t.span).reverse.Pairwise SpanLE :=
    List.pairwise_reverse.mpr (List.pairwise_map.mpr hdesc)
  refine List.Perm.eq_of_pairwise' (t.pairwise_spans rs) hsorted ?_
  have hrs : (t.spans rs).Perm (ranges.map t.span) :=
    (t.perm_spans rs).trans (hperm.map t.span).symm
  exact hrs.trans (List.reverse_perm _).symm

/-- One request at many ranges leaves the text that requests for each of its ranges leave, one after
the other from the end of the text to its front. -/
theorem text_insert_eq_foldlM (b : Buffer) (request : Request) (ranges : List Range)
    (singles : List Request)
    (hvalid : ∀ r ∈ request.ranges,
      b.text.clamp r.start = r.start ∧ b.text.clamp r.stop = r.stop)
    (hapart : request.ranges.Pairwise fun r s => r.overlaps s = false)
    (hperm : ranges.Perm request.ranges)
    (hdesc : ranges.Pairwise fun r s => SpanLE (b.text.span s) (b.text.span r))
    (hsingles : List.Forall₂ (fun q r => q.tag = request.tag ∧ q.ranges = [r]) singles ranges) :
    ∃ b₁ b₂, b.insert request = .ok b₁ ∧ singles.foldlM insert b = .ok b₂ ∧
      b₂.text = b₁.text := by
  have hd : b.Disjoint request := disjoint_of_hasRange hvalid hapart
  have hspans := spans_eq_reverse hperm hdesc
  have hback : ranges.Pairwise fun r s => (b.text.span s).2 ≤ (b.text.span r).1 := by
    have h := pairwise_spans_of_disjoint hd
    rw [hspans, List.pairwise_reverse, List.pairwise_map] at h
    exact h
  have hstart : b.text = request.tag.insertAll b.text [] := rfl
  obtain ⟨b₂, hok, htext⟩ := exists_foldlM_insert hstart hsingles
    (fun r hr => hvalid r (hperm.mem_iff.mp hr)) hback (fun _ _ _ ha => nomatch ha)
  refine ⟨b.inserted request, b₂, insert_of_disjoint hd, hok, ?_⟩
  rw [htext, text_inserted, hspans, List.append_nil]

/-- A range over the end of a line, with a caret at each of its ends. -/
theorem text_insert_eq_foldlM_lines :
    let b := Buffer.ofText ['a', '\r', '\n', 'b']
    let r : Range := .between ⟨0, 1⟩ ⟨1, 0⟩
    let request : Request := ⟨.unescaped, [.point ⟨0, 1⟩, r, .point ⟨1, 0⟩], by simp, {}⟩
    let single (r : Range) : Request := ⟨.unescaped, [r], List.cons_ne_nil r [], {}⟩
    (∀ r ∈ request.ranges, b.text.clamp r.start = r.start ∧ b.text.clamp r.stop = r.stop) ∧
    (request.ranges.Pairwise fun r s => r.overlaps s = false) ∧
    (request.ranges.reverse.Pairwise fun r s => SpanLE (b.text.span s) (b.text.span r)) ∧
    ∃ b₁ b₂, b.insert request = .ok b₁ ∧
      [single (.point ⟨1, 0⟩), single r, single (.point ⟨0, 1⟩)].foldlM insert b = .ok b₂ ∧
      b₂.text = b₁.text := by
  intro b r request single
  have hvalid : ∀ r ∈ request.ranges,
      b.text.clamp r.start = r.start ∧ b.text.clamp r.stop = r.stop := by decide
  have hapart : request.ranges.Pairwise fun r s => r.overlaps s = false := by decide
  have hdesc : request.ranges.reverse.Pairwise
      fun r s => SpanLE (b.text.span s) (b.text.span r) := by decide
  refine ⟨hvalid, hapart, hdesc, ?_⟩
  refine text_insert_eq_foldlM b request _ _ hvalid hapart (List.reverse_perm _) hdesc ?_
  exact .cons ⟨rfl, rfl⟩ (.cons ⟨rfl, rfl⟩ (.cons ⟨rfl, rfl⟩ .nil))

end Buffer

end TagSpacing
