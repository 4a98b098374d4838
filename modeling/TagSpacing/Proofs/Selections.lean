import Mathlib.Data.List.Forall2
import TagSpacing.Proofs.Insertion
import TagSpacing.Proofs.Window

/-! What is selected after an insertion. The tabstops of sorted insertions move by what the
insertions before them have added, and in the new text they lie where the snippets do. -/
namespace TagSpacing

namespace Insertion

/-- The place in the rendered text that is selected. -/
def place (i : Insertion) : Nat × Nat :=
  i.rendered.firstPlaceholder.getD (i.rendered.finalCursor, i.rendered.finalCursor)

/-- The places of sorted insertions in the text after them. Each snippet starts where its span did,
shifted by what the insertions before it have added. -/
def places (shift : Int) : List Insertion → List (Nat × Nat)
  | [] => []
  | i :: rest =>
    let start := (i.start + shift).toNat
    (start + i.place.1, start + i.place.2) ::
      places (shift + i.rendered.text.length - (i.stop - i.start : Nat)) rest

/-- Whether insertions in a text of the given length come one behind the other, from offset `old`
on, each with its place inside its snippet. -/
structure Ordered (length old : Nat) (is : List Insertion) : Prop where
  old_le : ∀ i ∈ is, old ≤ i.start
  apart : is.Pairwise fun i j => i.stop ≤ j.start
  bounds : ∀ i ∈ is, i.start ≤ i.stop ∧ i.stop ≤ length
  place_bounds : ∀ i ∈ is, i.place.1 ≤ i.place.2 ∧ i.place.2 ≤ i.rendered.text.length

variable {t u : Text} {i : Insertion} {is : List Insertion} {length old new : Nat}

theorem Ordered.tail (h : Ordered length old (i :: is)) : Ordered length i.stop is where
  old_le := (List.pairwise_cons.mp h.apart).1
  apart := (List.pairwise_cons.mp h.apart).2
  bounds := (List.forall_mem_cons.mp h.bounds).2
  place_bounds := (List.forall_mem_cons.mp h.place_bounds).2

/-- The shift is how far the offset in the new text is ahead of the one in the old text, so it never
leads in front of the text. -/
theorem start_add_shift (h : Ordered length old (i :: is)) :
    ((i.start : Int) + ((new : Int) - old)).toNat = new + (i.start - old) := by
  have := h.old_le i List.mem_cons_self
  omega

theorem shift_add (h : Ordered length old (i :: is)) (n : Nat) :
    (new : Int) - old + n - (i.stop - i.start : Nat) =
      ((new + (i.start - old) + n : Nat) : Int) - i.stop := by
  have := h.old_le i List.mem_cons_self
  have := (h.bounds i List.mem_cons_self).1
  omega

theorem places_cons (h : Ordered length old (i :: is)) (new : Nat) :
    places (new - old) (i :: is) =
      (new + (i.start - old) + i.place.1, new + (i.start - old) + i.place.2) ::
        places ((new + (i.start - old) + i.rendered.text.length : Nat) - i.stop) is := by
  rw [places, start_add_shift h, shift_add h]

theorem selections_eq_map_places (h : Ordered length old is) (u : Text) (new : Nat) :
    selections u old new is =
      (places (new - old) is).map fun p => ⟨u.positionAt p.1, u.positionAt p.2⟩ := by
  induction is generalizing old new with
  | nil => rfl
  | cons i is ih =>
    rw [places_cons h, List.map_cons, ← ih h.tail]
    rfl

/-- What follows offset `new` of the new text is the splice of what followed offset `old`. -/
theorem forall₂_places (h : Ordered t.length old is) (hnew : new ≤ u.length)
    (hu : u.drop new = t.splice old (is.map edit)) :
    List.Forall₂ (fun i p => ∃ before after, u = before ++ i.rendered.text ++ after ∧
        p = (before.length + i.place.1, before.length + i.place.2))
      is (places (new - old) is) := by
  induction is generalizing old new with
  | nil => exact .nil
  | cons i is ih =>
    have hold := h.old_le i List.mem_cons_self
    have hbounds := h.bounds i List.mem_cons_self
    have hbefore : (u.take new ++ t.slice old i.start).length = new + (i.start - old) := by
      rw [List.length_append, List.length_take, Text.length_slice]
      omega
    have hsplit : u = u.take new ++ t.slice old i.start ++ i.rendered.text ++
        t.splice i.stop (is.map edit) := by
      calc u = u.take new ++ u.drop new := (List.take_append_drop new u).symm
        _ = u.take new ++
            (t.slice old i.start ++ i.rendered.text ++ t.splice i.stop (is.map edit)) := by
          rw [hu]
          rfl
        _ = _ := by simp only [List.append_assoc]
    rw [places_cons h]
    refine .cons ⟨_, _, hsplit, by rw [hbefore]⟩ (ih h.tail ?_ ?_)
    · rw [hsplit, List.length_append, List.length_append, hbefore]
      omega
    · have hlen : (u.take new ++ t.slice old i.start ++ i.rendered.text).length =
          new + (i.start - old) + i.rendered.text.length := by
        rw [List.length_append, hbefore]
      rw [hsplit, ← hlen, List.drop_left]

theorem le_of_mem_places (h : Ordered length old is) {p : Nat × Nat}
    (hp : p ∈ places (new - old) is) : new ≤ p.1 := by
  induction is generalizing old new with
  | nil => cases hp
  | cons i is ih =>
    rw [places_cons h, List.mem_cons] at hp
    rcases hp with rfl | hp
    · simp only
      omega
    · have := ih h.tail hp
      omega

theorem pairwise_places (h : Ordered length old is) (new : Nat) :
    (places (new - old) is).Pairwise fun p q => p.2 ≤ q.1 := by
  induction is generalizing old new with
  | nil => exact .nil
  | cons i is ih =>
    have hplace := (h.place_bounds i List.mem_cons_self).2
    rw [places_cons h]
    refine .cons (fun p hp => ?_) (ih h.tail _)
    have := le_of_mem_places h.tail hp
    simp only
    omega

end Insertion

namespace Tag

variable {tag : Tag} {t u before after : Text} {a : Nat × Nat}

theorem opening_eq (tag : Tag) : ∃ front, tag.opening = front ++ [' '] := by
  cases tag with
  | double => exact ⟨[], rfl⟩
  | triple => exact ⟨['{'], rfl⟩
  | unescaped => exact ⟨['!'], rfl⟩
  | comment => exact ⟨['-', '-'], rfl⟩

theorem closing_eq (tag : Tag) : ∃ back, tag.closing = ' ' :: back := by
  cases tag with
  | double => exact ⟨[], rfl⟩
  | triple => exact ⟨['}'], rfl⟩
  | unescaped => exact ⟨['!', '!'], rfl⟩
  | comment => exact ⟨['-', '-'], rfl⟩

theorem place_insertion (tag : Tag) (t : Text) (a : Nat × Nat) :
    (tag.insertion t a).place =
      (tag.opening.length, tag.opening.length + (tag.kept (t.slice a.1 a.2)).length) := by
  rw [Insertion.place, insertion, firstPlaceholder_rendered]
  rfl

theorem text_insertion (tag : Tag) (t : Text) (a : Nat × Nat) :
    (tag.insertion t a).rendered.text =
      tag.opening ++ tag.kept (t.slice a.1 a.2) ++ tag.closing := rfl

theorem slice_place (tag : Tag) (t : Text) (a : Nat × Nat) (before after : Text) :
    (before ++ (tag.insertion t a).rendered.text ++ after).slice
        (before.length + (tag.insertion t a).place.1)
        (before.length + (tag.insertion t a).place.2) = tag.kept (t.slice a.1 a.2) := by
  have hsplit : before ++ (tag.insertion t a).rendered.text ++ after =
      (before ++ tag.opening) ++ tag.kept (t.slice a.1 a.2) ++ (tag.closing ++ after) := by
    simp [text_insertion]
  rw [hsplit, place_insertion]
  simp only [← Nat.add_assoc, ← @List.length_append _ before]
  exact Text.slice_append_append _ _ _

/-- The template has a space on both sides of what it keeps, so that no line break is split
there. -/
theorem offset_positionAt_place (tag : Tag) (t : Text) (a : Nat × Nat) (before after : Text) :
    let i := tag.insertion t a
    let u := before ++ i.rendered.text ++ after
    u.offset (u.positionAt (before.length + i.place.1)) = before.length + i.place.1 ∧
      u.offset (u.positionAt (before.length + i.place.2)) = before.length + i.place.2 := by
  intro i u
  obtain ⟨front, hfront⟩ := tag.opening_eq
  obtain ⟨back, hback⟩ := tag.closing_eq
  have hstart : u =
      (before ++ front) ++ ' ' :: (tag.kept (t.slice a.1 a.2) ++ tag.closing ++ after) := by
    simp [u, i, text_insertion, hfront]
  have hstop : u =
      (before ++ tag.opening ++ tag.kept (t.slice a.1 a.2)) ++ ' ' :: (back ++ after) := by
    simp [u, i, text_insertion, hback]
  have hplace : i.place = (front.length + 1,
      tag.opening.length + (tag.kept (t.slice a.1 a.2)).length) := by
    simp [i, place_insertion, hfront]
  have hlen : u.length = before.length + i.rendered.text.length + after.length := by
    simp [u, Nat.add_assoc]
  have hle : i.place.1 ≤ i.place.2 ∧ i.place.2 ≤ i.rendered.text.length := by
    simp [i, place_insertion, text_insertion]
  constructor
  · refine Text.offset_positionAt (by omega) ?_
    have h := Text.not_splitsCrlf_of_before (c := ' ') (by decide) (before ++ front)
      (tag.kept (t.slice a.1 a.2) ++ tag.closing ++ after)
    rw [← hstart, List.length_append, Nat.add_assoc] at h
    rwa [hplace]
  · refine Text.offset_positionAt (by omega) ?_
    have h := Text.not_splitsCrlf_of_behind (c := ' ') (by decide)
      (before ++ tag.opening ++ tag.kept (t.slice a.1 a.2)) (back ++ after)
    rw [← hstop, List.length_append, List.length_append, Nat.add_assoc] at h
    rwa [hplace]

end Tag

/-- What the selection `s` of the text `u` owes to a snippet that has replaced the span `a` of
`t`. -/
structure Snippet.Selected (snippet : Snippet) (t u : Text) (a : Nat × Nat) (s : Selection) :
    Prop where
  not_reversed : s.isReversed = false
  anchor_valid : u.clamp s.anchor = s.anchor
  active_valid : u.clamp s.active = s.active
  textIn_eq : ∃ start stop,
    (snippet.render (.selected (t.slice a.1 a.2))).tabstop? 1 = some (start, stop) ∧
    u.textIn s.range = (snippet.render (.selected (t.slice a.1 a.2))).text.slice start stop

namespace Tag

variable {t u before after : Text} {a : Nat × Nat}

theorem slice_tabstop (tag : Tag) (t : Text) :
    (tag.rendered t).text.slice tag.opening.length (tag.opening.length + (tag.kept t).length) =
      tag.kept t :=
  Text.slice_append_append tag.opening (tag.kept t) tag.closing

theorem textIn_place (tag : Tag) (t : Text) (a : Nat × Nat) (before after : Text) :
    let i := tag.insertion t a
    let u := before ++ i.rendered.text ++ after
    u.textIn (.between (u.positionAt (before.length + i.place.1))
        (u.positionAt (before.length + i.place.2))) = tag.kept (t.slice a.1 a.2) := by
  intro i u
  obtain ⟨hstart, hstop⟩ := tag.offset_positionAt_place t a before after
  have hle : i.place.1 ≤ i.place.2 := by simp [i, place_insertion]
  rw [Text.textIn, Text.span_between_positionAt (Nat.add_le_add_left hle _) hstart hstop]
  exact tag.slice_place t a before after

theorem selected_place (tag : Tag) (t : Text) (a : Nat × Nat) (before after : Text) :
    let i := tag.insertion t a
    let u := before ++ i.rendered.text ++ after
    tag.snippet.Selected t u a ⟨u.positionAt (before.length + i.place.1),
      u.positionAt (before.length + i.place.2)⟩ := by
  intro i u
  obtain ⟨hstart, hstop⟩ := tag.offset_positionAt_place t a before after
  have hle : i.place.1 ≤ i.place.2 := by simp [i, place_insertion]
  have hmono := Text.positionAt_mono (t := u) (Nat.add_le_add_left hle before.length)
  constructor
  · exact Selection.isReversed_eq_false_iff.mpr hmono
  · rw [← Text.positionAt_offset]
    exact congrArg u.positionAt hstart
  · rw [← Text.positionAt_offset]
    exact congrArg u.positionAt hstop
  · rw [render_snippet]
    refine ⟨_, _, rfl, ?_⟩
    rw [slice_tabstop]
    exact tag.textIn_place t a before after

end Tag

namespace Buffer

variable {b b' : Buffer} {request : Request}

theorem ordered_planned (h : b.Disjoint request) :
    Insertion.Ordered b.text.length 0 (b.planned request) where
  old_le _ _ := Nat.zero_le _
  apart := List.pairwise_map.mpr (pairwise_spans_of_disjoint h)
  bounds := by
    intro i hi
    obtain ⟨a, ha, rfl⟩ := List.mem_map.mp hi
    exact Text.bounds_of_mem_spans ha
  place_bounds := by
    intro i hi
    obtain ⟨a, _, rfl⟩ := List.mem_map.mp hi
    rw [Tag.place_insertion, Tag.text_insertion, List.length_append, List.length_append]
    omega

theorem selections_inserted (h : b.Disjoint request) :
    (b.inserted request).selections =
      (Insertion.places 0 (b.planned request)).map fun p =>
        ⟨(b.textAfter request).positionAt p.1, (b.textAfter request).positionAt p.2⟩ :=
  Insertion.selections_eq_map_places (ordered_planned h) (b.textAfter request) 0

/-- Each selection lies on the tabstop of the snippet that has replaced its span. -/
theorem forall₂_selections_inserted (h : b.Disjoint request) :
    List.Forall₂ (fun a s => ∃ before after,
        b.textAfter request = before ++ (request.tag.insertion b.text a).rendered.text ++ after ∧
        s = ⟨(b.textAfter request).positionAt
              (before.length + (request.tag.insertion b.text a).place.1),
            (b.textAfter request).positionAt
              (before.length + (request.tag.insertion b.text a).place.2)⟩)
      (b.text.spans request.ranges) (b.inserted request).selections := by
  have hplaces := Insertion.forall₂_places (u := b.textAfter request) (ordered_planned h)
    (Nat.zero_le _) rfl
  rw [planned, List.forall₂_map_left_iff] at hplaces
  rw [selections_inserted h, List.forall₂_map_right_iff]
  refine hplaces.imp fun a p => ?_
  rintro ⟨before, after, htext, rfl⟩
  exact ⟨before, after, htext, rfl⟩

theorem length_selections_inserted (h : b.Disjoint request) :
    (b.inserted request).selections.length = request.ranges.length := by
  rw [← (forall₂_selections_inserted h).length_eq, (b.text.perm_spans request.ranges).length_eq,
    List.length_map]

/-- A request has a range, which is selected. -/
theorem selections_inserted_ne_nil (h : b.Disjoint request) :
    (b.inserted request).selections ≠ [] := by
  intro hnil
  have hlen := length_selections_inserted h
  rw [hnil] at hlen
  exact request.ranges_ne_nil (List.eq_nil_of_length_eq_zero hlen.symm)

theorem exists_of_mem_selections_inserted (h : b.Disjoint request) {s : Selection}
    (hs : s ∈ (b.inserted request).selections) :
    ∃ a before after,
      b.textAfter request = before ++ (request.tag.insertion b.text a).rendered.text ++ after ∧
      s = ⟨(b.textAfter request).positionAt
            (before.length + (request.tag.insertion b.text a).place.1),
          (b.textAfter request).positionAt
            (before.length + (request.tag.insertion b.text a).place.2)⟩ := by
  have hall := forall₂_selections_inserted h
  obtain ⟨n, hn, rfl⟩ := List.mem_iff_getElem.mp hs
  exact ⟨_, hall.get (hall.length_eq ▸ hn) hn⟩

theorem pairwise_selections_inserted (h : b.Disjoint request) :
    (b.inserted request).selections.Pairwise fun s s' => s.active ≤ s'.anchor := by
  rw [selections_inserted h, List.pairwise_map]
  exact (Insertion.pairwise_places (ordered_planned h) 0).imp fun hpq => Text.positionAt_mono hpq

/-- Selections that lie one behind the other do not overlap. -/
theorem overlaps_eq_false {s s' : Selection} (hs : s.isReversed = false)
    (hs' : s'.isReversed = false) (h : s.active ≤ s'.anchor) :
    s.stop ≤ s'.start ∧ s.range.overlaps s'.range = false := by
  have hle := Selection.isReversed_eq_false_iff.mp hs
  have hle' := Selection.isReversed_eq_false_iff.mp hs'
  constructor
  · rw [Selection.stop_mk hle, Selection.start_mk hle']
    exact h
  · rw [Selection.range_mk hle, Selection.range_mk hle']
    simp [Range.overlaps, ← Position.not_le, h]

/-- After an insertion one selection lies on each snippet, in document order and apart from the
others. It begins and ends at positions of the new text and covers what the snippet has at tabstop
1, which is the whole replaced text if the tag is a double one. Its offsets are those of the old
text, moved by a running shift. -/
theorem insert_selects (h : b.insert request = .ok b') :
    ∃ (snippet : Snippet) (spans : List (Nat × Nat)),
      Snippet.parse request.tag.template.toList = .ok snippet ∧
      spans.Perm (request.ranges.map b.text.span) ∧ spans.Pairwise SpanLE ∧
      b'.selections.length = request.ranges.length ∧
      List.Forall₂ (snippet.Selected b.text b'.text) spans b'.selections ∧
      (request.tag = .double →
        List.Forall₂ (fun a s => b'.text.textIn s.range = b.text.slice a.1 a.2) spans
          b'.selections) ∧
      b'.selections.Pairwise (fun s s' => s.stop ≤ s'.start ∧ s.range.overlaps s'.range = false) ∧
      b'.selections = (Insertion.places 0 (b.planned request)).map fun p =>
        ⟨b'.text.positionAt p.1, b'.text.positionAt p.2⟩ := by
  obtain ⟨hd, rfl⟩ := insert_eq_ok_iff.mp h
  have hall := forall₂_selections_inserted hd
  have hselected : List.Forall₂ (request.tag.snippet.Selected b.text (b.textAfter request))
      (b.text.spans request.ranges) (b.inserted request).selections := by
    refine hall.imp fun a s => ?_
    rintro ⟨before, after, htext, rfl⟩
    rw [htext]
    exact request.tag.selected_place b.text a before after
  have hkept : List.Forall₂ (fun a s => (b.textAfter request).textIn s.range =
      request.tag.kept (b.text.slice a.1 a.2))
      (b.text.spans request.ranges) (b.inserted request).selections := by
    refine hall.imp fun a s => ?_
    rintro ⟨before, after, htext, rfl⟩
    rw [htext]
    exact request.tag.textIn_place b.text a before after
  have hforward : ∀ s ∈ (b.inserted request).selections, s.isReversed = false := by
    intro s hs
    obtain ⟨a, before, after, htext, rfl⟩ := exists_of_mem_selections_inserted hd hs
    rw [htext]
    exact (request.tag.selected_place b.text a before after).not_reversed
  refine ⟨request.tag.snippet, b.text.spans request.ranges, request.tag.parse_template,
    b.text.perm_spans request.ranges, b.text.pairwise_spans request.ranges,
    length_selections_inserted hd, hselected, ?_, ?_, selections_inserted hd⟩
  · intro htag
    refine hkept.imp fun a s hs => ?_
    rw [htag, Tag.kept_double] at hs
    exact hs
  · refine (pairwise_selections_inserted hd).imp_of_mem fun hs hs' hle => ?_
    exact overlaps_eq_false (hforward _ hs) (hforward _ hs') hle

/-- The ranges are given out of order, one reaches behind its line and one over a line break. -/
theorem insert_selects_two_lines :
    let b := ofText ['a', '\r', '\n', '\n', 'b']
    let request : Request :=
      ⟨.double, [.between ⟨1, 0⟩ ⟨2, 1⟩, .between ⟨0, 0⟩ ⟨0, 9⟩], by simp, {}⟩
    ∃ b', b.insert request = .ok b' ∧
      b'.text = [' ', 'a', ' ', '\r', '\n', ' ', '\n', 'b', ' '] ∧
      b'.selections = [⟨⟨0, 1⟩, ⟨0, 2⟩⟩, ⟨⟨1, 1⟩, ⟨2, 1⟩⟩] ∧
      b'.selections.Pairwise fun s s' => s.stop ≤ s'.start ∧ s.range.overlaps s'.range = false := by
  intro b request
  have hd : b.Disjoint request := by
    unfold Disjoint
    decide
  have htext : b.textAfter request = [' ', 'a', ' ', '\r', '\n', ' ', '\n', 'b', ' '] := by cbv
  have hok := insert_of_disjoint hd
  obtain ⟨_, _, _, _, _, _, _, _, hapart, hplaces⟩ := insert_selects hok
  refine ⟨_, hok, htext, ?_, hapart⟩
  rw [hplaces]
  cbv

end Buffer

end TagSpacing
