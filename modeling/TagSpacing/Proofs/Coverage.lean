import TagSpacing.Proofs.Cursors
import TagSpacing.Proofs.Grammar

/-! Which of the selections that sit in a tag a plan covers: those around which the markup ends at a
column on both sides. -/
namespace TagSpacing

theorem Position.exists_shift?_iff {p : Position} {delta : Int} :
    (∃ q, p.shift? delta = some q) ↔
      0 ≤ (p.character : Int) + delta ∧ (p.character : Int) + delta < columnBound := by
  unfold shift?
  simp only [Option.ite_none_right_eq_some, Option.some.injEq, exists_and_left, exists_eq',
    and_true]

namespace Tag

variable {tag : Tag} {s : Selection}

/-- Whether the ends of what is replaced around a selection come before the end of all columns. -/
def Reaches (tag : Tag) (s : Selection) : Prop :=
  (s.start.character : Int) + tag.offsets.1 < Position.columnBound ∧
    (s.stop.character : Int) + tag.offsets.2 < Position.columnBound

instance (tag : Tag) (s : Selection) : Decidable (tag.Reaches s) :=
  inferInstanceAs (Decidable (_ ∧ _))

/-- Only the start of what is replaced may lie in front of its line. -/
theorem exists_rangeAround_iff :
    (∃ r, tag.rangeAround s = .ok r) ↔
      0 ≤ (s.start.character : Int) + tag.offsets.1 ∧ tag.Reaches s := by
  have hstop : 0 ≤ (s.stop.character : Int) + tag.offsets.2 := by
    cases tag <;> simp only [offsets] <;> omega
  have hshifts : (∃ r, tag.rangeAround s = .ok r) ↔
      (∃ start, s.start.shift? tag.offsets.1 = some start) ∧
        ∃ stop, s.stop.shift? tag.offsets.2 = some stop := by
    constructor
    · rintro ⟨r, hr⟩
      obtain ⟨start, stop, hstart, hstop, _⟩ := rangeAround_eq_ok hr
      exact ⟨⟨start, hstart⟩, stop, hstop⟩
    · rintro ⟨⟨start, hstart⟩, stop, hstop⟩
      refine ⟨.between start stop, ?_⟩
      rw [rangeAround, hstart, hstop]
  rw [hshifts, Position.exists_shift?_iff, Position.exists_shift?_iff, Reaches]
  simp only [hstop, true_and, and_assoc]

end Tag

namespace Text

variable {t : Text} {tag : Tag} {s : Selection} {selections : List Selection}

/-- The opening of a tag leaves enough columns in front of the selection, and so does the end of all
columns. -/
theorem start_of_tagAt (h : t.tagAt s = some tag) :
    0 ≤ (s.start.character : Int) + tag.offsets.1 := by
  by_cases hc : s.start.character + 1 < Position.columnBound
  · have hinset : tag.inset ≤ s.start.character := ((tagAt_eq_some_iff hc).mp h).1.1
    cases tag <;> simp only [Tag.inset, Tag.offsets] at hinset ⊢ <;> omega
  · have hbound : 4 < Position.columnBound := by decide
    cases tag <;> simp only [Tag.offsets] <;> omega

theorem exists_rangeAround_iff_of_tagAt (h : t.tagAt s = some tag) :
    (∃ r, tag.rangeAround s = .ok r) ↔ tag.Reaches s := by
  rw [Tag.exists_rangeAround_iff]
  exact and_iff_right (start_of_tagAt h)

theorem filterMap_rangeAt? (t : Text) (tag : Tag) (selections : List Selection) :
    selections.filterMap (t.rangeAt? tag) =
      (selections.filter fun s => t.tagAt s = some tag).filterMap fun s =>
        (tag.rangeAround s).toOption := by
  rw [List.filterMap_filter]
  simp only [decide_eq_true_eq]
  rfl

theorem filterMap_rangeAt?_ne_nil_iff :
    selections.filterMap (t.rangeAt? tag) ≠ [] ↔
      ∃ s ∈ selections, t.tagAt s = some tag ∧ ∃ r, tag.rangeAround s = .ok r := by
  constructor
  · intro hne
    obtain ⟨r, hr⟩ := List.exists_mem_of_ne_nil _ hne
    obtain ⟨s, hs, hsr⟩ := List.mem_filterMap.mp hr
    obtain ⟨htag, hrange⟩ := rangeAt?_eq_some_iff.mp hsr
    exact ⟨s, hs, htag, r, hrange⟩
  · rintro ⟨s, hs, htag, r, hrange⟩
    exact List.ne_nil_of_mem
      (List.mem_filterMap.mpr ⟨s, hs, rangeAt?_eq_some_iff.mpr ⟨htag, hrange⟩⟩)

/-- No selection in a tag is skipped when all of them reach. -/
theorem forall₂_rangeAt? (h : ∀ s ∈ selections, t.tagAt s = some tag → tag.Reaches s) :
    List.Forall₂ (fun s r => tag.rangeAround s = .ok r)
      (selections.filter fun s => t.tagAt s = some tag)
      (selections.filterMap (t.rangeAt? tag)) := by
  induction selections with
  | nil => exact .nil
  | cons s selections ih =>
    rw [List.forall_mem_cons] at h
    obtain ⟨hs, hrest⟩ := h
    by_cases htag : t.tagAt s = some tag
    · obtain ⟨r, hr⟩ := (exists_rangeAround_iff_of_tagAt htag).mpr (hs htag)
      rw [List.filter_cons_of_pos (by simpa using htag),
        List.filterMap_cons_some (rangeAt?_eq_some_iff.mpr ⟨htag, hr⟩)]
      exact .cons hr (ih hrest)
    · have hnone : t.rangeAt? tag s = none := if_neg htag
      rw [List.filter_cons_of_neg (by simpa using htag), List.filterMap_cons_none hnone]
      exact ih hrest

end Text

theorem Request.exists_of_iff {tag : Tag} {ranges : List Range} :
    (∃ request, Request.of tag ranges = .ok request) ↔ ranges ≠ [] := by
  constructor
  · rintro ⟨request, h⟩
    rw [← (of_eq_ok h).2.1]
    exact request.ranges_ne_nil
  · intro h
    exact ⟨_, dif_pos h⟩

namespace Config

variable {config : Config} {t : Text} {selections : List Selection}

/-- Why nothing is planned for the selections of a text. -/
inductive Unplanned (t : Text) (selections : List Selection) : Prop
  | empty (h : selections = [])
  | lastElsewhere {s : Selection} (h : selections.getLast? = some s)
      (hs : t.tagAt s ≠ some .double)
  | noRange (h : ∀ s ∈ selections, t.tagAt s = some .double → ∀ r, Tag.double.rangeAround s ≠ .ok r)

theorem exists_plan_iff :
    (∃ request, config.plan t selections = some request) ↔
      selections.getLast?.bind t.tagAt = some .double ∧
        ∃ s ∈ selections, t.tagAt s = some .double ∧ ∃ r, Tag.double.rangeAround s = .ok r := by
  rw [← Text.filterMap_rangeAt?_ne_nil_iff]
  constructor
  · rintro ⟨request, h⟩
    obtain ⟨hlast, _, hranges, _⟩ := plan_eq_some_iff.mp h
    rw [← hranges]
    exact ⟨hlast, request.ranges_ne_nil⟩
  · rintro ⟨hlast, hne⟩
    exact ⟨⟨.double, _, hne, ⟨config.undoStopBefore, true⟩⟩,
      plan_eq_some_iff.mpr ⟨hlast, rfl, rfl, rfl⟩⟩

theorem unplanned_iff (config : Config) :
    Unplanned t selections ↔ ¬ ∃ request, config.plan t selections = some request := by
  rw [exists_plan_iff]
  constructor
  · rintro hidle ⟨hlast, s, hmem, htag, r, hr⟩
    cases hidle with
    | empty h =>
      subst h
      cases hmem
    | lastElsewhere h hs =>
      rw [h, Option.bind_some] at hlast
      exact hs hlast
    | noRange h => exact h s hmem htag r hr
  · intro hnot
    by_cases hlast : selections.getLast?.bind t.tagAt = some .double
    · exact .noRange fun s hmem htag r hr => hnot ⟨hlast, s, hmem, htag, r, hr⟩
    · cases hl : selections.getLast? with
      | none => exact .empty (List.getLast?_eq_none_iff.mp hl)
      | some s =>
        rw [hl, Option.bind_some] at hlast
        exact .lastElsewhere hl hlast

/-- A plan holds the ranges of all selections in a double tag that have one, in the order of the
selections, whatever the others sit in. There is one unless the last selection sits elsewhere. -/
theorem plan_issues (config : Config) (t : Text) (selections : List Selection) :
    (Unplanned t selections → config.plan t selections = none) ∧
    (¬ Unplanned t selections → ∃ request, config.plan t selections = some request ∧
      request.tag = .double ∧
      request.ranges = ((selections.filter fun s => t.tagAt s = some .double).filterMap fun s =>
        (Tag.double.rangeAround s).toOption) ∧
      request.options = ⟨config.undoStopBefore, true⟩) := by
  rw [unplanned_iff config, not_not]
  constructor
  · intro hnone
    rw [Option.eq_none_iff_forall_ne_some]
    exact fun request h => hnone ⟨request, h⟩
  · rintro ⟨request, h⟩
    obtain ⟨_, htag, hranges, hoptions⟩ := plan_eq_some_iff.mp h
    rw [Text.filterMap_rangeAt?] at hranges
    exact ⟨request, h, htag, hranges, hoptions⟩

/-- One cursor stands in a triple tag and one in none, one occurs twice, and one has no range. -/
theorem plan_issues_mixed :
    let t : Text := ['{', '{', '}', '}', '\r', '\n', '{', '{', ' ', '{', 'a']
    let selections : List Selection := [⟨⟨0, Position.columnBound - 1⟩, ⟨0, 1⟩⟩, .caret ⟨1, 1⟩,
      .caret ⟨1, 3⟩, .caret ⟨0, 1⟩, .caret ⟨1, 5⟩, .caret ⟨0, 1⟩]
    ¬ Unplanned t selections ∧
      ∃ request, Config.plan ⟨true, false⟩ t selections = some request ∧
        request.ranges = [.point ⟨1, 2⟩, .point ⟨0, 2⟩, .point ⟨0, 2⟩] ∧
        request.options = ⟨false, true⟩ := by
  intro t selections
  have hplanned : ¬ Unplanned t selections := by
    rintro (h | @⟨s, h, hs⟩ | h)
    · exact List.cons_ne_nil _ _ h
    · obtain rfl : Selection.caret ⟨0, 1⟩ = s := Option.some.inj h
      exact hs (by decide)
    · exact h (.caret ⟨0, 1⟩) (by decide) (by decide) (.point ⟨0, 2⟩) (by decide)
  obtain ⟨request, hrequest, _, hranges, hoptions⟩ :=
    (plan_issues ⟨true, false⟩ t selections).2 hplanned
  exact ⟨hplanned, request, hrequest, hranges.trans (by decide), hoptions⟩

/-- A selection that sits in a tag has a range unless an end of it overflows the columns. Where none
does, every selection in a tag adds its range to those of the tag, and if the last one sits in a
double tag, all double tags are planned for. -/
theorem plan_covers (config : Config) (t : Text) (selections : List Selection) :
    (∀ s tag, t.tagAt s = some tag → ((∃ r, tag.rangeAround s = .ok r) ↔ tag.Reaches s)) ∧
    (∀ tag, (∀ s ∈ selections, t.tagAt s = some tag → tag.Reaches s) →
      List.Forall₂ (fun s r => tag.rangeAround s = .ok r)
        (selections.filter fun s => t.tagAt s = some tag)
        ((Batches.collect t selections).ranges tag)) ∧
    (∀ tag, (∃ request, (Batches.collect t selections).request tag = .ok request) ↔
      ∃ s ∈ selections, t.tagAt s = some tag ∧ tag.Reaches s) ∧
    ((∀ s ∈ selections, t.tagAt s = some .double → Tag.double.Reaches s) →
      selections.getLast?.bind t.tagAt = some .double →
      ∃ request, config.plan t selections = some request ∧
        List.Forall₂ (fun s r => Tag.double.rangeAround s = .ok r)
          (selections.filter fun s => t.tagAt s = some .double) request.ranges) := by
  refine ⟨fun s tag => Text.exists_rangeAround_iff_of_tagAt, ?_, ?_, ?_⟩
  · intro tag hreach
    rw [Batches.ranges_collect]
    exact Text.forall₂_rangeAt? hreach
  · intro tag
    rw [Batches.request, Batches.ranges_collect, Request.exists_of_iff,
      Text.filterMap_rangeAt?_ne_nil_iff]
    refine exists_congr fun s => and_congr_right fun _ => and_congr_right fun htag => ?_
    exact Text.exists_rangeAround_iff_of_tagAt htag
  · intro hreach hlast
    obtain ⟨s, hs, htag⟩ := Option.bind_eq_some_iff.mp hlast
    have hmem := List.mem_of_getLast? hs
    have hrange := (Text.exists_rangeAround_iff_of_tagAt htag).mpr (hreach s hmem htag)
    obtain ⟨request, hrequest⟩ := exists_plan_iff.mpr ⟨hlast, s, hmem, htag, hrange⟩
    refine ⟨request, hrequest, ?_⟩
    rw [(plan_eq_some_iff.mp hrequest).2.2.1]
    exact Text.forall₂_rangeAt? hreach

/-- A cursor and a selection that reaches up to the last column that still has one behind it. -/
theorem plan_covers_far :
    let t : Text := ['{', '{', '}', '}', '\r', '\n', '{', '{', 'a']
    let selections : List Selection :=
      [.caret ⟨0, 1⟩, .caret ⟨0, 0⟩, ⟨⟨1, Position.columnBound - 2⟩, ⟨1, 1⟩⟩]
    (∀ s ∈ selections, t.tagAt s = some .double → Tag.double.Reaches s) ∧
      selections.getLast?.bind t.tagAt = some .double ∧
      ∃ request, Config.plan {} t selections = some request ∧ request.ranges.length = 2 := by
  intro t selections
  have hreach : ∀ s ∈ selections, t.tagAt s = some .double → Tag.double.Reaches s := by decide
  have hlast : selections.getLast?.bind t.tagAt = some .double := by decide
  obtain ⟨request, hrequest, hranges⟩ := (plan_covers {} t selections).2.2.2 hreach hlast
  refine ⟨hreach, hlast, request, hrequest, ?_⟩
  rw [← hranges.length_eq]
  decide

/-- A tag whose text is selected up to the greatest column is told, but not planned for. -/
theorem not_plan_covers_last_column :
    let t : Text := ['{', '{', 'a']
    let s : Selection := ⟨⟨0, 1⟩, ⟨0, Position.columnBound - 1⟩⟩
    t.tagAt s = some .double ∧
      Tag.double.rangeAround s = .error (.startBeforeLine .double ⟨0, 1⟩) ∧
      (Batches.collect t [s]).last = some .double ∧
      (Batches.collect t [s]).request .double = .error (.noRanges .double) ∧
      Config.plan {} t [s] = none := by
  intro t s
  have htag : t.tagAt s = some .double := by decide
  have hrange : Tag.double.rangeAround s = .error (.startBeforeLine .double ⟨0, 1⟩) := by decide
  exact ⟨htag, hrange, by decide, by decide, by decide⟩

end Config

end TagSpacing
