import TagSpacing.Plan
import Mathlib.Data.List.Induction

/-! What a plan says of the selections that it was made for. -/
namespace TagSpacing

/-- What the expansion of a tag replaces around a selection, if the selection sits in that tag. -/
def Text.rangeAt? (t : Text) (tag : Tag) (s : Selection) : Option Range :=
  if t.tagAt s = some tag then (tag.rangeAround s).toOption else none

theorem Text.rangeAt?_eq_some_iff {t : Text} {tag : Tag} {s : Selection} {r : Range} :
    t.rangeAt? tag s = some r ↔ t.tagAt s = some tag ∧ tag.rangeAround s = .ok r := by
  rw [rangeAt?, Option.ite_none_right_eq_some]
  cases tag.rangeAround s <;> simp [Except.toOption]

namespace Batches

variable {t : Text}

theorem collect_append (t : Text) (selections : List Selection) (s : Selection) :
    collect t (selections ++ [s]) = (collect t selections).add t s := by
  rw [collect, collect, List.foldl_append, List.foldl_cons, List.foldl_nil]

theorem last_add (t : Text) (b : Batches) (s : Selection) : (b.add t s).last = t.tagAt s := by
  unfold add
  cases h : t.tagAt s with
  | none => rfl
  | some tag =>
    cases hr : tag.rangeAround s with
    | ok r => simp only [hr]; rfl
    | error e => simp only [hr]; rfl

theorem last_collect (t : Text) (selections : List Selection) :
    (collect t selections).last = selections.getLast?.bind t.tagAt := by
  induction selections using List.reverseRecOn with
  | nil => rfl
  | append_singleton selections s _ =>
    rw [collect_append, last_add, List.getLast?_concat, Option.bind_some]

theorem ranges_add (t : Text) (b : Batches) (s : Selection) (tag : Tag) :
    (b.add t s).ranges tag = b.ranges tag ++ (t.rangeAt? tag s).toList := by
  unfold add Text.rangeAt?
  cases h : t.tagAt s with
  | none => simp [classified]
  | some shown =>
    cases hr : shown.rangeAround s with
    | ok r =>
      by_cases htag : tag = shown
      · subst htag
        simp [hr, push, classified, Except.toOption]
      · simp [hr, push, classified, htag, Ne.symm htag]
    | error e =>
      by_cases htag : tag = shown
      · subst htag
        simp [hr, classified, Except.toOption]
      · simp [hr, classified, Ne.symm htag]

theorem ranges_collect (t : Text) (selections : List Selection) (tag : Tag) :
    (collect t selections).ranges tag = selections.filterMap (t.rangeAt? tag) := by
  induction selections using List.reverseRecOn with
  | nil => rfl
  | append_singleton selections s ih =>
    rw [collect_append, ranges_add, ih, List.filterMap_append]
    rfl

end Batches

namespace Request

variable {tag : Tag} {ranges : List Range} {request : Request}

theorem of_eq_ok (h : Request.of tag ranges = .ok request) :
    request.tag = tag ∧ request.ranges = ranges ∧ request.options = tag.insertOptions := by
  unfold Request.of at h
  split at h
  · cases h
    exact ⟨rfl, rfl, rfl⟩
  · cases h

theorem of_tag_ranges (request : Request) :
    Request.of request.tag request.ranges =
      .ok { request with options := request.tag.insertOptions } :=
  dif_pos request.ranges_ne_nil

end Request

namespace Config

variable {config : Config} {t : Text} {selections : List Selection} {request : Request}

/-- A plan expands the double tags at all selections that sit in one, provided that the last
selection does. -/
theorem plan_eq_some_iff :
    config.plan t selections = some request ↔
      selections.getLast?.bind t.tagAt = some .double ∧ request.tag = .double ∧
        request.ranges = selections.filterMap (t.rangeAt? .double) ∧
        request.options = ⟨config.undoStopBefore, true⟩ := by
  rw [plan, Batches.last_collect]
  cases hl : selections.getLast?.bind t.tagAt with
  | none => simp
  | some tag =>
    cases tag with
    | triple | unescaped | comment => simp [Tag.isExpanded]
    | double =>
      simp only [Tag.isExpanded, if_true, true_and, Batches.request, Batches.ranges_collect]
      constructor
      · intro h
        split at h
        · rename_i r hr
          obtain ⟨htag, hranges, hoptions⟩ := Request.of_eq_ok hr
          cases h
          exact ⟨htag, hranges, by simp [hoptions, Tag.insertOptions]⟩
        · cases h
      · rintro ⟨htag, hranges, hoptions⟩
        have hafter : request.tag.insertOptions.undoStopAfter = true := by rw [htag]; rfl
        rw [← hranges, ← htag, request.of_tag_ranges]
        simp only [hafter, ← hoptions]

theorem plan_eq_some (h : config.plan t selections = some request) :
    (∃ s ∈ selections, t.tagAt s = some .double) ∧ request.tag = .double ∧
      request.options = ⟨config.undoStopBefore, true⟩ := by
  obtain ⟨hlast, htag, _, hoptions⟩ := plan_eq_some_iff.mp h
  obtain ⟨s, hs, hdouble⟩ := Option.bind_eq_some_iff.mp hlast
  exact ⟨⟨s, List.mem_of_getLast? hs, hdouble⟩, htag, hoptions⟩

/-- Nothing is planned where no selection sits in a double tag. -/
theorem plan_eq_none (h : ∀ s ∈ selections, t.tagAt s ≠ some .double) :
    config.plan t selections = none := by
  cases hp : config.plan t selections with
  | none => rfl
  | some request =>
    obtain ⟨⟨s, hs, hd⟩, _⟩ := plan_eq_some hp
    exact (h s hs hd).elim

theorem exists_plan_single (config : Config) {s : Selection} {r : Range}
    (h : t.rangeAt? .double s = some r) :
    ∃ request, config.plan t [s] = some request ∧ request.tag = .double ∧
      request.ranges = [r] := by
  obtain ⟨hdouble, _⟩ := Text.rangeAt?_eq_some_iff.mp h
  refine ⟨⟨.double, [r], List.cons_ne_nil _ _, ⟨config.undoStopBefore, true⟩⟩, ?_, rfl, rfl⟩
  rw [plan_eq_some_iff, List.getLast?_singleton, Option.bind_some]
  simp [hdouble, h]

end Config

end TagSpacing
