import Mathlib
import TagSpacing.Expansion
import TagSpacing.Snippet.Parser
import TagSpacing.Proofs.SetProgram

/-! What the templates of the tags make of a text: it comes to stand between two fixed texts, and
loses the characters that belong to the markup. -/
namespace TagSpacing

namespace Regex.CharSet

/-- The set of some characters. -/
def ofList (cs : List Char) : CharSet := unions (cs.map single)

theorem contains_single_iff {c x : Char} : (single c).contains x = true ↔ x = c := by
  rw [single, contains, Bool.and_eq_true, decide_eq_true_eq, decide_eq_true_eq]
  exact ⟨fun h => Char.le_antisymm h.2 h.1, fun h => h ▸ ⟨Char.le_refl _, Char.le_refl _⟩⟩

theorem contains_ofList_iff {cs : List Char} {x : Char} :
    (ofList cs).contains x = true ↔ x ∈ cs := by
  unfold ofList
  induction cs with
  | nil => simp [unions, contains]
  | cons c cs ih =>
    cases cs with
    | nil => simp [unions, contains_single_iff]
    | cons d cs =>
      have hu : unions ((c :: d :: cs).map single) =
          union (single c) (unions ((d :: cs).map single)) := rfl
      rw [hu, contains, Bool.or_eq_true, contains_single_iff, ih]
      exact List.mem_cons.symm

end Regex.CharSet

namespace Tag

open Regex

/-- What the template of a tag puts in front of the text. -/
def opening : Tag → Text
  | double => [' ']
  | triple => ['\x7b', ' ']
  | unescaped => ['!', ' ']
  | comment => ['-', '-', ' ']

/-- What the template of a tag puts behind the text. -/
def closing : Tag → Text
  | double => [' ']
  | triple => [' ', '\x7d']
  | unescaped => [' ', '!', '!']
  | comment => [' ', '-', '-']

/-- The characters that the template of a tag takes out of the text. -/
def dropped : Tag → List Char
  | double => []
  | triple => [' ', '\x7b', '\x7d']
  | unescaped => ['!', '\x7b', '\x7d', ' ']
  | comment => ['-', '\x7b', '\x7d', ' ']

/-- What the template of a tag leaves of the text. -/
def kept (tag : Tag) (t : Text) : Text := t.filter fun c => !tag.dropped.contains c

theorem kept_double (t : Text) : double.kept t = t := by
  simp [kept, dropped]

/-- The transform in the template of a tag. Its group does not exist and gives nothing. -/
def transform? : Tag → Option Transform
  | double => none
  | triple =>
    some ⟨"[ \x7b\x7d]".toList, [], true, false, false, setProgram (.ofList triple.dropped), by cbv⟩
  | unescaped =>
    some ⟨"[!\x7b\x7d ]".toList, [.group 1], true, false, false,
      setProgram (.ofList unescaped.dropped), by cbv⟩
  | comment =>
    some ⟨"[-\x7b\x7d ]".toList, [.group 1], true, false, false,
      setProgram (.ofList comment.dropped), by cbv⟩

/-- The snippet that the template of a tag writes. -/
def snippet (tag : Tag) : Snippet :=
  ⟨[.text tag.opening, .tabstop 1 [.variable "TM_SELECTED_TEXT".toList [] tag.transform?],
    .text tag.closing, .tabstop 0 []]⟩

theorem parse_template (tag : Tag) : Snippet.parse tag.template.toList = .ok tag.snippet := by
  cases tag <;> cbv

theorem apply_transform? (tag : Tag) {tr : Transform} (h : tag.transform? = some tr) (t : Text) :
    tr.apply t = tag.kept t := by
  have hcs : (fun c => !tag.dropped.contains c) =
      fun c => !(CharSet.ofList tag.dropped).contains c := by
    funext c
    rw [Bool.not_inj_iff, Bool.eq_iff_iff, CharSet.contains_ofList_iff, List.contains_iff_mem]
  rw [kept, hcs]
  cases tag with
  | double => cases h
  | triple | unescaped | comment =>
    cases h
    exact Transform.replaceAll_matchesFrom (fun _ _ => rfl) (by omega) (Nat.zero_le _) none

/-- The text of a tag's template with `t` in it; tabstop 1 is what is left of `t`, and the cursor
ends up behind everything. -/
def rendered (tag : Tag) (t : Text) : Rendered :=
  let start := tag.opening.length
  let stop := start + (tag.kept t).length
  let last := stop + tag.closing.length
  ⟨tag.opening ++ tag.kept t ++ tag.closing, [⟨1, start, stop⟩, ⟨0, last, last⟩]⟩

theorem renderAll_frame {vars : Variables} {e : Element} {opening closing t : Text}
    (he : e.render vars opening.length [] = (t, [])) :
    Element.renderAll vars [.text opening, .tabstop 1 [e], .text closing, .tabstop 0 []] 0 [] =
      (opening ++ t ++ closing,
        [⟨1, opening.length, opening.length + t.length⟩,
          ⟨0, opening.length + t.length + closing.length,
            opening.length + t.length + closing.length⟩]) := by
  simp [Element.renderAll, Element.render, he]

theorem render_snippet_of_value (tag : Tag) {vars : Variables} {t : Text}
    (h : vars "TM_SELECTED_TEXT".toList = some t) : tag.snippet.render vars = tag.rendered t := by
  have hvar : Element.render vars (.variable "TM_SELECTED_TEXT".toList [] tag.transform?)
      tag.opening.length [] = (tag.kept t, []) := by
    simp only [Element.render, h]
    cases htr : tag.transform? with
    | some tr => simp only [tag.apply_transform? htr]
    | none =>
      have hk : tag.kept t = t := by
        cases tag with
        | double => exact kept_double t
        | triple | unescaped | comment => cases htr
      rw [hk]
      cases t <;> rfl
  rw [Snippet.render, snippet, renderAll_frame hvar]
  rfl

theorem render_snippet (tag : Tag) (t : Text) :
    tag.snippet.render (.selected t) = tag.rendered t :=
  tag.render_snippet_of_value (if_pos rfl)

theorem tabstop?_rendered_eq_none (tag : Tag) (t : Text) {index : Nat} (h : 1 < index) :
    (tag.rendered t).tabstop? index = none := by
  have hzero : ¬ 0 = index := by omega
  have hone : ¬ 1 = index := by omega
  simp [Rendered.tabstop?, rendered, List.find?, hzero, hone]

theorem finalCursor_rendered (tag : Tag) (t : Text) :
    (tag.rendered t).finalCursor = (tag.rendered t).text.length := by
  have hcursor : (tag.rendered t).finalCursor =
      tag.opening.length + (tag.kept t).length + tag.closing.length := rfl
  rw [hcursor, rendered, List.length_append, List.length_append]

theorem kept_eq (tag : Tag) (t : Text) : tag.kept t = t.filter (· ∉ tag.dropped) := by
  simp [kept]

/-- The template of a tag stands around the text, whose characters it keeps in order, those that
belong to the markup apart. Tabstop 1 is what is left of the text, and the cursor ends up behind
everything. -/
theorem render_template (tag : Tag) {vars : Variables} {t : Text}
    (h : vars "TM_SELECTED_TEXT".toList = some t) :
    ∃ s, Snippet.parse tag.template.toList = .ok s ∧
      let r := s.render vars
      let left := t.filter (· ∉ tag.dropped)
      let start := tag.opening.length
      let stop := start + left.length
      r.text = tag.opening ++ left ++ tag.closing ∧
      r.tabstop? 1 = some (start, stop) ∧ r.text.slice start stop = left ∧
      (∀ index, r.tabstop? index ≠ none → index = 0 ∨ index = 1) ∧
      r.finalCursor = r.text.length := by
  refine ⟨tag.snippet, tag.parse_template, ?_⟩
  intro r left start stop
  have hr : r = tag.rendered t := tag.render_snippet_of_value h
  have htext : r.text = tag.opening ++ left ++ tag.closing := by
    rw [hr, rendered, kept_eq]
  have hone : r.tabstop? 1 = some (start, stop) := by
    rw [hr, rendered, kept_eq]
    rfl
  have hslice : r.text.slice start stop = left := by
    rw [htext]
    exact Text.slice_append_append _ _ _
  have hother : ∀ index, r.tabstop? index ≠ none → index = 0 ∨ index = 1 := by
    intro index hindex
    by_contra hne
    rw [hr] at hindex
    exact hindex (tag.tabstop?_rendered_eq_none t (by omega))
  have hcursor : r.finalCursor = r.text.length := by
    rw [hr]
    exact tag.finalCursor_rendered t
  exact ⟨htext, hone, hslice, hother, hcursor⟩

theorem render_template_comment :
    let t := "-a\n\x7bb\x7d".toList
    Variables.selected t "TM_SELECTED_TEXT".toList = some t ∧
      ∃ s, Snippet.parse comment.template.toList = .ok s ∧
        (s.render (.selected t)).text = "-- a\nb --".toList ∧
        (s.render (.selected t)).tabstop? 1 = some (3, 6) ∧
        (s.render (.selected t)).tabstop? 2 = none ∧
        (s.render (.selected t)).finalCursor = 9 := by
  intro t
  have ht : Variables.selected t "TM_SELECTED_TEXT".toList = some t := if_pos rfl
  obtain ⟨s, hs, htext, hone, _, hother, hcursor⟩ := comment.render_template ht
  have hnone : (s.render (.selected t)).tabstop? 2 = none := by
    by_contra hne
    exact absurd (hother 2 hne) (by decide)
  exact ⟨ht, s, hs, htext, hone, hnone, by rw [hcursor, htext]; rfl⟩

end Tag

end TagSpacing
