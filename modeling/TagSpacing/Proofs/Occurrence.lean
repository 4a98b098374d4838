import Mathlib
import TagSpacing.Proofs.Tabstops
import TagSpacing.Snippet.Parser

/-! Which of several tabstops with one number the number stands for. A tabstop is noted when it ends,
so of those with one number the first to open that holds no other of them is found. That is the first
to open of all unless the number occurs again in its content. -/
namespace TagSpacing

/-- A tabstop that rendering reaches: its number, where its text starts, and its content. -/
structure Occurrence where
  index : Nat
  start : Nat
  content : List Element

/-- Where the text of a tabstop comes to lie. -/
def Occurrence.span (vars : Variables) (o : Occurrence) : TabstopSpan :=
  ⟨o.index, o.start, o.start + (Element.plainAll vars o.content).length⟩

instance (vars : Variables) (name : Text) (transform : Option Transform) :
    Decidable (vars.Lacks name transform) :=
  inferInstanceAs (Decidable (vars name = none ∨ vars name = some [] ∧ transform = none))

namespace Element

mutual

/-- The tabstops that rendering an element behind `offset` characters reaches, in the order in which
they open. The content of a tabstop opens behind the tabstop itself. -/
def opened (vars : Variables) : Element → Nat → List Occurrence
  | .text _, _ => []
  | .tabstop index content, offset => ⟨index, offset, content⟩ :: openedAll vars content offset
  | .variable name fallback transform, offset =>
    if vars.Lacks name transform then openedAll vars fallback offset else []

def openedAll (vars : Variables) : List Element → Nat → List Occurrence
  | [], _ => []
  | e :: es, offset => opened vars e offset ++ openedAll vars es (offset + (e.plain vars).length)

end

end Element

namespace Occurrence

/-- Whether a tabstop has a number and its content holds no other tabstop with that number. -/
def isInnermost (vars : Variables) (index : Nat) (o : Occurrence) : Bool :=
  o.index = index ∧ ∀ inner ∈ Element.openedAll vars o.content o.start, inner.index ≠ index

end Occurrence

namespace Element

variable {vars : Variables} {e : Element} {es content : List Element} {index start offset : Nat}

theorem opened_variable_of_not_lacks {name : Text} {fallback : List Element}
    {transform : Option Transform} (h : ¬ (vars.Lacks name transform ∧ fallback ≠ [])) (offset : Nat) :
    opened vars (.variable name fallback transform) offset = [] := by
  by_cases hlacks : vars.Lacks name transform
  · have hnil : fallback = [] := by
      by_contra hne
      exact h ⟨hlacks, hne⟩
    simp [opened, hlacks, hnil, openedAll]
  · simp [opened, hlacks]

mutual

theorem mem_opened_iff (vars : Variables) : ∀ (e : Element) (offset : Nat) (o : Occurrence),
    o ∈ opened vars e offset ↔ ∃ n, o.start = offset + n ∧ Reaches vars [e] n o.index o.content
  | .text t, offset, o => by
    constructor
    · intro h
      simp [opened] at h
    · rintro ⟨n, _, h⟩
      cases h with
      | later h => exact (h.ne_nil rfl).elim
  | .tabstop index content, offset, o => by
    simp only [opened, List.mem_cons, mem_openedAll_iff vars content, reaches_tabstop_iff]
    constructor
    · rintro (rfl | ⟨n, hstart, h⟩)
      · exact ⟨0, rfl, Or.inl ⟨rfl, rfl, rfl⟩⟩
      · exact ⟨n, hstart, Or.inr h⟩
    · rintro ⟨n, hstart, ⟨rfl, hindex, hcontent⟩ | h⟩
      · obtain ⟨i, s, c⟩ := o
        exact Or.inl (by simp_all)
      · exact Or.inr ⟨n, hstart, h⟩
  | .variable name fallback transform, offset, o => by
    simp only [reaches_variable_iff]
    by_cases hlacks : vars.Lacks name transform
    · rw [opened, if_pos hlacks, mem_openedAll_iff vars fallback]
      simp only [hlacks, true_and]
    · simp [opened, hlacks]

/-- The tabstops that open are those that are reached. -/
theorem mem_openedAll_iff (vars : Variables) : ∀ (es : List Element) (offset : Nat) (o : Occurrence),
    o ∈ openedAll vars es offset ↔ ∃ n, o.start = offset + n ∧ Reaches vars es n o.index o.content
  | [], offset, o => by
    constructor
    · intro h
      simp [openedAll] at h
    · rintro ⟨n, _, h⟩
      exact (h.ne_nil rfl).elim
  | e :: es, offset, o => by
    simp only [openedAll, List.mem_append, mem_opened_iff vars e, mem_openedAll_iff vars es]
    constructor
    · rintro (⟨n, hstart, h⟩ | ⟨n, hstart, h⟩)
      · exact ⟨n, hstart, reaches_cons_iff.mpr (Or.inl h)⟩
      · exact ⟨(e.plain vars).length + n, by omega, .later h⟩
    · rintro ⟨n, hstart, h⟩
      rcases reaches_cons_iff.mp h with h | ⟨m, rfl, hm⟩
      · exact Or.inl ⟨n, hstart, h⟩
      · exact Or.inr ⟨m, by omega, hm⟩

end

/-- A number is found among the tabstops that were noted before, or it is that of the one noted now. -/
theorem find?_note (stops : List TabstopSpan) (i index start stop : Nat) :
    (if stops.any (·.index = index) then stops else stops ++ [⟨index, start, stop⟩]).find?
        (·.index = i) =
      (stops.find? (·.index = i)).or (if i = index then some ⟨index, start, stop⟩ else none) := by
  split
  · rename_i hany
    by_cases hi : i = index
    · subst hi
      obtain ⟨s', hs'⟩ : ∃ s', stops.find? (·.index = i) = some s' := by
        rw [← Option.isSome_iff_exists, List.find?_isSome]
        simpa using hany
      rw [hs', Option.some_or]
    · rw [if_neg hi, Option.or_none]
  · rw [List.find?_append, List.find?_singleton]
    by_cases hi : i = index
    · simp [hi]
    · simp [hi, Ne.symm hi]

/-- A number that opens in some content has an innermost tabstop there, as it is noted. -/
theorem exists_innermost {i : Nat}
    (h : (renderAll vars content offset []).2.find? (·.index = i) =
      ((openedAll vars content offset).find? (Occurrence.isInnermost vars i)).map (Occurrence.span vars))
    (hopen : ∃ inner ∈ openedAll vars content offset, inner.index = i) :
    ∃ o, (openedAll vars content offset).find? (Occurrence.isInnermost vars i) = some o := by
  obtain ⟨inner, hinner, rfl⟩ := hopen
  obtain ⟨n, _, hr⟩ := (mem_openedAll_iff vars content offset inner).mp hinner
  have hmem : inner.index ∈ (renderAll vars content offset []).2.map TabstopSpan.index :=
    ((notes_renderAll vars content offset []).mem_iff inner.index).mpr (Or.inr ⟨n, inner.content, hr⟩)
  obtain ⟨s, hs, hindex⟩ := List.mem_map.mp hmem
  have hsome : ((renderAll vars content offset []).2.find? (·.index = inner.index)).isSome := by
    rw [List.find?_isSome]
    exact ⟨s, hs, by simpa using hindex⟩
  rw [h, Option.isSome_map] at hsome
  exact Option.isSome_iff_exists.mp hsome

mutual

theorem find?_render (vars : Variables) (i : Nat) :
    ∀ (e : Element) (offset : Nat) (stops : List TabstopSpan),
      (e.render vars offset stops).2.find? (·.index = i) =
        (stops.find? (·.index = i)).or
          (((opened vars e offset).find? (Occurrence.isInnermost vars i)).map (Occurrence.span vars))
  | .text t, offset, stops => by simp [render, opened]
  | .tabstop index content, offset, stops => by
    have hcontent := find?_renderAll vars i content offset
    have hinner : (renderAll vars content offset []).2.find? (·.index = i) =
        ((openedAll vars content offset).find? (Occurrence.isInnermost vars i)).map
          (Occurrence.span vars) := by
      simpa using hcontent []
    rw [render_tabstop_snd]
    simp only
    rw [find?_note, hcontent stops, Option.or_assoc, opened, List.find?_cons]
    congr 1
    by_cases hi : i = index
    · subst hi
      by_cases hopen : ∃ inner ∈ openedAll vars content offset, inner.index = i
      · -- The number occurs in the content, so something was noted for it when the tabstop ends.
        obtain ⟨o, ho⟩ := exists_innermost hinner hopen
        have hnot : Occurrence.isInnermost vars i ⟨i, offset, content⟩ = false := by
          simpa [Occurrence.isInnermost] using hopen
        simp [hnot, ho]
      · have hnot : ∀ inner ∈ openedAll vars content offset, inner.index ≠ i := by
          simpa using hopen
        have hself : Occurrence.isInnermost vars i ⟨i, offset, content⟩ = true := by
          simpa [Occurrence.isInnermost] using hnot
        have hnone : (openedAll vars content offset).find? (Occurrence.isInnermost vars i) = none := by
          rw [List.find?_eq_none]
          intro inner hmem h
          exact hnot inner hmem (by simp_all [Occurrence.isInnermost])
        simp [hself, hnone, Occurrence.span]
    · have hnot : Occurrence.isInnermost vars i ⟨index, offset, content⟩ = false := by
        simp [Occurrence.isInnermost, Ne.symm hi]
      simp [hnot, hi]
  | .variable name fallback transform, offset, stops => by
    by_cases h : vars.Lacks name transform ∧ fallback ≠ []
    · rw [render_variable_of_lacks h.1 h.2, find?_renderAll vars i fallback, opened, if_pos h.1]
    · obtain ⟨t, ht⟩ := exists_render_variable h
      rw [ht, opened_variable_of_not_lacks h]
      simp

/-- The tabstop found for a number is the one noted before, or the first to open of those whose
content does not hold the number again. -/
theorem find?_renderAll (vars : Variables) (i : Nat) :
    ∀ (es : List Element) (offset : Nat) (stops : List TabstopSpan),
      (renderAll vars es offset stops).2.find? (·.index = i) =
        (stops.find? (·.index = i)).or
          (((openedAll vars es offset).find? (Occurrence.isInnermost vars i)).map
            (Occurrence.span vars))
  | [], offset, stops => by simp [renderAll, openedAll]
  | e :: es, offset, stops => by
    simp only [renderAll, openedAll]
    rw [find?_renderAll vars i es, find?_render vars i e, render_fst, List.find?_append,
      Option.or_assoc, Option.map_or]

end

end Element

namespace Occurrence

variable {vars : Variables} {index : Nat} {os : List Occurrence} {o : Occurrence}

theorem isInnermost_iff : o.isInnermost vars index = true ↔
    o.index = index ∧ ∀ start content, ¬ Element.Reaches vars o.content start index content := by
  rw [isInnermost, decide_eq_true_iff]
  refine and_congr Iff.rfl ?_
  constructor
  · intro h start content hr
    have hmem := (Element.mem_openedAll_iff vars o.content o.start ⟨index, o.start + start, content⟩).mpr
      ⟨start, rfl, hr⟩
    exact h _ hmem rfl
  · rintro h inner hmem rfl
    obtain ⟨n, _, hr⟩ := (Element.mem_openedAll_iff vars o.content o.start inner).mp hmem
    exact h n inner.content hr

/-- The first tabstop with a number is innermost if its content does not hold the number. -/
theorem find?_isInnermost
    (h : ∀ o, os.find? (·.index = index) = some o →
      ∀ start content, ¬ Element.Reaches vars o.content start index content) :
    os.find? (isInnermost vars index) = os.find? (·.index = index) := by
  have hindex : ∀ o : Occurrence, o.index ≠ index → o.isInnermost vars index = false := by
    intro o hne
    rw [Bool.eq_false_iff]
    intro hinner
    exact hne (isInnermost_iff.mp hinner).1
  cases hfirst : os.find? (·.index = index) with
  | none =>
    rw [List.find?_eq_none] at hfirst ⊢
    intro o ho
    have hne : o.index ≠ index := by simpa using hfirst o ho
    rw [hindex o hne]
    exact Bool.false_ne_true
  | some o =>
    have hinner := h o hfirst
    rw [List.find?_eq_some_iff_append] at hfirst ⊢
    obtain ⟨ho, before, after, hos, hbefore⟩ := hfirst
    have hnum : o.index = index := by simpa using ho
    refine ⟨isInnermost_iff.mpr ⟨hnum, hinner⟩, before, after, hos, fun o' ho' => ?_⟩
    have hne : o'.index ≠ index := by simpa using hbefore o' ho'
    rw [hindex o' hne]
    rfl

end Occurrence

namespace Snippet

/-- A number stands for the tabstop that opens first of those whose content does not hold the number
again. That is the first tabstop with the number to open, unless its own content holds another. -/
theorem tabstop?_first (s : Snippet) (vars : Variables) (index : Nat) :
    let all := Element.openedAll vars s.elements 0
    let range (o : Occurrence) := (o.start, o.start + (render ⟨o.content⟩ vars).text.length)
    (∀ o, o ∈ all ↔ Element.Reaches vars s.elements o.start o.index o.content) ∧
    (s.render vars).tabstop? index = (all.find? (Occurrence.isInnermost vars index)).map range ∧
    ((∀ o, all.find? (·.index = index) = some o →
        ∀ start content, ¬ Element.Reaches vars o.content start index content) →
      (s.render vars).tabstop? index = (all.find? (·.index = index)).map range) := by
  intro all range
  have hall : ∀ o, o ∈ all ↔ Element.Reaches vars s.elements o.start o.index o.content := by
    intro o
    rw [Element.mem_openedAll_iff]
    constructor
    · rintro ⟨n, hstart, h⟩
      rw [hstart, Nat.zero_add]
      exact h
    · intro h
      exact ⟨o.start, by omega, h⟩
  have hinnermost : (s.render vars).tabstop? index =
      (all.find? (Occurrence.isInnermost vars index)).map range := by
    have hfind := Element.find?_renderAll vars index s.elements 0 []
    rw [List.find?_nil, Option.none_or] at hfind
    rw [Rendered.tabstop?, render, hfind, Option.map_map]
    rfl
  refine ⟨hall, hinnermost, fun h => ?_⟩
  rw [hinnermost, Occurrence.find?_isInnermost h]

/-- The number of the first tabstop again behind it, and another number in its content. -/
theorem tabstop?_first_repeated :
    let first : Element := .tabstop 1 [.text ['a'], .tabstop 2 [.text ['b']]]
    let s : Snippet := ⟨[first, .tabstop 1 [.text ['c']]]⟩
    Snippet.parse "$\x7b1:a$\x7b2:b\x7d\x7d$\x7b1:c\x7d".toList = .ok s ∧
      (s.render (.selected [])).tabstop? 1 = some (0, 2) := by
  intro first s
  have hfirst : Occurrence.isInnermost (.selected []) 1
      ⟨1, 0, [.text ['a'], .tabstop 2 [.text ['b']]]⟩ = true := rfl
  refine ⟨by cbv, (tabstop?_first s (.selected []) 1).2.2 fun o ho => ?_⟩
  cases ho
  exact (Occurrence.isInnermost_iff.mp hfirst).2

/-- A tabstop in the content of one with the same number ends first, and the number stands for it. -/
theorem not_tabstop?_first_nested :
    let s : Snippet := ⟨[.tabstop 1 [.text ['a'], .tabstop 1 [.text ['b']], .text ['c']]]⟩
    Snippet.parse "$\x7b1:a$\x7b1:b\x7dc\x7d".toList = .ok s ∧
      (s.render (.selected [])).text = ['a', 'b', 'c'] ∧
      ((Element.openedAll (.selected []) s.elements 0).find? (·.index = 1)).map
        (Occurrence.span (.selected [])) = some ⟨1, 0, 3⟩ ∧
      (s.render (.selected [])).tabstop? 1 = some (1, 2) := by
  intro s
  exact ⟨by cbv, rfl, rfl, rfl⟩

end Snippet

end TagSpacing
