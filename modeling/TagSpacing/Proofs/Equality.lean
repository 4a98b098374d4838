import Mathlib
import TagSpacing.Snippet.Parser
import TagSpacing.Proofs.SetProgram
import TagSpacing.Proofs.Tabstops

/-! What snippets that count as equal have in common. They reach the same tabstops and run
corresponding transforms on the same values, and render alike if these transforms have the same flags
too. As flags do not count, they may render differently else. -/
namespace TagSpacing

namespace Transform

variable {a b : Transform}

/-- Whether two transforms treat case and lines alike. -/
def SameFlags (a b : Transform) : Prop := a.ignoreCase = b.ignoreCase ∧ a.multiLine = b.multiLine

theorem same_iff :
    a.same b = true ↔ a.pattern = b.pattern ∧ a.format = b.format ∧ a.isGlobal = b.isGlobal := by
  rw [same, decide_eq_true_iff]

/-- The program is that of the pattern under the flags, so nothing else can differ. -/
theorem eq_of_same (h : a.same b = true) (hf : a.SameFlags b) : a = b := by
  obtain ⟨hpattern, hformat, hglobal⟩ := same_iff.mp h
  obtain ⟨hcase, hlines⟩ := hf
  have hprogram : a.program = b.program := by
    have hcompile := a.compile_pattern
    rw [hpattern, hcase, hlines, b.compile_pattern] at hcompile
    exact (Option.some.inj hcompile).symm
  cases a
  cases b
  simp_all

end Transform

namespace Element

variable {vars : Variables} {a b : Element} {as bs : List Element} {stops stops' : List TabstopSpan}

/-- Elements of one shape, with texts, numbers and names in common and transforms that count as
equal. -/
inductive Alike : List Element → List Element → Prop
  | nil : Alike [] []
  | text (t : Text) {as bs : List Element} (h : Alike as bs) : Alike (.text t :: as) (.text t :: bs)
  | tabstop (index : Nat) {as bs content content' : List Element} (hcontent : Alike content content')
    (h : Alike as bs) : Alike (.tabstop index content :: as) (.tabstop index content' :: bs)
  | variable (name : Text) {as bs fallback fallback' : List Element}
    {transform transform' : Option Transform} (hfallback : Alike fallback fallback')
    (htransform : Option.Rel (fun s t => s.same t = true) transform transform') (h : Alike as bs) :
    Alike (.variable name fallback transform :: as) (.variable name fallback' transform' :: bs)

theorem rel_of_sameTransform {s t : Option Transform}
    (h : (match s, t with
      | none, none => true
      | some s, some t => s.same t
      | _, _ => false) = true) :
    Option.Rel (fun s t => s.same t = true) s t := by
  cases s with
  | none =>
    cases t with
    | none => exact .none
    | some t => cases h
  | some s =>
    cases t with
    | none => cases h
    | some t => exact .some h

mutual

theorem alike_cons_of_same : ∀ (a b : Element) (as bs : List Element), a.same b = true →
    Alike as bs → Alike (a :: as) (b :: bs)
  | .text s, .text t, as, bs, hs, h => by
    simp only [same, decide_eq_true_eq] at hs
    rw [hs]
    exact .text t h
  | .tabstop i c, .tabstop j d, as, bs, hs, h => by
    simp only [same, Bool.and_eq_true, decide_eq_true_eq] at hs
    obtain ⟨hindex, hcontent⟩ := hs
    rw [hindex]
    exact .tabstop j (alike_of_sameAll c d hcontent) h
  | .variable m c s, .variable n d t, as, bs, hs, h => by
    simp only [same, Bool.and_eq_true, decide_eq_true_eq] at hs
    obtain ⟨⟨hname, hfallback⟩, htransform⟩ := hs
    rw [hname]
    exact .variable n (alike_of_sameAll c d hfallback) (rel_of_sameTransform htransform) h

theorem alike_of_sameAll : ∀ (as bs : List Element), sameAll as bs = true → Alike as bs
  | [], [], _ => .nil
  | a :: as, b :: bs, h => by
    simp only [sameAll, Bool.and_eq_true] at h
    exact alike_cons_of_same a b as bs h.1 (alike_of_sameAll as bs h.2)

end

mutual

/-- The transforms that rendering an element runs, each with the value that it is given. -/
def runs (vars : Variables) : Element → List (Transform × Text)
  | .text _ => []
  | .tabstop _ content => runsAll vars content
  | .variable name fallback transform =>
    match vars name, transform with
    | some value, some tr => [(tr, value)]
    | some value, none => if value = [] then runsAll vars fallback else []
    | none, _ => runsAll vars fallback

def runsAll (vars : Variables) : List Element → List (Transform × Text)
  | [] => []
  | e :: es => runs vars e ++ runsAll vars es

end

/-- Whether two runs are of transforms that count as equal, on one value. -/
def SameRun (p q : Transform × Text) : Prop := p.1.same q.1 = true ∧ p.2 = q.2

theorem forall₂_runs_variable (name : Text) {fallback fallback' : List Element}
    {transform transform' : Option Transform}
    (hfallback : List.Forall₂ SameRun (runsAll vars fallback) (runsAll vars fallback'))
    (htransform : Option.Rel (fun s t => s.same t = true) transform transform') :
    List.Forall₂ SameRun (runs vars (.variable name fallback transform))
      (runs vars (.variable name fallback' transform')) := by
  cases hvalue : vars name with
  | none => simpa only [runs, hvalue] using hfallback
  | some value =>
    cases htransform with
    | none =>
      by_cases hempty : value = []
      · simpa only [runs, hvalue, if_pos hempty] using hfallback
      · simpa only [runs, hvalue, if_neg hempty] using .nil
    | some hsame => simpa only [runs, hvalue] using .cons ⟨hsame, rfl⟩ .nil

/-- Corresponding transforms are run, on the same values. -/
theorem Alike.forall₂_runsAll (h : Alike as bs) (vars : Variables) :
    List.Forall₂ SameRun (runsAll vars as) (runsAll vars bs) := by
  induction h with
  | nil => exact .nil
  | text t h ih => exact ih
  | tabstop index hcontent h ihcontent ih => exact List.rel_append ihcontent ih
  | «variable» name hfallback htransform h ihfallback ih =>
    exact List.rel_append (forall₂_runs_variable name ihfallback htransform) ih

theorem Alike.eq_nil_iff (h : Alike as bs) : as = [] ↔ bs = [] := by
  cases h <;> simp

theorem render_variable_congr {name : Text} {fallback fallback' : List Element}
    {transform transform' : Option Transform}
    (hnil : fallback = [] ↔ fallback' = [])
    (htransform : Option.Rel (fun s t => s.same t = true) transform transform')
    (hruns : runs vars (.variable name fallback transform) =
      runs vars (.variable name fallback' transform'))
    (hfallback : runsAll vars fallback = runsAll vars fallback' → ∀ offset stops,
      renderAll vars fallback offset stops = renderAll vars fallback' offset stops)
    (offset : Nat) (stops : List TabstopSpan) :
    render vars (.variable name fallback transform) offset stops =
      render vars (.variable name fallback' transform') offset stops := by
  cases hvalue : vars name with
  | none =>
    have hf : runsAll vars fallback = runsAll vars fallback' := by
      simpa only [runs, hvalue] using hruns
    by_cases hempty : fallback = []
    · simp only [render, hvalue, hempty, hnil.mp hempty]
    · rw [render_variable_of_lacks (Or.inl hvalue) hempty,
        render_variable_of_lacks (Or.inl hvalue) (mt hnil.mpr hempty)]
      exact hfallback hf offset stops
  | some value =>
    cases htransform with
    | none =>
      by_cases hempty : value = []
      · have hf : runsAll vars fallback = runsAll vars fallback' := by
          simpa only [runs, hvalue, if_pos hempty] using hruns
        simpa only [render, hvalue, if_pos hempty] using hfallback hf offset stops
      · simp only [render, hvalue, if_neg hempty]
    | some hsame =>
      simp only [runs, hvalue, List.cons.injEq, Prod.mk.injEq, and_true] at hruns
      simp only [render, hvalue, hruns]

/-- Elements that are alike and run equal transforms give the same text and tabstops. -/
theorem Alike.renderAll_eq (h : Alike as bs) (hruns : runsAll vars as = runsAll vars bs) (offset : Nat)
    (stops : List TabstopSpan) : renderAll vars as offset stops = renderAll vars bs offset stops := by
  induction h generalizing offset stops with
  | nil => rfl
  | text t h ih => simp only [renderAll, render, ih hruns]
  | tabstop index hcontent h ihcontent ih =>
    obtain ⟨hc, hr⟩ := List.append_inj hruns (hcontent.forall₂_runsAll vars).length_eq
    simp only [renderAll, render, ihcontent hc, ih hr]
  | «variable» name hfallback htransform h ihfallback ih =>
    have hlength := (forall₂_runs_variable name (hfallback.forall₂_runsAll vars) htransform).length_eq
    obtain ⟨hv, hr⟩ := List.append_inj hruns hlength
    have hrender := render_variable_congr hfallback.eq_nil_iff htransform hv
      fun hf offset stops => ihfallback hf offset stops
    simp only [renderAll, hrender, ih hr]

theorem map_index_note {mid mid' : List TabstopSpan}
    (h : mid.map TabstopSpan.index = mid'.map TabstopSpan.index)
    (index start start' stop stop' : Nat) :
    (if mid.any (·.index = index) then mid else mid ++ [⟨index, start, stop⟩]).map
        TabstopSpan.index =
      (if mid'.any (·.index = index) then mid' else mid' ++ [⟨index, start', stop'⟩]).map
        TabstopSpan.index := by
  have hany : ∀ stops : List TabstopSpan, stops.any (·.index = index) =
      (stops.map TabstopSpan.index).any (· = index) := by
    intro stops
    rw [List.any_map]
    rfl
  rw [hany mid, hany mid', h]
  split
  · exact h
  · rw [List.map_append, List.map_append, h, List.map_singleton, List.map_singleton]

theorem lacks_congr {name : Text} {transform transform' : Option Transform}
    (h : Option.Rel (fun s t => s.same t = true) transform transform') :
    vars.Lacks name transform ↔ vars.Lacks name transform' := by
  cases h with
  | none => exact Iff.rfl
  | some hsame => simp [Variables.Lacks]

/-- Elements that are alike reach tabstops with the same numbers, in the same order, behind whatever
text they stand. -/
theorem Alike.map_index_renderAll (h : Alike as bs) (vars : Variables) (offset offset' : Nat)
    (hstops : stops.map TabstopSpan.index = stops'.map TabstopSpan.index) :
    (renderAll vars as offset stops).2.map TabstopSpan.index =
      (renderAll vars bs offset' stops').2.map TabstopSpan.index := by
  induction h generalizing offset offset' stops stops' with
  | nil => exact hstops
  | text t h ih => exact ih _ _ hstops
  | tabstop index hcontent h ihcontent ih =>
    simp only [renderAll, render_tabstop_snd]
    apply ih
    apply map_index_note
    exact ihcontent offset offset' hstops
  | @«variable» name _ _ fallback fallback' transform _ hfallback htransform h ihfallback ih =>
    simp only [renderAll]
    apply ih
    by_cases hlacks : vars.Lacks name transform ∧ fallback ≠ []
    · obtain ⟨hlacks, hne⟩ := hlacks
      rw [render_variable_of_lacks hlacks hne, render_variable_of_lacks
        ((lacks_congr htransform).mp hlacks) (mt hfallback.eq_nil_iff.mpr hne)]
      exact ihfallback offset offset' hstops
    · have hlacks' := hlacks
      rw [lacks_congr htransform, ne_eq, hfallback.eq_nil_iff] at hlacks'
      obtain ⟨t, ht⟩ := exists_render_variable hlacks
      obtain ⟨t', ht'⟩ := exists_render_variable hlacks'
      rw [ht, ht']
      exact hstops

theorem eq_of_sameRun {ps qs : List (Transform × Text)} (h : List.Forall₂ SameRun ps qs)
    (hf : List.Forall₂ (fun p q => p.1.SameFlags q.1) ps qs) : ps = qs := by
  induction h with
  | nil => rfl
  | cons hrun h ih =>
    cases hf with
    | cons hflags hf =>
      obtain ⟨hsame, hvalue⟩ := hrun
      rw [ih hf, Prod.ext (Transform.eq_of_same hsame hflags) hvalue]

end Element

namespace Snippet

/-- Snippets that count as equal have the same tabstops in the same order, and run corresponding
transforms on the same values. They render alike if these transforms also have the same flags. -/
theorem render_eq_of_same {a b : Snippet} (vars : Variables) (h : (a == b) = true) :
    let runs (s : Snippet) := Element.runsAll vars s.elements
    (a.render vars).tabstops.map TabstopSpan.index = (b.render vars).tabstops.map TabstopSpan.index ∧
    List.Forall₂ Element.SameRun (runs a) (runs b) ∧
    (List.Forall₂ (fun p q => p.1.SameFlags q.1) (runs a) (runs b) → a.render vars = b.render vars) := by
  intro runs
  have halike : Element.Alike a.elements b.elements := Element.alike_of_sameAll _ _ h
  have hsame := halike.forall₂_runsAll vars
  refine ⟨halike.map_index_renderAll vars 0 0 rfl, hsame, fun hflags => ?_⟩
  have hruns : runs a = runs b := Element.eq_of_sameRun hsame hflags
  rw [render, render, halike.renderAll_eq hruns]

/-- A transform of what begins with `b`, under flag `m` also of lines that do. -/
def leading : Bool → Transform
  | false => ⟨['^', 'b'], [.text ['x']], false, false, false,
      #[.look .textStart false, .take (.single 'b'), .accept], by cbv⟩
  | true => ⟨['^', 'b'], [.text ['x']], false, false, true,
      #[.look .lineStart false, .take (.single 'b'), .accept], by cbv⟩

/-- A transform of a variable without value is not run, so its flags make no difference. -/
theorem render_eq_of_same_unknown :
    ∃ a b, Snippet.parse "$\x7b1:x$\x7bW/^b/x/m\x7d\x7d".toList = .ok a ∧
      Snippet.parse "$\x7b1:x$\x7bW/^b/x/\x7d\x7d".toList = .ok b ∧ (a == b) = true ∧
      a.render (.selected ['b']) = ⟨['x', 'W'], [⟨1, 0, 2⟩]⟩ ∧
      a.render (.selected ['b']) = b.render (.selected ['b']) := by
  let a : Snippet := ⟨[.tabstop 1 [.text ['x'], .variable ['W'] [] (some (leading true))]]⟩
  let b : Snippet := ⟨[.tabstop 1 [.text ['x'], .variable ['W'] [] (some (leading false))]]⟩
  have hsame : (a == b) = true := by decide
  exact ⟨a, b, by cbv, by cbv, hsame, rfl, (render_eq_of_same (.selected ['b']) hsame).2.2 .nil⟩

/-- Under flag `m` the second line starts with a match too, but flags do not count. -/
theorem not_render_eq_of_same_flags :
    ∃ a b, Snippet.parse "$\x7bTM_SELECTED_TEXT/^b/x/\x7d".toList = .ok a ∧
      Snippet.parse "$\x7bTM_SELECTED_TEXT/^b/x/m\x7d".toList = .ok b ∧ (a == b) = true ∧
      (a.render (.selected ['a', '\n', 'b'])).text = ['a', '\n', 'b'] ∧
      (b.render (.selected ['a', '\n', 'b'])).text = ['a', '\n', 'x'] := by
  refine ⟨⟨[.variable "TM_SELECTED_TEXT".toList [] (some (leading false))]⟩,
    ⟨[.variable "TM_SELECTED_TEXT".toList [] (some (leading true))]⟩, by cbv, by cbv, by cbv, ?_, ?_⟩
  · cbv
  · cbv

end Snippet

end TagSpacing
