import Mathlib.Data.List.Induction
import Mathlib.Data.List.Nodup
import TagSpacing.Snippet.Render
import TagSpacing.Proofs.Slice

/-! Where the tabstops of a snippet come to lie in its text. Each tabstop that is reached has one span,
on which stands what its content says by itself, and spans never cross. -/
namespace TagSpacing

/-- Whether a variable gives way to its fallback: it has no value, or an empty one that is not
transformed. -/
def Variables.Lacks (vars : Variables) (name : Text) (transform : Option Transform) : Prop :=
  vars name = none ∨ vars name = some [] ∧ transform = none

/-- Of two spans one lies in the other, or one ends before the other starts. -/
def TabstopSpan.Laminar (a b : TabstopSpan) : Prop :=
  a.start ≤ b.start ∧ b.stop ≤ a.stop ∨ b.start ≤ a.start ∧ a.stop ≤ b.stop ∨
    a.stop ≤ b.start ∨ b.stop ≤ a.start

theorem TabstopSpan.laminar_mk {index index' start start' stop stop' : Nat} :
    Laminar ⟨index, start, stop⟩ ⟨index', start', stop'⟩ ↔
      start ≤ start' ∧ stop' ≤ stop ∨ start' ≤ start ∧ stop ≤ stop' ∨
        stop ≤ start' ∨ stop' ≤ start := Iff.rfl

namespace Element

/-- The text of an element by itself. -/
def plain (vars : Variables) (e : Element) : Text := (e.render vars 0 []).1

def plainAll (vars : Variables) (es : List Element) : Text := (renderAll vars es 0 []).1

variable {vars : Variables} {e : Element} {es content fallback inner : List Element} {name : Text}
  {transform : Option Transform} {index offset start : Nat} {stops : List TabstopSpan}

theorem render_variable_of_lacks (h : vars.Lacks name transform) (hne : fallback ≠ []) (offset : Nat)
    (stops : List TabstopSpan) :
    render vars (.variable name fallback transform) offset stops =
      renderAll vars fallback offset stops := by
  obtain ⟨e, es, rfl⟩ := List.exists_cons_of_ne_nil hne
  rcases h with h | ⟨h, rfl⟩
  · simp only [render, h]
  · simp only [render, h, if_true]

/-- A variable that does not give way to its fallback is a text of its own. -/
theorem exists_render_variable (h : ¬ (vars.Lacks name transform ∧ fallback ≠ [])) :
    ∃ t, ∀ offset stops, render vars (.variable name fallback transform) offset stops = (t, stops) := by
  unfold Variables.Lacks at h
  cases hvalue : vars name with
  | none =>
    have hnil : fallback = [] := by
      by_contra hne
      exact h ⟨Or.inl hvalue, hne⟩
    exact ⟨name, fun offset stops => by simp only [render, hvalue, hnil]⟩
  | some value =>
    cases transform with
    | some tr => exact ⟨tr.apply value, fun offset stops => by simp only [render, hvalue]⟩
    | none =>
      by_cases hempty : value = []
      · subst hempty
        have hnil : fallback = [] := by
          by_contra hne
          exact h ⟨Or.inr ⟨hvalue, rfl⟩, hne⟩
        exact ⟨[], fun offset stops => by simp only [render, hvalue, hnil, if_true, renderAll]⟩
      · exact ⟨value, fun offset stops => by simp only [render, hvalue, if_neg hempty]⟩

theorem render_tabstop_fst (vars : Variables) (index : Nat) (content : List Element) (offset : Nat)
    (stops : List TabstopSpan) :
    (render vars (.tabstop index content) offset stops).1 =
      (renderAll vars content offset stops).1 := by
  simp only [render]
  split <;> rfl

mutual

/-- What stands in front of an element changes its tabstops only, not its text. -/
theorem render_fst (vars : Variables) : ∀ (e : Element) (offset : Nat) (stops : List TabstopSpan),
    (e.render vars offset stops).1 = e.plain vars
  | .text t, offset, stops => by simp only [plain, render]
  | .tabstop index content, offset, stops => by
    rw [plain, render_tabstop_fst, render_tabstop_fst, renderAll_fst vars content,
      renderAll_fst vars content]
  | .variable name fallback transform, offset, stops => by
    by_cases h : vars.Lacks name transform ∧ fallback ≠ []
    · rw [plain, render_variable_of_lacks h.1 h.2, render_variable_of_lacks h.1 h.2,
        renderAll_fst vars fallback, renderAll_fst vars fallback]
    · obtain ⟨t, ht⟩ := exists_render_variable h
      rw [plain, ht, ht]

theorem renderAll_fst (vars : Variables) :
    ∀ (es : List Element) (offset : Nat) (stops : List TabstopSpan),
      (renderAll vars es offset stops).1 = plainAll vars es
  | [], offset, stops => by simp only [plainAll, renderAll]
  | e :: es, offset, stops => by
    simp only [plainAll, renderAll]
    rw [render_fst vars e, render_fst vars e, renderAll_fst vars es, renderAll_fst vars es]

end

theorem render_tabstop_snd (vars : Variables) (index : Nat) (content : List Element) (offset : Nat)
    (stops : List TabstopSpan) :
    (render vars (.tabstop index content) offset stops).2 =
      let mid := (renderAll vars content offset stops).2
      if mid.any (·.index = index) then mid
      else mid ++ [⟨index, offset, offset + (plainAll vars content).length⟩] := by
  simp only [render, renderAll_fst]
  split <;> rfl

theorem plainAll_cons (vars : Variables) (e : Element) (es : List Element) :
    plainAll vars (e :: es) = e.plain vars ++ plainAll vars es := by
  simp only [plainAll, renderAll]
  rw [render_fst, renderAll_fst, plainAll]

theorem plain_tabstop (vars : Variables) (index : Nat) (content : List Element) :
    plain vars (.tabstop index content) = plainAll vars content := by
  rw [plain, render_tabstop_fst, plainAll]

theorem plain_variable_of_lacks (h : vars.Lacks name transform) (hne : fallback ≠ []) :
    plain vars (.variable name fallback transform) = plainAll vars fallback := by
  rw [plain, render_variable_of_lacks h hne, plainAll]

/-- Rendering some elements reaches a tabstop with a number and a content, behind so many
characters. -/
inductive Reaches (vars : Variables) : List Element → Nat → Nat → List Element → Prop
  | here {index : Nat} {content es : List Element} :
    Reaches vars (.tabstop index content :: es) 0 index content
  | content {outer index start : Nat} {content inner es : List Element}
    (h : Reaches vars content start index inner) :
    Reaches vars (.tabstop outer content :: es) start index inner
  | fallback {name : Text} {transform : Option Transform} {index start : Nat}
    {fallback inner es : List Element} (hlacks : vars.Lacks name transform)
    (h : Reaches vars fallback start index inner) :
    Reaches vars (.variable name fallback transform :: es) start index inner
  | later {e : Element} {index start : Nat} {content es : List Element}
    (h : Reaches vars es start index content) :
    Reaches vars (e :: es) ((e.plain vars).length + start) index content

namespace Reaches

theorem ne_nil (h : Reaches vars es start index content) : es ≠ [] := by
  cases h <;> exact List.cons_ne_nil _ _

/-- The text of a tabstop's content stands in the text around it where the tabstop is reached. -/
theorem eq_append (h : Reaches vars es start index content) :
    ∃ before after, plainAll vars es = before ++ plainAll vars content ++ after ∧
      before.length = start := by
  induction h with
  | here => exact ⟨[], _, by rw [plainAll_cons, plain_tabstop, List.nil_append], rfl⟩
  | content h ih =>
    obtain ⟨before, after, htext, hlen⟩ := ih
    rw [plainAll_cons, plain_tabstop, htext]
    exact ⟨before, _, List.append_assoc _ _ _, hlen⟩
  | fallback hlacks h ih =>
    obtain ⟨before, after, htext, hlen⟩ := ih
    rw [plainAll_cons, plain_variable_of_lacks hlacks h.ne_nil, htext]
    exact ⟨before, _, List.append_assoc _ _ _, hlen⟩
  | @later e _ _ _ _ h ih =>
    obtain ⟨before, after, htext, hlen⟩ := ih
    rw [plainAll_cons, htext]
    exact ⟨e.plain vars ++ before, after, by simp only [List.append_assoc],
      by rw [List.length_append, hlen]⟩

theorem slice_eq (h : Reaches vars es start index content) :
    (plainAll vars es).slice start (start + (plainAll vars content).length) =
      plainAll vars content := by
  obtain ⟨before, after, htext, rfl⟩ := h.eq_append
  rw [htext]
  exact Text.slice_append_append _ _ _

theorem stop_le (h : Reaches vars es start index content) :
    start + (plainAll vars content).length ≤ (plainAll vars es).length := by
  obtain ⟨before, after, htext, rfl⟩ := h.eq_append
  rw [htext, List.length_append, List.length_append]
  exact Nat.le_add_right _ _

/-- Two tabstops that are reached lie one in the other or apart, as they do in the tree. -/
theorem laminar {index' start' : Nat} {content' : List Element}
    (h : Reaches vars es start index content) (h' : Reaches vars es start' index' content') :
    TabstopSpan.Laminar ⟨index, start, start + (plainAll vars content).length⟩
      ⟨index', start', start' + (plainAll vars content').length⟩ := by
  rw [TabstopSpan.laminar_mk]
  -- The induction follows the way to the first tabstop. Where the way to the second leaves it, one
  -- of them holds the other, or the elements that they are in stand one after the other.
  induction h generalizing start' index' content' with
  | here =>
    cases h' with
    | here => omega
    | content h' =>
      have := h'.stop_le
      omega
    | later h' =>
      rw [plain_tabstop]
      omega
  | content h ih =>
    have := h.stop_le
    cases h' with
    | here => omega
    | content h' => exact ih h'
    | later h' =>
      rw [plain_tabstop]
      omega
  | fallback hlacks h ih =>
    have := h.stop_le
    cases h' with
    | fallback _ h' => exact ih h'
    | later h' =>
      rw [plain_variable_of_lacks hlacks h.ne_nil]
      omega
  | later h ih =>
    cases h' with
    | here =>
      rw [plain_tabstop]
      omega
    | content h' =>
      have := h'.stop_le
      rw [plain_tabstop]
      omega
    | fallback hlacks h' =>
      have := h'.stop_le
      rw [plain_variable_of_lacks hlacks h'.ne_nil]
      omega
    | later h' =>
      have := ih h'
      omega

end Reaches

theorem reaches_cons_iff :
    Reaches vars (e :: es) start index inner ↔ Reaches vars [e] start index inner ∨
      ∃ n, start = (e.plain vars).length + n ∧ Reaches vars es n index inner := by
  constructor
  · intro h
    cases h with
    | here => exact Or.inl .here
    | content h => exact Or.inl (.content h)
    | fallback hlacks h => exact Or.inl (.fallback hlacks h)
    | later h => exact Or.inr ⟨_, rfl, h⟩
  · rintro (h | ⟨n, rfl, h⟩)
    · cases h with
      | here => exact .here
      | content h => exact .content h
      | fallback hlacks h => exact .fallback hlacks h
      | later h => exact (h.ne_nil rfl).elim
    · exact .later h

theorem reaches_tabstop_iff {outer : Nat} :
    Reaches vars [.tabstop outer content] start index inner ↔
      start = 0 ∧ index = outer ∧ inner = content ∨ Reaches vars content start index inner := by
  constructor
  · intro h
    cases h with
    | here => exact Or.inl ⟨rfl, rfl, rfl⟩
    | content h => exact Or.inr h
    | later h => exact (h.ne_nil rfl).elim
  · rintro (⟨rfl, rfl, rfl⟩ | h)
    · exact .here
    · exact .content h

theorem exists_reaches_tabstop_iff {outer : Nat} :
    (∃ start inner, Reaches vars [.tabstop outer content] start index inner) ↔
      index = outer ∨ ∃ start inner, Reaches vars content start index inner := by
  simp only [reaches_tabstop_iff]
  constructor
  · rintro ⟨start, inner, ⟨_, hindex, _⟩ | h⟩
    · exact Or.inl hindex
    · exact Or.inr ⟨start, inner, h⟩
  · rintro (rfl | ⟨start, inner, h⟩)
    · exact ⟨0, content, Or.inl ⟨rfl, rfl, rfl⟩⟩
    · exact ⟨start, inner, Or.inr h⟩

theorem reaches_variable_iff :
    Reaches vars [.variable name fallback transform] start index inner ↔
      vars.Lacks name transform ∧ Reaches vars fallback start index inner := by
  constructor
  · intro h
    cases h with
    | fallback hlacks h => exact ⟨hlacks, h⟩
    | later h => exact (h.ne_nil rfl).elim
  · rintro ⟨hlacks, h⟩
    exact .fallback hlacks h

/-- What rendering elements behind `offset` characters adds to the tabstops noted before: a span for
every number that is reached and has none yet, where one of its tabstops came to lie. -/
structure Notes (vars : Variables) (es : List Element) (offset : Nat)
    (before after : List TabstopSpan) : Prop where
  nodup (h : (before.map TabstopSpan.index).Nodup) : (after.map TabstopSpan.index).Nodup
  mem_iff (index : Nat) : index ∈ after.map TabstopSpan.index ↔
    index ∈ before.map TabstopSpan.index ∨ ∃ start content, Reaches vars es start index content
  reached (s : TabstopSpan) (hs : s ∈ after) : s ∈ before ∨
    ∃ start content, Reaches vars es start s.index content ∧ s.start = offset + start ∧
      s.stop = s.start + (plainAll vars content).length

namespace Notes

variable {before mid after : List TabstopSpan}

theorem of_not_reaches (h : ∀ start index content, ¬ Reaches vars es start index content)
    (offset : Nat) (stops : List TabstopSpan) : Notes vars es offset stops stops where
  nodup h := h
  mem_iff index := by
    constructor
    · exact Or.inl
    · rintro (hindex | ⟨start, content, hr⟩)
      · exact hindex
      · exact (h _ _ _ hr).elim
  reached s hs := Or.inl hs

/-- Elements behind an element add to what that has noted. -/
theorem cons (h : Notes vars [e] offset before mid)
    (h' : Notes vars es (offset + (e.plain vars).length) mid after) :
    Notes vars (e :: es) offset before after where
  nodup hn := h'.nodup (h.nodup hn)
  mem_iff index := by
    rw [h'.mem_iff, h.mem_iff, or_assoc]
    refine or_congr Iff.rfl ?_
    constructor
    · rintro (⟨start, content, hr⟩ | ⟨start, content, hr⟩)
      · exact ⟨start, content, reaches_cons_iff.mpr (Or.inl hr)⟩
      · exact ⟨_, content, .later hr⟩
    · rintro ⟨start, content, hr⟩
      rcases reaches_cons_iff.mp hr with hr | ⟨n, _, hr⟩
      · exact Or.inl ⟨start, content, hr⟩
      · exact Or.inr ⟨n, content, hr⟩
  reached s hs := by
    rcases h'.reached s hs with hs | ⟨start, content, hr, hstart, hstop⟩
    · rcases h.reached s hs with hs | ⟨start, content, hr, hstart, hstop⟩
      · exact Or.inl hs
      · exact Or.inr ⟨start, content, reaches_cons_iff.mpr (Or.inl hr), hstart, hstop⟩
    · exact Or.inr ⟨_, content, .later hr, by omega, hstop⟩

theorem of_fallback (hlacks : vars.Lacks name transform) (h : Notes vars fallback offset before after) :
    Notes vars [.variable name fallback transform] offset before after where
  nodup := h.nodup
  mem_iff index := by
    simp only [h.mem_iff, reaches_variable_iff, hlacks, true_and]
  reached s hs := by
    simp only [reaches_variable_iff, hlacks, true_and]
    exact h.reached s hs

/-- A tabstop is noted behind those in its content, unless its number has a span by then. -/
theorem tabstop (h : Notes vars content offset before mid) (index : Nat) :
    Notes vars [.tabstop index content] offset before
      (if mid.any (·.index = index) then mid
        else mid ++ [⟨index, offset, offset + (plainAll vars content).length⟩]) := by
  have hany : mid.any (fun s => decide (s.index = index)) = true ↔
      index ∈ mid.map TabstopSpan.index := by
    simp [List.mem_map]
  have hinner : ∀ s ∈ mid, s ∈ before ∨
      ∃ start inner, Reaches vars [.tabstop index content] start s.index inner ∧
        s.start = offset + start ∧ s.stop = s.start + (plainAll vars inner).length := by
    intro s hs
    rcases h.reached s hs with hs | ⟨start, inner, hr, hspan⟩
    · exact Or.inl hs
    · exact Or.inr ⟨start, inner, .content hr, hspan⟩
  split
  · -- A tabstop in the content, or one in front of it, has taken the number.
    rename_i hmem
    rw [hany] at hmem
    refine ⟨h.nodup, fun n => ?_, hinner⟩
    rw [exists_reaches_tabstop_iff, h.mem_iff]
    constructor
    · rintro (hn | hn)
      · exact Or.inl hn
      · exact Or.inr (Or.inr hn)
    · rintro (hn | rfl | hn)
      · exact Or.inl hn
      · exact (h.mem_iff n).mp hmem
      · exact Or.inr hn
  · rename_i hmem
    rw [hany] at hmem
    refine ⟨fun hn => ?_, fun n => ?_, fun s hs => ?_⟩
    · rw [List.map_append, List.nodup_append]
      refine ⟨h.nodup hn, List.nodup_singleton _, ?_⟩
      rintro a ha b hb rfl
      rw [List.mem_singleton.mp hb] at ha
      exact hmem ha
    · rw [exists_reaches_tabstop_iff, List.map_append, List.mem_append, h.mem_iff, or_assoc]
      refine or_congr Iff.rfl ?_
      rw [or_comm]
      exact or_congr List.mem_singleton Iff.rfl
    · rcases List.mem_append.mp hs with hs | hs
      · exact hinner s hs
      · rw [List.mem_singleton] at hs
        subst hs
        exact Or.inr ⟨0, content, .here, rfl, rfl⟩

end Notes

mutual

theorem notes_render (vars : Variables) : ∀ (e : Element) (offset : Nat) (stops : List TabstopSpan),
    Notes vars [e] offset stops (e.render vars offset stops).2
  | .text t, offset, stops => by
    simp only [render]
    refine .of_not_reaches (fun start index content h => ?_) offset stops
    cases h with
    | later h => exact h.ne_nil rfl
  | .tabstop index content, offset, stops => by
    rw [render_tabstop_snd]
    exact (notes_renderAll vars content offset stops).tabstop index
  | .variable name fallback transform, offset, stops => by
    by_cases h : vars.Lacks name transform ∧ fallback ≠ []
    · rw [render_variable_of_lacks h.1 h.2]
      exact .of_fallback h.1 (notes_renderAll vars fallback offset stops)
    · obtain ⟨t, ht⟩ := exists_render_variable h
      rw [ht]
      refine .of_not_reaches (fun start index content hr => ?_) offset stops
      obtain ⟨hlacks, hr⟩ := reaches_variable_iff.mp hr
      exact h ⟨hlacks, hr.ne_nil⟩

theorem notes_renderAll (vars : Variables) :
    ∀ (es : List Element) (offset : Nat) (stops : List TabstopSpan),
      Notes vars es offset stops (renderAll vars es offset stops).2
  | [], offset, stops => by
    simp only [renderAll]
    exact .of_not_reaches (fun start index content h => h.ne_nil rfl) offset stops
  | e :: es, offset, stops => by
    simp only [renderAll, render_fst]
    exact (notes_render vars e offset stops).cons (notes_renderAll vars es _ _)

end

/-- A text under way, with the number of its characters and the tabstops noted so far. -/
structure Draft where
  text : Text
  length : Nat
  tabstops : List TabstopSpan

namespace Draft

def empty : Draft := ⟨[], 0, []⟩

def push (d : Draft) (t : Text) : Draft := ⟨d.text ++ t, d.length + t.length, d.tabstops⟩

/-- The draft with a rendered piece behind it. -/
def extend (d : Draft) (p : Text × List TabstopSpan) : Draft :=
  ⟨d.text ++ p.1, d.length + p.1.length, p.2⟩

end Draft

mutual

/-- Renders an element into a draft. -/
def renderInto (vars : Variables) : Element → Draft → Draft
  | .text t, d => d.push t
  | .tabstop index content, d =>
    let d' := renderAllInto vars content d
    if d'.tabstops.any (·.index = index) then d'
    else { d' with tabstops := d'.tabstops ++ [⟨index, d.length, d'.length⟩] }
  | .variable name fallback transform, d =>
    match vars name, transform with
    | some value, some tr => d.push (tr.apply value)
    | some value, none => if value = [] then renderAllInto vars fallback d else d.push value
    | none, _ =>
      match fallback with
      | [] => d.push name
      | _ :: _ => renderAllInto vars fallback d

def renderAllInto (vars : Variables) : List Element → Draft → Draft
  | [], d => d
  | e :: es, d => renderAllInto vars es (renderInto vars e d)

end

mutual

/-- One draft that goes through all elements counts its characters as it should. -/
theorem renderInto_eq (vars : Variables) :
    ∀ (e : Element) (d : Draft), e.renderInto vars d = d.extend (e.render vars d.length d.tabstops)
  | .text t, d => by simp only [renderInto, render, Draft.push, Draft.extend]
  | .tabstop index content, d => by
    simp only [renderInto, render, renderAllInto_eq vars content, Draft.extend]
    split <;> rfl
  | .variable name fallback transform, d => by
    have hfallback := renderAllInto_eq vars fallback d
    simp only [renderInto, render]
    cases vars name with
    | some value =>
      cases transform with
      | some tr => rfl
      | none =>
        by_cases hempty : value = []
        · simpa only [if_pos hempty] using hfallback
        · simp only [if_neg hempty]
          rfl
    | none =>
      cases fallback with
      | nil => rfl
      | cons e es => exact hfallback

theorem renderAllInto_eq (vars : Variables) : ∀ (es : List Element) (d : Draft),
    renderAllInto vars es d = d.extend (renderAll vars es d.length d.tabstops)
  | [], d => by simp [renderAllInto, renderAll, Draft.extend]
  | e :: es, d => by
    simp only [renderAllInto, renderAll, renderInto_eq vars e, renderAllInto_eq vars es, Draft.extend,
      List.append_assoc, List.length_append, Nat.add_assoc]

end

end Element

namespace Rendered

variable {r : Rendered} {stops : List TabstopSpan} {s : TabstopSpan}

/-- Whether of some tabstops one is the lowest, those with number 0 apart. -/
def IsFirst (stops : List TabstopSpan) : Option TabstopSpan → Prop
  | none => ∀ s ∈ stops, s.index = 0
  | some first => first ∈ stops ∧ first.index ≠ 0 ∧ ∀ s ∈ stops, s.index ≠ 0 → first.index ≤ s.index

theorem isFirst_earlier {best : Option TabstopSpan} (h : IsFirst stops best) (s : TabstopSpan) :
    IsFirst (stops ++ [s]) (earlier best s) := by
  unfold earlier
  by_cases hs : s.index = 0
  · rw [if_pos hs]
    cases best with
    | none => exact List.forall_mem_append.mpr ⟨h, List.forall_mem_singleton.mpr hs⟩
    | some b =>
      obtain ⟨hb, hbne, hmin⟩ := h
      exact ⟨List.mem_append_left _ hb, hbne, List.forall_mem_append.mpr
        ⟨hmin, List.forall_mem_singleton.mpr fun hne => (hne hs).elim⟩⟩
  · rw [if_neg hs]
    have hmem : s ∈ stops ++ [s] := List.mem_append_right _ List.mem_cons_self
    cases best with
    | none =>
      exact ⟨hmem, hs, List.forall_mem_append.mpr
        ⟨fun s' hs' hne => (hne (h s' hs')).elim, List.forall_mem_singleton.mpr fun _ => Nat.le_refl _⟩⟩
    | some b =>
      obtain ⟨hb, hbne, hmin⟩ := h
      by_cases hlt : s.index < b.index
      · simp only [if_pos hlt]
        exact ⟨hmem, hs, List.forall_mem_append.mpr
          ⟨fun s' hs' hne => Nat.le_trans (Nat.le_of_lt hlt) (hmin s' hs' hne),
            List.forall_mem_singleton.mpr fun _ => Nat.le_refl _⟩⟩
      · simp only [if_neg hlt]
        exact ⟨List.mem_append_left _ hb, hbne, List.forall_mem_append.mpr
          ⟨hmin, List.forall_mem_singleton.mpr fun _ => Nat.le_of_not_lt hlt⟩⟩

theorem isFirst_foldl (stops : List TabstopSpan) : IsFirst stops (stops.foldl earlier none) := by
  induction stops using List.reverseRecOn with
  | nil => simp [IsFirst]
  | append_singleton stops s ih =>
    rw [List.foldl_append]
    exact isFirst_earlier ih s

theorem tabstop?_of_mem (hn : (r.tabstops.map TabstopSpan.index).Nodup) (hs : s ∈ r.tabstops) :
    r.tabstop? s.index = some (s.start, s.stop) := by
  obtain ⟨s', hs'⟩ : ∃ s', r.tabstops.find? (fun x => x.index = s.index) = some s' := by
    rw [← Option.isSome_iff_exists, List.find?_isSome]
    exact ⟨s, hs, by simp⟩
  have hindex : s'.index = s.index := by simpa using List.find?_some hs'
  rw [tabstop?, hs', List.inj_on_of_nodup_map hn (List.mem_of_find?_eq_some hs') hs hindex]
  rfl

theorem finalCursor_le (h : ∀ s ∈ r.tabstops, s.start ≤ r.text.length) :
    r.finalCursor ≤ r.text.length := by
  unfold finalCursor tabstop?
  cases hfind : r.tabstops.find? (fun s => s.index = 0) with
  | none => exact Nat.le_refl _
  | some s => exact h s (List.mem_of_find?_eq_some hfind)

end Rendered

namespace Snippet

variable {s : Snippet} {vars : Variables} {stop stop' : TabstopSpan}

theorem notes_tabstops (s : Snippet) (vars : Variables) :
    Element.Notes vars s.elements 0 [] (s.render vars).tabstops :=
  Element.notes_renderAll vars s.elements 0 []

theorem reaches_of_mem (h : stop ∈ (s.render vars).tabstops) :
    ∃ content, Element.Reaches vars s.elements stop.start stop.index content ∧
      stop.stop = stop.start + (Element.plainAll vars content).length := by
  rcases (s.notes_tabstops vars).reached stop h with h | ⟨start, content, hr, hstart, hstop⟩
  · cases h
  · rw [Nat.zero_add] at hstart
    exact ⟨content, hstart ▸ hr, hstop⟩

theorem bounds_of_mem (h : stop ∈ (s.render vars).tabstops) :
    stop.start ≤ stop.stop ∧ stop.stop ≤ (s.render vars).text.length := by
  obtain ⟨content, hr, hlen⟩ := reaches_of_mem h
  rw [hlen]
  exact ⟨Nat.le_add_right _ _, hr.stop_le⟩

theorem laminar_of_mem (h : stop ∈ (s.render vars).tabstops)
    (h' : stop' ∈ (s.render vars).tabstops) : stop.Laminar stop' := by
  obtain ⟨content, hr, hlen⟩ := reaches_of_mem h
  obtain ⟨content', hr', hlen'⟩ := reaches_of_mem h'
  have hlaminar := hr.laminar hr'
  rw [← hlen, ← hlen'] at hlaminar
  exact hlaminar

theorem renderAllInto_empty (s : Snippet) (vars : Variables) :
    Element.renderAllInto vars s.elements .empty =
      ⟨(s.render vars).text, (s.render vars).text.length, (s.render vars).tabstops⟩ := by
  rw [Element.renderAllInto_eq]
  simp only [Element.Draft.extend, Element.Draft.empty, List.nil_append, Nat.zero_add]
  rfl

/-- A rendered snippet has one tabstop for each number that is reached, and on it stands what the
content there says by itself. Tabstops lie one in the other or apart. The cursor goes to the lowest
one first and ends up inside the text, whose characters are counted as they are written. -/
theorem render_tabstops (s : Snippet) (vars : Variables) :
    let r := s.render vars
    Element.renderAllInto vars s.elements .empty = ⟨r.text, r.text.length, r.tabstops⟩ ∧
    (r.tabstops.map TabstopSpan.index).Nodup ∧
    (∀ index, index ∈ r.tabstops.map TabstopSpan.index ↔
      ∃ start content, Element.Reaches vars s.elements start index content) ∧
    (∀ stop ∈ r.tabstops, r.tabstop? stop.index = some (stop.start, stop.stop) ∧
      stop.start ≤ stop.stop ∧ stop.stop ≤ r.text.length ∧
      ∃ content, Element.Reaches vars s.elements stop.start stop.index content ∧
        r.text.slice stop.start stop.stop = (render ⟨content⟩ vars).text) ∧
    (∀ stop ∈ r.tabstops, ∀ stop' ∈ r.tabstops, stop.Laminar stop') ∧
    (∃ first, Rendered.IsFirst r.tabstops first ∧
      r.firstPlaceholder = first.map fun stop => (stop.start, stop.stop)) ∧
    r.finalCursor ≤ r.text.length := by
  intro r
  have hnotes := s.notes_tabstops vars
  have hnodup := hnotes.nodup List.nodup_nil
  refine ⟨s.renderAllInto_empty vars, hnodup, fun index => ?_, fun stop hstop => ?_,
    fun stop hstop stop' hstop' => laminar_of_mem hstop hstop',
    ⟨_, Rendered.isFirst_foldl r.tabstops, rfl⟩, Rendered.finalCursor_le fun stop hstop => ?_⟩
  · rw [hnotes.mem_iff index]
    simp
  · obtain ⟨hle, hlen⟩ := bounds_of_mem hstop
    obtain ⟨content, hr, hstop'⟩ := reaches_of_mem hstop
    refine ⟨Rendered.tabstop?_of_mem hnodup hstop, hle, hlen, content, hr, ?_⟩
    rw [hstop']
    exact hr.slice_eq
  · obtain ⟨hle, hlen⟩ := bounds_of_mem hstop
    exact Nat.le_trans hle hlen

/-- A tabstop inside another, in the fallback of a variable without value, and its number again. -/
theorem render_tabstops_nested :
    let inner : Element := .variable ['v'] [.tabstop 1 [.text ['c']]] none
    let s : Snippet := ⟨[.text ['a'], .tabstop 2 [.text ['b'], inner], .tabstop 1 [.text ['d']]]⟩
    let r := s.render fun _ => none
    r.text = ['a', 'b', 'c', 'd'] ∧ r.tabstops = [⟨1, 2, 3⟩, ⟨2, 1, 3⟩] ∧
      (∃ content, Element.Reaches (fun _ => none) s.elements 2 1 content ∧
        r.text.slice 2 3 = (render ⟨content⟩ fun _ => none).text) ∧
      TabstopSpan.Laminar ⟨1, 2, 3⟩ ⟨2, 1, 3⟩ ∧ r.tabstop? 2 = some (1, 3) ∧
      r.firstPlaceholder = some (2, 3) ∧ r.finalCursor ≤ r.text.length := by
  intro inner s r
  obtain ⟨_, _, _, hspan, hlaminar, _, hcursor⟩ := render_tabstops s fun _ => none
  have hone : (⟨1, 2, 3⟩ : TabstopSpan) ∈ r.tabstops := List.mem_cons_self
  have htwo : (⟨2, 1, 3⟩ : TabstopSpan) ∈ r.tabstops := List.mem_cons_of_mem _ List.mem_cons_self
  exact ⟨rfl, rfl, (hspan _ hone).2.2.2, hlaminar _ hone _ htwo, (hspan _ htwo).1, rfl, hcursor⟩

end Snippet

end TagSpacing
