import TagSpacing.Snippet.Basic

/-! Snippets as plain text, with the places of their tabstops. -/
namespace TagSpacing

namespace Transform

/-- What replaces a match of `t`. A group that took no part, or that does not exist, gives nothing. -/
def replacement (format : List FormatItem) (t : Text) (m : Regex.Match) : Text :=
  format.flatMap fun
    | .text s => s
    | .group index =>
      match m.group? index with
      | some (start, stop) => t.slice start stop
      | none => []

/-- The text from offset `last` on with matches replaced. -/
def replaceAll (format : List FormatItem) (t : Text) (last : Nat) : List Regex.Match → Text
  | [] => t.drop last
  | m :: ms => t.slice last m.start ++ replacement format t m ++ replaceAll format t m.stop ms

/-- The matches that are replaced. -/
def targets (tr : Transform) (t : Text) : List Regex.Match :=
  if tr.isGlobal then Regex.matches? tr.program t else (Regex.find? tr.program t 0).toList

def apply (tr : Transform) (t : Text) : Text := replaceAll tr.format t 0 (tr.targets t)

end Transform

/-- Where a tabstop came to lie in a rendered text. -/
structure TabstopSpan where
  index : Nat
  start : Nat
  stop : Nat
deriving DecidableEq

/-- The values of variables; an unknown variable has none. -/
abbrev Variables := Text → Option Text

mutual

/-- Renders an element behind `offset` characters and some tabstops. A tabstop keeps the first place
that was noted for its index. -/
def Element.render (vars : Variables) :
    Element → Nat → List TabstopSpan → Text × List TabstopSpan
  | .text t, _, stops => (t, stops)
  | .tabstop index content, offset, stops =>
    let (t, stops) := Element.renderAll vars content offset stops
    if stops.any (·.index = index) then (t, stops)
    else (t, stops ++ [⟨index, offset, offset + t.length⟩])
  | .variable name fallback transform, offset, stops =>
    match vars name, transform with
    | some value, some tr => (tr.apply value, stops)
    | some value, none =>
      if value = [] then Element.renderAll vars fallback offset stops else (value, stops)
    | none, _ =>
      match fallback with
      | [] => (name, stops)
      | _ :: _ => Element.renderAll vars fallback offset stops

def Element.renderAll (vars : Variables) :
    List Element → Nat → List TabstopSpan → Text × List TabstopSpan
  | [], _, stops => ([], stops)
  | e :: es, offset, stops =>
    let (t, stops) := Element.render vars e offset stops
    let (u, stops) := Element.renderAll vars es (offset + t.length) stops
    (t ++ u, stops)

end

/-- A rendered snippet. -/
structure Rendered where
  text : Text
  tabstops : List TabstopSpan
deriving DecidableEq

namespace Rendered

/-- Where a tabstop came to lie. -/
def tabstop? (r : Rendered) (index : Nat) : Option (Nat × Nat) :=
  (r.tabstops.find? (·.index = index)).map fun s => (s.start, s.stop)

/-- The tabstop with the lower index, of those that are not the last place of the cursor. -/
def earlier (best : Option TabstopSpan) (s : TabstopSpan) : Option TabstopSpan :=
  if s.index = 0 then best
  else
    match best with
    | some b => if s.index < b.index then some s else some b
    | none => some s

/-- Where the cursor goes first: the tabstop with the lowest index other than 0. -/
def firstPlaceholder (r : Rendered) : Option (Nat × Nat) :=
  (r.tabstops.foldl earlier none).map fun s => (s.start, s.stop)

/-- Where the cursor ends up: at tabstop 0, or at the end of the text. -/
def finalCursor (r : Rendered) : Nat :=
  match r.tabstop? 0 with
  | some (start, _) => start
  | none => r.text.length

end Rendered

/-- The text of a snippet under some variables. -/
def Snippet.render (s : Snippet) (vars : Variables) : Rendered :=
  let (text, tabstops) := Element.renderAll vars s.elements 0 []
  ⟨text, tabstops⟩

/-- Only the text that the snippet replaces is known, as `TM_SELECTED_TEXT`. -/
def Variables.selected (t : Text) : Variables := fun name =>
  if name = "TM_SELECTED_TEXT".toList then some t else none

end TagSpacing
