import TagSpacing.Window
import TagSpacing.Expansion
import TagSpacing.Config

/-! From the selections of an editor to the one insertion that expands their tags. The tag of the last
selection decides, and only double tags are expanded. -/
namespace TagSpacing

/-- The tags that are expanded while typing; the others are only recognised. -/
def Tag.isExpanded : Tag → Bool
  | double => true
  | _ => false

/-- Notes one selection: how it classifies, and the range that its expansion would replace. -/
def Batches.add (t : Text) (b : Batches) (s : Selection) : Batches :=
  match t.tagAt s with
  | none => b.classified none
  | some tag =>
    match tag.rangeAround s with
    | .ok r => (b.classified (some tag)).push tag r
    | .error _ => b.classified (some tag)

/-- The ranges of some selections of a text. -/
def Batches.collect (t : Text) (selections : List Selection) : Batches :=
  selections.foldl (Batches.add t) .empty

/-- The insertion to issue for some selections of a text, if any. -/
def Config.plan (config : Config) (t : Text) (selections : List Selection) : Option Request :=
  let batches := Batches.collect t selections
  match batches.last with
  | none => none
  | some tag =>
    if tag.isExpanded then
      match batches.request tag with
      | .ok r => some { r with options := { r.options with undoStopBefore := config.undoStopBefore } }
      | .error _ => none
    else none

end TagSpacing
