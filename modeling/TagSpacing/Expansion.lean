import TagSpacing.Position
import TagSpacing.Tag

/-! What an expansion replaces, and with which template. -/
namespace TagSpacing

/-- Whether an edit begins and ends an undo step of its own. -/
structure InsertOptions where
  undoStopBefore : Bool := true
  undoStopAfter : Bool := true
deriving DecidableEq

namespace Tag

/-- Columns from the two ends of a selection to the ends of the markup that is replaced. -/
def offsets : Tag → Int × Int
  | double => (1, 1)
  | triple => (-1, 3)
  | unescaped => (0, 1)
  | comment => (-2, 2)

/-- The snippet that spaces the markup out. -/
def template : Tag → String
  | double => " $\x7b1:$\x7bTM_SELECTED_TEXT\x7d\x7d $0"
  | triple => "\x7b $\x7b1:$\x7bTM_SELECTED_TEXT/[ \x7b\x7d]//g\x7d\x7d \x7d$0"
  | unescaped => "! $\x7b1:$\x7bTM_SELECTED_TEXT/[!\x7b\x7d ]/$1/g\x7d\x7d !!$0"
  | comment => "-- $\x7b1:$\x7bTM_SELECTED_TEXT/[-\x7b\x7d ]/$1/g\x7d\x7d --$0"

def insertOptions : Tag → InsertOptions
  | comment => ⟨false, true⟩
  | _ => {}

end Tag

/-- Why there is nothing to insert. -/
inductive ExpansionError
  | noRanges (tag : Tag)
  | startBeforeLine (tag : Tag) (start : Position)
deriving DecidableEq

def ExpansionError.message : ExpansionError → String
  | noRanges tag => s!"expansion request for {tag} tags has no ranges"
  | startBeforeLine tag start =>
    s!"{tag} range for selection starting at {start} would begin before column 0"

/-- The span of markup around a selection that an expansion replaces. -/
def Tag.rangeAround (tag : Tag) (s : Selection) : Except ExpansionError Range :=
  match s.start.shift? tag.offsets.1, s.stop.shift? tag.offsets.2 with
  | some start, some stop => .ok (.between start stop)
  | _, _ => .error (.startBeforeLine tag s.start)

/-- One insertion: the template of a tag at every one of some ranges at once. -/
structure Request where
  tag : Tag
  ranges : List Range
  ranges_ne_nil : ranges ≠ []
  options : InsertOptions := tag.insertOptions
deriving DecidableEq

/-- The request for a tag at some ranges, with the options of the tag. -/
def Request.of (tag : Tag) (ranges : List Range) : Except ExpansionError Request :=
  if h : ranges ≠ [] then .ok { tag, ranges, ranges_ne_nil := h } else .error (.noRanges tag)

/-- Ranges by tag over one pass across some selections, in selection order. -/
structure Batches where
  ranges : Tag → List Range
  /-- How the last selection classified. -/
  last : Option Tag

namespace Batches

def empty : Batches := ⟨fun _ => [], none⟩

/-- Notes how the next selection classified, in a tag or not. -/
def classified (b : Batches) (tag : Option Tag) : Batches := { b with last := tag }

/-- Adds a range to those of its tag. -/
def push (b : Batches) (tag : Tag) (r : Range) : Batches :=
  { b with ranges := fun t => if t = tag then b.ranges t ++ [r] else b.ranges t }

def isEmpty (b : Batches) : Bool := Tag.all.all fun tag => (b.ranges tag).isEmpty

def request (b : Batches) (tag : Tag) : Except ExpansionError Request :=
  Request.of tag (b.ranges tag)

end Batches

end TagSpacing
