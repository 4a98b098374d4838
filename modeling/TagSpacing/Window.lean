import TagSpacing.Document
import TagSpacing.Tag

/-! The few characters around a selection that decide which tag it sits in. Nothing else of the line
is looked at. -/
namespace TagSpacing

/-- The span from `first` to `last` columns after `anchor`. A start before column 0 is pulled back
to the anchor, so that the span comes out shorter and no pattern fits it. -/
def Range.near (anchor : Position) (first last : Int) : Range :=
  let first := if (anchor.shift? first).isSome then first else 0
  Range.between (anchor.shiftOrZero first) (anchor.shiftOrZero last)

/-- What stands next to a selection. -/
structure Window where
  start : Position := .zero
  stop : Position := .zero
  /-- The character behind the start of the selection. -/
  firstChar : Text := []
  /-- The first character and the one before it. -/
  twoBefore : Text := []
  threeBefore : Text := []
  fourBefore : Text := []
  fiveBefore : Text := []
  /-- The character one past the end of the selection. -/
  charAfter : Text := []
  twoAfter : Text := []

namespace Window

/-- The window of a text around a selection. -/
def around (t : Text) (s : Selection) : Window where
  start := s.start
  stop := s.stop
  firstChar := t.textIn (.near s.start 0 1)
  twoBefore := t.textIn (.near s.start (-1) 1)
  threeBefore := t.textIn (.near s.start (-2) 1)
  fourBefore := t.textIn (.near s.start (-3) 1)
  fiveBefore := t.textIn (.near s.start (-4) 1)
  charAfter := t.textIn (.near s.stop 1 2)
  twoAfter := t.textIn (.near s.stop 1 3)

/-- The tag that a window shows; of several rules that hold the first decides. A tag that is already
spaced out has a space first, and the opening of a comment is no double tag. -/
def classify (w : Window) : Option Tag :=
  if w.twoBefore = ['{', '{'] ∧ w.firstChar ≠ [' '] ∧ w.twoAfter ≠ ['-', '-'] then some .double
  else if w.fourBefore = ['{', '{', ' ', '{'] ∧ w.firstChar ≠ [' '] then some .triple
  else if w.threeBefore = ['{', '!', '!'] ∧ w.firstChar ≠ [' '] then some .unescaped
  else if w.fiveBefore = ['{', '{', ' ', '-', '-'] ∧ w.firstChar = ['-'] then some .comment
  else none

end Window

/-- The tag that a selection sits in, if any. -/
def Text.tagAt (t : Text) (s : Selection) : Option Tag := (Window.around t s).classify

end TagSpacing
