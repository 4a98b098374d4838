/-! What a user can set. -/
namespace TagSpacing

structure Config where
  /-- Whether typing expands tags at all. -/
  enabled : Bool := true
  /-- Whether an expansion begins an undo step. If not, undoing it also undoes the keystroke before. -/
  undoStopBefore : Bool := true
deriving DecidableEq

end TagSpacing
