import TagSpacing.Document
import TagSpacing.Config

/-! Changes of a document, and which of them wake the expansion. -/
namespace TagSpacing

/-- One edit as an editor reports it. -/
structure Change where
  /-- The replaced range, in the document as it was before. -/
  range : Range
  /-- Number of replaced characters. -/
  length : Nat
  /-- The text that was inserted. -/
  text : Text
deriving DecidableEq

/-- The insertions that wake the expansion: one character of a tag's opening, or a pair of braces as
editors insert it that close braces by themselves. -/
def triggers : List Text := [['\x7b', '\x7d'], ['!'], ['-'], ['\x7b']]

def isTrigger (t : Text) : Bool := triggers.contains t

/-- Whether a change wakes the expansion under a configuration. -/
def Config.matches (config : Config) (change : Change) : Bool :=
  config.enabled && isTrigger change.text

end TagSpacing
