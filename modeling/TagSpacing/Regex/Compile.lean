import TagSpacing.Regex.Parser
import TagSpacing.Regex.Search

/-! Regular expressions from text to program. -/
namespace TagSpacing.Regex

/-- The program of the pattern that a text writes, if it writes one and that is not too large. -/
def compile? (flags : Flags) (pattern : Text) : Option Program :=
  (Pattern.parse? flags pattern).bind Pattern.compile?

end TagSpacing.Regex
