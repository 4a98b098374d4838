/-! Text as a sequence of characters. -/
namespace TagSpacing

/-- Text is a sequence of Unicode characters; every offset and length counts them. -/
abbrev Text := List Char

namespace Text

/-- The characters from offset `start` up to offset `stop`. -/
def slice (t : Text) (start stop : Nat) : Text := (t.drop start).take (stop - start)

end Text

end TagSpacing
