import TagSpacing.Text
import TagSpacing.Unicode.CategoryTable
import TagSpacing.Unicode.BinaryProperty

/-! Text in double quotes with all characters that cannot be seen written as escapes. -/
namespace TagSpacing.Text

/-- Whether a character leaves a mark of its own. Of the separators only the space counts. -/
def isVisible (c : Char) : Bool :=
  c = ' ' ||
    !([.cc, .cf, .cs, .co, .cn, .zs, .zl, .zp].contains (Unicode.category c) ||
      Unicode.graphemeExtend.contains c)

/-- A character as it stands between quotes. -/
def quotedChar (c : Char) : Text :=
  match c with
  | '\x00' => ['\\', '0']
  | '\t' => ['\\', 't']
  | '\n' => ['\\', 'n']
  | '\r' => ['\\', 'r']
  | '"' => ['\\', '"']
  | '\\' => ['\\', '\\']
  | c =>
    if isVisible c then [c]
    else ['\\', 'u', '\x7b'] ++ Nat.toDigits 16 c.toNat ++ ['\x7d']

def quoted (t : Text) : Text := '"' :: t.flatMap quotedChar ++ ['"']

end TagSpacing.Text
