import TagSpacing.Text

/-! The characters that end a line, and the lines of a text. -/
namespace TagSpacing

/-- The ways a line can end. -/
inductive LineEnding
  /-- Carriage return and line feed together. -/
  | crlf
  | lf
  /-- Vertical tab. -/
  | vt
  /-- Form feed. -/
  | ff
  | cr
  /-- Next line, U+0085. -/
  | nel
  /-- Line separator, U+2028. -/
  | ls
  /-- Paragraph separator, U+2029. -/
  | ps
deriving DecidableEq

namespace LineEnding

/-- The characters of an ending. -/
def text : LineEnding → Text
  | crlf => ['\r', '\n']
  | lf => ['\n']
  | vt => ['\x0b']
  | ff => ['\x0c']
  | cr => ['\r']
  | nel => ['\u0085']
  | ls => ['\u2028']
  | ps => ['\u2029']

/-- The ending that a single character is. -/
def ofChar? (c : Char) : Option LineEnding :=
  if c = '\n' then some lf
  else if c = '\x0b' then some vt
  else if c = '\x0c' then some ff
  else if c = '\r' then some cr
  else if c = '\u0085' then some nel
  else if c = '\u2028' then some ls
  else if c = '\u2029' then some ps
  else none

/-- The ending that a text is, if it is nothing else. -/
def ofText? : Text → Option LineEnding
  | [c] => ofChar? c
  | ['\r', '\n'] => some crlf
  | _ => none

/-- The ending at the end of a text. -/
def atEnd? (t : Text) : Option LineEnding :=
  match t.reverse with
  | [] => none
  | '\n' :: '\r' :: _ => some crlf
  | c :: _ => ofChar? c

end LineEnding

/-- Whether a character by itself ends a line. -/
def isLineBreak (c : Char) : Bool := (LineEnding.ofChar? c).isSome

/-- One line of a text. -/
structure Line where
  /-- The characters before the ending; none of them is a line break. -/
  content : Text
  /-- Absent on the last line of a text only. -/
  ending : Option LineEnding
deriving DecidableEq

namespace Line

/-- The characters that end the line. -/
def endingText (l : Line) : Text := (l.ending.map LineEnding.text).getD []

def text (l : Line) : Text := l.content ++ l.endingText

/-- Length of the line with its ending. -/
def length (l : Line) : Nat := l.content.length + l.endingText.length

/-- The lines of a text with one more character at its front: a line break closes a new first line
before it, except that a carriage return joins a line feed; any other character extends the first
line. -/
def consChar (c : Char) (ls : List Line) : List Line :=
  match LineEnding.ofChar? c, ls with
  | some .cr, ⟨[], some .lf⟩ :: rest => ⟨[], some .crlf⟩ :: rest
  | some e, _ => ⟨[], some e⟩ :: ls
  | none, l :: rest => ⟨c :: l.content, l.ending⟩ :: rest
  | none, [] => [⟨[c], none⟩]

end Line

/-- The lines of a text: one more than it has line breaks, so an empty text has one. -/
def Text.lines (t : Text) : List Line := t.foldr Line.consChar [⟨[], none⟩]

end TagSpacing
