import TagSpacing.Position
import TagSpacing.LineEnding

/-! Reading a text by line and column. Positions are clamped into the text first, so reading never
fails: it only gets shorter. -/
namespace TagSpacing.Text

def lineCount (t : Text) : Nat := t.lines.length

/-- Length of a line without its ending; a line past the end has length 0. -/
def lineLength (t : Text) (line : Nat) : Nat :=
  match t.lines[line]? with
  | some l => l.content.length
  | none => 0

/-- The position of a document, given by its lines, that is nearest to `p`: a line past the end
becomes the end of the last line, a column past the end of its line that line's end. -/
def clampIn (ls : List Line) (p : Position) : Position :=
  match ls[p.line]? with
  | some l => ⟨p.line, min p.character l.content.length⟩
  | none =>
    match ls.getLast? with
    | some l => ⟨ls.length - 1, l.content.length⟩
    | none => .zero

/-- The offset at which a line starts. -/
def lineStartIn (ls : List Line) (line : Nat) : Nat :=
  (ls.take line).foldr (fun l n => l.length + n) 0

/-- The offset of the position nearest to `p`. -/
def offsetIn (ls : List Line) (p : Position) : Nat :=
  let q := clampIn ls p
  lineStartIn ls q.line + q.character

/-- The position of an offset inside the lines: an offset within a line's ending belongs to that
line. -/
def positionIn : List Line → Nat → Position
  | l :: l' :: ls, i =>
    if i < l.length then ⟨0, i⟩
    else
      let p := positionIn (l' :: ls) (i - l.length)
      ⟨p.line + 1, p.character⟩
  | _, i => ⟨0, i⟩

/-- The valid position nearest to `p`. -/
def clamp (t : Text) (p : Position) : Position := clampIn t.lines p

/-- The offset of the valid position nearest to `p`. -/
def offset (t : Text) (p : Position) : Nat := offsetIn t.lines p

/-- The position of an offset; an offset past the end is the end. -/
def positionAt (t : Text) (i : Nat) : Position := positionIn t.lines (min i t.length)

/-- The offsets between which a range lies. -/
def span (t : Text) (r : Range) : Nat × Nat :=
  let ls := t.lines
  let start := offsetIn ls r.start
  (start, max (offsetIn ls r.stop) start)

/-- The text that a range covers. -/
def textIn (t : Text) (r : Range) : Text :=
  let s := t.span r
  t.slice s.1 s.2

end TagSpacing.Text
