import TagSpacing.Proofs.Concat

/-! Lines as pieces of a text. The text is cut behind each line break; what ends a piece is told from
its last characters, and agrees with the way the piece was cut. -/
namespace TagSpacing

namespace LineEnding

/-- Number of characters of an ending. -/
def length : LineEnding → Nat
  | crlf => 2
  | _ => 1

theorem length_text (e : LineEnding) : e.text.length = e.length := by
  cases e <;> rfl

variable {content : Text}

theorem ofChar?_of_mem (hc : ∀ c ∈ content, isLineBreak c = false) {c : Char} (h : c ∈ content) :
    ofChar? c = none :=
  isLineBreak_eq_false_iff.mp (hc c h)

theorem atEnd?_of_not_lineBreak (hc : ∀ c ∈ content, isLineBreak c = false) :
    atEnd? content = none := by
  rcases content.eq_nil_or_concat with rfl | ⟨u, c, rfl⟩
  · rfl
  · have hnone := ofChar?_of_mem hc (show c ∈ u.concat c by simp)
    have hne : c ≠ '\n' := by
      rintro rfl
      cases hnone
    simp [atEnd?, hne, hnone]

/-- A line feed behind the content of a line has no carriage return in front of it. -/
theorem atEnd?_append_text (hc : ∀ c ∈ content, isLineBreak c = false) (e : LineEnding) :
    atEnd? (content ++ e.text) = some e := by
  cases e with
  | lf =>
    rcases content.eq_nil_or_concat with rfl | ⟨u, c, rfl⟩
    · rfl
    · have hne : c ≠ '\r' := by
        rintro rfl
        cases ofChar?_of_mem hc (show '\r' ∈ u.concat '\r' by simp)
      simp [atEnd?, text, hne, ofChar?]
  | _ => simp [atEnd?, text, ofChar?]

end LineEnding

namespace Line

theorem text_mk_none (content : Text) : text ⟨content, none⟩ = content := List.append_nil content

theorem length_endingText (l : Line) :
    l.endingText.length = (l.ending.map LineEnding.length).getD 0 := by
  obtain ⟨content, _ | e⟩ := l
  · rfl
  · exact e.length_text

end Line

namespace Layout

variable {ls : List Line} {l : Line} {i : Nat}

theorem content_of_mem (h : Layout ls) (hl : l ∈ ls) : ∀ c ∈ l.content, isLineBreak c = false := by
  induction h with
  | last hc =>
    cases List.mem_singleton.mp hl
    exact hc
  | cons hc hj hls ih =>
    rcases List.mem_cons.mp hl with rfl | hl
    · exact hc
    · exact ih hl

theorem ending_eq_none_iff (h : Layout ls) (hl : ls[i]? = some l) :
    l.ending = none ↔ i + 1 = ls.length := by
  induction h generalizing i with
  | last hc =>
    cases i with
    | zero =>
      cases hl
      simp
    | succ i => cases hl
  | cons hc hj hls ih =>
    cases i with
    | zero =>
      cases hl
      simp [hls.ne_nil]
    | succ i => simpa using ih hl

/-- What ends a line can be told from its characters. -/
theorem atEnd?_text (h : Layout ls) (hl : l ∈ ls) : LineEnding.atEnd? l.text = l.ending := by
  have hc := h.content_of_mem hl
  obtain ⟨content, _ | e⟩ := l
  · rw [Line.text_mk_none]
    exact LineEnding.atEnd?_of_not_lineBreak hc
  · exact LineEnding.atEnd?_append_text hc e

end Layout

namespace Text

variable {t : Text} {c : Char} {line : Nat}

/-- Pieces of a text with one more character at the front of the first. -/
def extendFirst (c : Char) : List Text → List Text
  | [] => [[c]]
  | p :: ps => (c :: p) :: ps

/-- The text cut behind each line break. A carriage return and the line feed behind it are not
taken apart. -/
def pieces : Text → List Text
  | [] => [[]]
  | c :: t =>
    if isLineBreak c ∧ ¬ (c = '\r' ∧ t.head? = some '\n') then [c] :: pieces t
    else extendFirst c (pieces t)

theorem flatten_pieces (t : Text) : t.pieces.flatten = t := by
  induction t with
  | nil => rfl
  | cons c t ih =>
    rw [pieces]
    split
    · rw [List.flatten_cons, ih]
      rfl
    · have hextend : (extendFirst c (pieces t)).flatten = c :: (pieces t).flatten := by
        cases pieces t <;> rfl
      rw [hextend, ih]

/-- A character in front of a text goes to the pieces as it goes to the lines. -/
theorem map_text_consChar (c : Char) (t : Text) :
    (Line.consChar c t.lines).map Line.text =
      if isLineBreak c ∧ ¬ (c = '\r' ∧ t.head? = some '\n') then [c] :: t.lines.map Line.text
      else extendFirst c (t.lines.map Line.text) := by
  obtain ⟨l, ls, hls⟩ := List.exists_cons_of_ne_nil t.lines_layout.ne_nil
  cases he : LineEnding.ofChar? c with
  | none =>
    have hb : isLineBreak c = false := isLineBreak_eq_false_iff.mpr he
    rw [if_neg (by simp [hb]), hls, Line.consChar_of_not_lineBreak hb]
    rfl
  | some e =>
    have hb : isLineBreak c = true := by simp [isLineBreak, he]
    by_cases hcrlf : c = '\r' ∧ t.head? = some '\n'
    · -- The first line is a line feed alone, and the carriage return joins it there too.
      obtain ⟨rfl, hlf⟩ := hcrlf
      obtain ⟨rest, hrest⟩ := exists_lines_eq_lf_iff.mpr hlf
      rw [if_neg (by simp [hlf]), hrest, Line.consChar_cr_lf]
      rfl
    · have hj : e = .cr → ∀ rest, t.lines ≠ ⟨[], some .lf⟩ :: rest := by
        rintro rfl rest hrest
        refine hcrlf ⟨?_, exists_lines_eq_lf_iff.mp ⟨rest, hrest⟩⟩
        simpa [LineEnding.text] using (LineEnding.text_of_ofChar? he).symm
      rw [if_pos ⟨hb, hcrlf⟩, Line.consChar_of_lineBreak he hj, List.map_cons, Line.text_mk_some,
        LineEnding.text_of_ofChar? he]
      rfl

theorem map_text_lines (t : Text) : t.lines.map Line.text = t.pieces := by
  induction t with
  | nil => rfl
  | cons c t ih => rw [lines_cons, map_text_consChar, ih, pieces]

/-- What ends a line, told from its last characters. -/
def endingAt (t : Text) (line : Nat) : Option LineEnding :=
  t.pieces[line]?.bind LineEnding.atEnd?

/-- The offset at which the content of a line stops: where the next line starts, less the characters
that end this one. -/
def lineStop (t : Text) (line : Nat) : Nat :=
  lineStartIn t.lines (line + 1) - ((t.endingAt line).map LineEnding.length).getD 0

theorem lineStartIn_eq (ls : List Line) (line : Nat) :
    lineStartIn ls line = (ofLines (ls.take line)).length := by
  rw [lineStartIn]
  induction ls.take line with
  | nil => rfl
  | cons l ls ih => rw [List.foldr_cons, ih, ofLines_cons, List.length_append, Line.length_eq]

theorem ofLines_append (ls ms : List Line) : ofLines (ls ++ ms) = ofLines ls ++ ofLines ms :=
  List.flatMap_append

theorem ofLines_eq_flatten (ls : List Line) : ofLines ls = (ls.map Line.text).flatten :=
  List.flatMap_def

variable {ls : List Line} {l : Line}

theorem ofLines_split (hl : ls[line]? = some l) :
    ofLines ls = ofLines (ls.take line) ++ l.text ++ ofLines (ls.drop (line + 1)) := by
  obtain ⟨hlt, rfl⟩ := List.getElem?_eq_some_iff.mp hl
  rw [List.append_assoc, ← ofLines_cons, List.getElem_cons_drop, ← ofLines_append,
    List.take_append_drop]

theorem lineStartIn_succ (hl : ls[line]? = some l) :
    lineStartIn ls (line + 1) = lineStartIn ls line + l.length := by
  rw [lineStartIn_eq, lineStartIn_eq, List.take_add_one, hl, ofLines_append, List.length_append,
    Line.length_eq]
  congr 2
  exact List.append_nil _

theorem slice_line (hl : ls[line]? = some l) :
    (ofLines ls).slice (lineStartIn ls line) (lineStartIn ls line + l.content.length) =
      l.content := by
  have hsplit : ofLines ls =
      ofLines (ls.take line) ++ l.content ++ (l.endingText ++ ofLines (ls.drop (line + 1))) := by
    rw [ofLines_split hl, Line.text]
    simp only [List.append_assoc]
  rw [hsplit, lineStartIn_eq]
  exact slice_append_append _ _ _

theorem endingAt_eq (hl : t.lines[line]? = some l) : t.endingAt line = l.ending := by
  rw [endingAt, ← map_text_lines, List.getElem?_map, hl]
  exact t.lines_layout.atEnd?_text (List.mem_of_getElem? hl)

theorem lineLength_eq (hl : t.lines[line]? = some l) : t.lineLength line = l.content.length := by
  rw [lineLength, hl]

theorem content_eq (hl : t.lines[line]? = some l) : t.content line = l.content := by
  rw [content, contentIn, hl]

theorem lineLength_eq_zero (h : t.lineCount ≤ line) : t.lineLength line = 0 := by
  rw [lineLength, List.getElem?_eq_none h]

/-- The ending is no longer than the line that it was told from. -/
theorem lineStop_eq (hl : t.lines[line]? = some l) :
    t.lineStop line = lineStartIn t.lines line + l.content.length := by
  rw [lineStop, endingAt_eq hl, ← Line.length_endingText, lineStartIn_succ hl, Line.length]
  omega

/-- The pieces between line breaks are the lines, and make up the text. Each is a content without line
breaks, from where the line starts to where its content stops, and the ending that is told from its
last characters; only the last line has none. -/
theorem lines_partition (t : Text) :
    t.lines.map Line.text = t.pieces ∧ t.pieces.flatten = t ∧
    (∀ line, t.lineCount ≤ line → t.lineLength line = 0) ∧
    (∀ e : LineEnding, e.text.length = e.length) ∧
    ∀ line < t.lineCount,
      let start := lineStartIn t.lines line
      let ending := t.endingAt line
      t.pieces[line]? = some (t.content line ++ (ending.map LineEnding.text).getD []) ∧
      start = (t.pieces.take line).flatten.length ∧
      t.slice start (t.lineStop line) = t.content line ∧
      (t.content line).length = t.lineLength line ∧ start + t.lineLength line = t.lineStop line ∧
      t.lineStop line + (ending.map LineEnding.length).getD 0 = lineStartIn t.lines (line + 1) ∧
      (∀ c ∈ t.content line, isLineBreak c = false) ∧
      (ending = none ↔ line + 1 = t.lineCount) := by
  refine ⟨t.map_text_lines, t.flatten_pieces, fun line => lineLength_eq_zero,
    LineEnding.length_text, fun line hline => ?_⟩
  obtain ⟨l, hl⟩ : ∃ l, t.lines[line]? = some l := ⟨_, List.getElem?_eq_getElem hline⟩
  intro start ending
  have hending : ending = l.ending := endingAt_eq hl
  have hcontent : t.content line = l.content := content_eq hl
  have hstop : t.lineStop line = start + l.content.length := lineStop_eq hl
  rw [hending, hcontent, hstop, lineLength_eq hl]
  refine ⟨?_, ?_, ?_, rfl, rfl, ?_, ?_, ?_⟩
  · rw [← map_text_lines, List.getElem?_map, hl]
    rfl
  · rw [← map_text_lines, ← List.map_take, ← ofLines_eq_flatten]
    exact lineStartIn_eq t.lines line
  · have h := slice_line hl
    rwa [ofLines_lines] at h
  · rw [← Line.length_endingText, lineStartIn_succ hl, Line.length, Nat.add_assoc]
  · exact t.lines_layout.content_of_mem (List.mem_of_getElem? hl)
  · exact t.lines_layout.ending_eq_none_iff hl

/-- A lone carriage return, the two characters together, and a line feed of its own. -/
theorem lines_partition_mixed :
    let t : Text := ['a', '\r', '\r', '\n', '\n', 'b']
    t.pieces = [['a', '\r'], ['\r', '\n'], ['\n'], ['b']] ∧ 1 < t.lineCount ∧
      t.endingAt 1 = some .crlf ∧ t.lineStop 1 = 2 ∧ t.lineLength 1 = 0 ∧
      t.pieces[1]? = some (t.content 1 ++ ['\r', '\n']) ∧
      t.slice 2 (t.lineStop 1) = t.content 1 ∧ t.lineLength 4 = 0 := by
  intro t
  obtain ⟨_, _, hpast, _, hlines⟩ := lines_partition t
  have hcount : 1 < t.lineCount := by decide
  obtain ⟨hpiece, _, hslice, _, _, _, _, _⟩ := hlines 1 hcount
  exact ⟨rfl, hcount, rfl, rfl, rfl, hpiece, hslice, hpast 4 (by decide)⟩

end Text

end TagSpacing
