import TagSpacing.Document

/-! The shape that the lines of a text have, and how they give the text back. -/
namespace TagSpacing

theorem isLineBreak_eq_false_iff {c : Char} :
    isLineBreak c = false ↔ LineEnding.ofChar? c = none := by
  simp [isLineBreak]

theorem isLineBreak_of_all {t : Text} (h : (t.all fun c => !isLineBreak c) = true) :
    ∀ c ∈ t, isLineBreak c = false := by
  intro c hc
  simpa using List.all_eq_true.mp h c hc

namespace LineEnding

theorem text_of_ofChar? {c : Char} {e : LineEnding} (h : ofChar? c = some e) : e.text = [c] := by
  unfold ofChar? at h
  repeat' split at h
  all_goals first | (cases h; simp_all [text]) | cases h

theorem text_ne_nil (e : LineEnding) : e.text ≠ [] := by cases e <;> simp [text]

theorem isLineBreak_of_mem_text {e : LineEnding} {c : Char} (h : c ∈ e.text) :
    isLineBreak c = true := by
  cases e <;> simp [text] at h <;> try (subst h; decide)
  rcases h with rfl | rfl <;> decide

end LineEnding

/-- The text that some lines make up. -/
def Text.ofLines (ls : List Line) : Text := ls.flatMap Line.text

theorem Text.ofLines_cons (l : Line) (ls : List Line) : ofLines (l :: ls) = l.text ++ ofLines ls :=
  List.flatMap_cons

theorem Text.ofLines_last (content : Text) : ofLines [⟨content, none⟩] = content := by
  rw [ofLines_cons, ofLines, List.flatMap_nil, List.append_nil]
  exact List.append_nil content

/-- The lines of a text: all but the last have an ending, and no carriage return is kept apart from
a line feed behind it. -/
inductive Layout : List Line → Prop
  | last {content : Text} (hc : ∀ c ∈ content, isLineBreak c = false) : Layout [⟨content, none⟩]
  | cons {content : Text} {e : LineEnding} {ls : List Line}
      (hc : ∀ c ∈ content, isLineBreak c = false)
      (hj : e = .cr → ∀ rest, ls ≠ ⟨[], some .lf⟩ :: rest) (hls : Layout ls) :
      Layout (⟨content, some e⟩ :: ls)

namespace Layout

variable {ls : List Line}

theorem ne_nil (h : Layout ls) : ls ≠ [] := by
  cases h <;> simp

end Layout

namespace Line

variable {c : Char} {ls : List Line}

theorem consChar_of_lineBreak {e : LineEnding} (he : LineEnding.ofChar? c = some e)
    (hj : e = .cr → ∀ rest, ls ≠ ⟨[], some .lf⟩ :: rest) :
    consChar c ls = ⟨[], some e⟩ :: ls := by
  unfold consChar
  split
  · rename_i heq
    cases he.symm.trans heq
    exact (hj rfl _ rfl).elim
  · rename_i heq _
    cases he.symm.trans heq
    rfl
  all_goals rename_i heq; cases he.symm.trans heq

theorem consChar_cr_lf (rest : List Line) :
    consChar '\r' (⟨[], some .lf⟩ :: rest) = ⟨[], some .crlf⟩ :: rest := rfl

theorem consChar_of_not_lineBreak (hc : isLineBreak c = false) (l : Line) (ls : List Line) :
    consChar c (l :: ls) = ⟨c :: l.content, l.ending⟩ :: ls := by
  simp [consChar, isLineBreak_eq_false_iff.mp hc]

theorem layout_consChar (h : Layout ls) (c : Char) : Layout (consChar c ls) := by
  cases he : LineEnding.ofChar? c with
  | none =>
    have hb : isLineBreak c = false := isLineBreak_eq_false_iff.mpr he
    cases h with
    | last hc =>
      rw [consChar_of_not_lineBreak hb]
      exact .last (by simpa [hb] using hc)
    | cons hc hj hls =>
      rw [consChar_of_not_lineBreak hb]
      exact .cons (by simpa [hb] using hc) hj hls
  | some e =>
    by_cases hj : e = .cr ∧ ∃ rest, ls = ⟨[], some .lf⟩ :: rest
    · obtain ⟨rfl, rest, rfl⟩ := hj
      have hcr : c = '\r' := by simpa [LineEnding.text] using (LineEnding.text_of_ofChar? he).symm
      cases h with
      | cons _ _ hls =>
        rw [hcr, consChar_cr_lf]
        exact .cons (by simp) (by simp) hls
    · have hj : e = .cr → ∀ rest, ls ≠ ⟨[], some .lf⟩ :: rest :=
        fun hr rest heq => hj ⟨hr, rest, heq⟩
      rw [consChar_of_lineBreak he hj]
      exact .cons (by simp) hj h

theorem ofLines_consChar (c : Char) (ls : List Line) :
    Text.ofLines (consChar c ls) = c :: Text.ofLines ls := by
  unfold consChar Text.ofLines
  split
  · rename_i he
    have hc : c = '\r' := by simpa [LineEnding.text] using (LineEnding.text_of_ofChar? he).symm
    simp [text, endingText, LineEnding.text, hc]
  · rename_i he _
    simp [text, endingText, LineEnding.text_of_ofChar? he]
  · simp [text, endingText]
  · simp [text, endingText]

theorem length_eq (l : Line) : l.length = l.text.length := by simp [length, text]

end Line

namespace Text

theorem lines_cons (c : Char) (t : Text) : lines (c :: t) = Line.consChar c t.lines := rfl

theorem lines_layout (t : Text) : Layout t.lines := by
  induction t with
  | nil => exact .last (by simp)
  | cons c t ih => exact Line.layout_consChar ih c

theorem ofLines_lines (t : Text) : ofLines t.lines = t := by
  induction t with
  | nil => rfl
  | cons c t ih => rw [lines_cons, Line.ofLines_consChar, ih]

end Text

end TagSpacing
