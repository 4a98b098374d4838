import TagSpacing.Proofs.Span

/-! The text between two positions. Clamping keeps positions in order, so what lies between three of
them adds up, and nothing of a text is left out between its start and any line that it does not
have. -/
namespace TagSpacing

theorem Position.zero_le (p : Position) : zero ≤ p := by
  change 0 < p.line ∨ 0 = p.line ∧ 0 ≤ p.character
  omega

/-- A line past the end is the end of the text: the last line has no ending. -/
theorem Layout.offsetIn_of_length_le {ls : List Line} (h : Layout ls) {p : Position}
    (hp : ls.length ≤ p.line) : Text.offsetIn ls p = (Text.ofLines ls).length := by
  induction h generalizing p with
  | last hc =>
    obtain ⟨_ | n, c⟩ := p
    · simp at hp
    · rw [Text.offsetIn_singleton_succ, Text.ofLines_last]
  | cons hc hj hls ih =>
    obtain ⟨_ | n, c⟩ := p
    · simp at hp
    · rw [Text.offsetIn_cons_succ _ hls.ne_nil, Text.ofLines_cons, List.length_append,
        ← Line.length_eq, ih (Nat.le_of_succ_le_succ hp)]

namespace Text

variable {t : Text} {p q r : Position}

theorem offset_zero (t : Text) : t.offset .zero = 0 := by
  obtain ⟨l, ls, hls⟩ := List.exists_cons_of_ne_nil t.lines_layout.ne_nil
  rw [offset, hls, Position.zero, offsetIn_cons_zero]
  exact Nat.zero_min _

theorem offset_of_lineCount_le (h : t.lineCount ≤ p.line) : t.offset p = t.length := by
  have hend := t.lines_layout.offsetIn_of_length_le h
  rwa [ofLines_lines] at hend

theorem textIn_zero_of_lineCount_le (h : t.lineCount ≤ p.line) :
    t.textIn (.between .zero p) = t := by
  rw [Range.between_of_le p.zero_le, textIn_eq, offset_zero, offset_of_lineCount_le h]
  simp [slice]

/-- Positions in document order have their nearest valid positions and their offsets in that order,
so the bounds between which a range is read or replaced need no correction. What lies between three
positions adds up, and from the start to a line past the end lies the whole text. -/
theorem textIn_append_textIn (t : Text) (hpq : p ≤ q) (hqr : q ≤ r) :
    t.clamp p ≤ t.clamp q ∧ t.offset p ≤ t.offset q ∧
    t.span ⟨p, q, hpq⟩ = (t.offset p, t.offset q) ∧
    t.textIn ⟨p, q, hpq⟩ ++ t.textIn ⟨q, r, hqr⟩ = t.textIn ⟨p, r, Position.le_trans hpq hqr⟩ ∧
    ∀ far : Position, t.lineCount ≤ far.line → t.textIn (.between .zero far) = t := by
  refine ⟨clamp_mono hpq, offset_mono hpq, t.span_eq _, ?_, fun far hfar => ?_⟩
  · rw [textIn_eq, textIn_eq, textIn_eq]
    exact slice_append_slice (offset_mono hpq) (offset_mono hqr)
  · exact textIn_zero_of_lineCount_le hfar

/-- The first position lies behind the end of its line, the second on a line of its own, and the last
behind the end of the text. -/
theorem textIn_append_textIn_clamped :
    let t : Text := ['a', 'b', '\r', '\n', 'c', 'd', '\n']
    ∃ (hpq : (⟨0, 7⟩ : Position) ≤ ⟨1, 1⟩) (hqr : (⟨1, 1⟩ : Position) ≤ ⟨5, 0⟩),
      t.textIn ⟨⟨0, 7⟩, ⟨1, 1⟩, hpq⟩ = ['\r', '\n', 'c'] ∧
      t.textIn ⟨⟨1, 1⟩, ⟨5, 0⟩, hqr⟩ = ['d', '\n'] ∧
      t.textIn ⟨⟨0, 7⟩, ⟨5, 0⟩, Position.le_trans hpq hqr⟩ = ['\r', '\n', 'c', 'd', '\n'] ∧
      t.lineCount ≤ 5 ∧ t.textIn (.between .zero ⟨5, 0⟩) = t := by
  intro t
  have hpq : (⟨0, 7⟩ : Position) ≤ ⟨1, 1⟩ := by decide
  have hqr : (⟨1, 1⟩ : Position) ≤ ⟨5, 0⟩ := by decide
  obtain ⟨_, _, _, hadd, hall⟩ := textIn_append_textIn t hpq hqr
  have hlow : t.textIn ⟨⟨0, 7⟩, ⟨1, 1⟩, hpq⟩ = ['\r', '\n', 'c'] := rfl
  have hhigh : t.textIn ⟨⟨1, 1⟩, ⟨5, 0⟩, hqr⟩ = ['d', '\n'] := rfl
  have hcount : t.lineCount ≤ 5 := by decide
  rw [hlow, hhigh] at hadd
  exact ⟨hpq, hqr, hlow, hhigh, hadd.symm, hcount, hall ⟨5, 0⟩ hcount⟩

end Text

end TagSpacing
