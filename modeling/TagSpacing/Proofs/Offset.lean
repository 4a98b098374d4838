import TagSpacing.Proofs.Layout
import TagSpacing.Proofs.Slice

/-! Positions and offsets of a text: both orders agree on the positions of the text, and the way
from one to the other and back leads to the same place. -/
namespace TagSpacing

namespace Position

variable {p q r : Position}

theorem le_trans (hpq : p ≤ q) (hqr : q ≤ r) : p ≤ r := by
  rw [le_def] at *
  omega

theorem not_le : ¬ p ≤ q ↔ q < p := by
  rw [le_def, lt_def]
  omega

end Position

theorem Range.between_of_le {p q : Position} (h : p ≤ q) : between p q = ⟨p, q, h⟩ := dif_pos h

namespace Text

/-- Whether an offset lies between a carriage return and a line feed. -/
def SplitsCrlf (t : Text) (i : Nat) : Prop :=
  ∃ u v, t = u ++ '\r' :: '\n' :: v ∧ i = u.length + 1

variable {t u v : Text} {i : Nat}

theorem SplitsCrlf.append_left (h : SplitsCrlf t i) (s : Text) :
    SplitsCrlf (s ++ t) (s.length + i) := by
  obtain ⟨u, v, rfl, rfl⟩ := h
  exact ⟨s ++ u, v, by simp, by simp [Nat.add_assoc]⟩

theorem not_splitsCrlf_zero (t : Text) : ¬ SplitsCrlf t 0 := by
  rintro ⟨u, v, _, h⟩
  omega

theorem splitsCrlf_succ_iff :
    SplitsCrlf t (i + 1) ↔ t[i]? = some '\r' ∧ t[i + 1]? = some '\n' := by
  constructor
  · rintro ⟨u, v, rfl, h⟩
    obtain rfl : i = u.length := by omega
    simp
  · rintro ⟨hcr, hlf⟩
    obtain ⟨hi, hcr⟩ := List.getElem?_eq_some_iff.mp hcr
    obtain ⟨hi', hlf⟩ := List.getElem?_eq_some_iff.mp hlf
    refine ⟨t.take i, t.drop (i + 2), ?_, ?_⟩
    · rw [← hcr, ← hlf, List.getElem_cons_drop, List.getElem_cons_drop, List.take_append_drop]
    · rw [List.length_take, Nat.min_eq_left (by omega)]

theorem splitsCrlf_append_iff :
    SplitsCrlf (u ++ v) u.length ↔ u.getLast? = some '\r' ∧ v.head? = some '\n' := by
  rcases u.eq_nil_or_concat with rfl | ⟨w, c, rfl⟩
  · simp [not_splitsCrlf_zero]
  · have hlast : (w ++ [c] ++ v)[w.length]? = some c := by simp
    have hhead : (w ++ [c] ++ v)[w.length + 1]? = v.head? := by
      rw [List.getElem?_append_right (by simp), List.head?_eq_getElem?]
      simp
    rw [List.concat_eq_append, List.length_append, List.length_singleton, splitsCrlf_succ_iff,
      hlast, hhead, List.getLast?_concat]

theorem SplitsCrlf.of_append (h : SplitsCrlf (u ++ v) (u.length + (i + 1))) :
    SplitsCrlf v (i + 1) := by
  rw [← Nat.add_assoc, splitsCrlf_succ_iff, List.getElem?_append_right (by omega),
    List.getElem?_append_right (by omega)] at h
  rw [splitsCrlf_succ_iff]
  simpa [Nat.add_assoc] using h

/-- A column of a line has a character of the line in front of it, which is no carriage return. -/
theorem not_splitsCrlf_of_le_length (hb : ∀ c ∈ u, isLineBreak c = false) (v : Text)
    (hi : i ≤ u.length) : ¬ SplitsCrlf (u ++ v) i := by
  cases i with
  | zero => exact not_splitsCrlf_zero _
  | succ i =>
    intro h
    have hcr := (splitsCrlf_succ_iff.mp h).1
    rw [List.getElem?_append_left hi] at hcr
    exact absurd (hb '\r' (List.mem_of_getElem? hcr)) (by decide)

/-- The characters of a line before its ending; a line past the end has none. -/
def contentIn (ls : List Line) (line : Nat) : Text :=
  match ls[line]? with
  | some l => l.content
  | none => []

def content (t : Text) (line : Nat) : Text := contentIn t.lines line

variable {ls : List Line} {l : Line} {p q : Position} {j n c : Nat}

theorem clampIn_cons_zero (l : Line) (ls : List Line) (c : Nat) :
    clampIn (l :: ls) ⟨0, c⟩ = ⟨0, min c l.content.length⟩ := rfl

theorem clampIn_singleton_succ (l : Line) (n c : Nat) :
    clampIn [l] ⟨n + 1, c⟩ = ⟨0, l.content.length⟩ := rfl

theorem clampIn_cons_succ (l : Line) (h : ls ≠ []) (n c : Nat) :
    clampIn (l :: ls) ⟨n + 1, c⟩ =
      ⟨(clampIn ls ⟨n, c⟩).line + 1, (clampIn ls ⟨n, c⟩).character⟩ := by
  obtain ⟨l', ls, rfl⟩ := List.exists_cons_of_ne_nil h
  simp only [clampIn, List.getElem?_cons_succ, List.getLast?_cons_cons, List.length_cons]
  cases (l' :: ls)[n]? with
  | some l => rfl
  | none =>
    rw [List.getLast?_eq_some_getLast h]
    simp

theorem offsetIn_cons_zero (l : Line) (ls : List Line) (c : Nat) :
    offsetIn (l :: ls) ⟨0, c⟩ = min c l.content.length := by
  simp [offsetIn, clampIn_cons_zero, lineStartIn]

theorem offsetIn_singleton_succ (l : Line) (n c : Nat) :
    offsetIn [l] ⟨n + 1, c⟩ = l.content.length := by
  simp [offsetIn, clampIn_singleton_succ, lineStartIn]

theorem offsetIn_cons_succ (l : Line) (h : ls ≠ []) (n c : Nat) :
    offsetIn (l :: ls) ⟨n + 1, c⟩ = l.length + offsetIn ls ⟨n, c⟩ := by
  simp [offsetIn, clampIn_cons_succ l h, lineStartIn, Nat.add_assoc]

theorem positionIn_singleton (l : Line) (i : Nat) : positionIn [l] i = ⟨0, i⟩ := rfl

theorem positionIn_cons_of_lt (h : i < l.length) (ls : List Line) :
    positionIn (l :: ls) i = ⟨0, i⟩ := by
  cases ls with
  | nil => rfl
  | cons l' ls => simp [positionIn, h]

theorem positionIn_cons_add (l : Line) (h : ls ≠ []) (i : Nat) :
    positionIn (l :: ls) (l.length + i) =
      ⟨(positionIn ls i).line + 1, (positionIn ls i).character⟩ := by
  obtain ⟨l', ls, rfl⟩ := List.exists_cons_of_ne_nil h
  simp [positionIn]

end Text

namespace Line

variable {content : Text} {e : LineEnding}

theorem text_mk_some (content : Text) (e : LineEnding) :
    text ⟨content, some e⟩ = content ++ e.text := rfl

theorem length_mk_some (content : Text) (e : LineEnding) :
    length ⟨content, some e⟩ = content.length + e.text.length := rfl

theorem content_length_lt : content.length < length ⟨content, some e⟩ := by
  rw [length_mk_some]
  have := List.length_pos_iff.mpr e.text_ne_nil
  omega

end Line

namespace Layout

open Text

variable {ls : List Line} {p q : Position} {i j : Nat}

theorem offsetIn_le_length (h : Layout ls) (p : Position) :
    offsetIn ls p ≤ (ofLines ls).length := by
  induction h generalizing p with
  | last hc =>
    obtain ⟨_ | n, c⟩ := p
    · rw [offsetIn_cons_zero, ofLines_last]
      exact Nat.min_le_right _ _
    · simp only [offsetIn_singleton_succ, ofLines_last, Nat.le_refl]
  | @cons content e ls _ _ hls ih =>
    rw [ofLines_cons, List.length_append, ← Line.length_eq]
    obtain ⟨_ | n, c⟩ := p
    · rw [offsetIn_cons_zero, Line.length_mk_some]
      simp only
      omega
    · rw [offsetIn_cons_succ _ hls.ne_nil]
      exact Nat.add_le_add_left (ih ⟨n, c⟩) _

/-- Clamping keeps positions in order. -/
theorem offsetIn_mono (h : Layout ls) (hpq : p ≤ q) : offsetIn ls p ≤ offsetIn ls q := by
  induction h generalizing p q with
  | last hc =>
    obtain ⟨_ | m, c⟩ := p <;> obtain ⟨_ | n, d⟩ := q
    · simp [offsetIn_cons_zero, Position.le_def] at hpq ⊢
      omega
    · rw [offsetIn_cons_zero, offsetIn_singleton_succ]
      exact Nat.min_le_right _ _
    · simp [Position.le_def] at hpq
    · rw [offsetIn_singleton_succ]
      exact Nat.le_of_eq (offsetIn_singleton_succ _ _ _).symm
  | @cons content e ls _ _ hls ih =>
    obtain ⟨_ | m, c⟩ := p <;> obtain ⟨_ | n, d⟩ := q
    · simp [offsetIn_cons_zero, Position.le_def] at hpq ⊢
      omega
    · rw [offsetIn_cons_zero, offsetIn_cons_succ _ hls.ne_nil, Line.length_mk_some]
      simp only
      omega
    · simp [Position.le_def] at hpq
    · rw [offsetIn_cons_succ _ hls.ne_nil, offsetIn_cons_succ _ hls.ne_nil]
      have hmn : (⟨m, c⟩ : Position) ≤ ⟨n, d⟩ := by
        rw [Position.le_def] at hpq ⊢
        simp only at hpq ⊢
        omega
      exact Nat.add_le_add_left (ih hmn) _

theorem positionIn_mono (h : Layout ls) (hij : i ≤ j) : positionIn ls i ≤ positionIn ls j := by
  induction h generalizing i j with
  | last hc => simpa [positionIn_singleton, Position.le_def] using hij
  | @cons content e ls _ _ hls ih =>
    rcases Nat.lt_or_ge j (Line.length ⟨content, some e⟩) with hj | hj
    · rw [positionIn_cons_of_lt hj, positionIn_cons_of_lt (Nat.lt_of_le_of_lt hij hj)]
      simpa [Position.le_def] using hij
    · obtain ⟨b, rfl⟩ := Nat.exists_eq_add_of_le hj
      rw [positionIn_cons_add _ hls.ne_nil]
      rcases Nat.lt_or_ge i (Line.length ⟨content, some e⟩) with hi | hi
      · rw [positionIn_cons_of_lt hi]
        simp [Position.le_def]
      · obtain ⟨a, rfl⟩ := Nat.exists_eq_add_of_le hi
        rw [positionIn_cons_add _ hls.ne_nil]
        have hab := ih (Nat.le_of_add_le_add_left hij)
        rw [Position.le_def] at hab ⊢
        simp only
        omega

theorem positionIn_offsetIn (h : Layout ls) (p : Position) :
    positionIn ls (offsetIn ls p) = clampIn ls p := by
  induction h generalizing p with
  | last hc =>
    obtain ⟨_ | n, c⟩ := p
    · rw [offsetIn_cons_zero, clampIn_cons_zero, positionIn_singleton]
    · rw [offsetIn_singleton_succ, clampIn_singleton_succ, positionIn_singleton]
  | @cons content e ls _ _ hls ih =>
    obtain ⟨_ | n, c⟩ := p
    · have hlt : min c content.length < Line.length ⟨content, some e⟩ :=
        Nat.lt_of_le_of_lt (Nat.min_le_right _ _) Line.content_length_lt
      rw [offsetIn_cons_zero, clampIn_cons_zero, positionIn_cons_of_lt hlt]
    · rw [offsetIn_cons_succ _ hls.ne_nil, clampIn_cons_succ _ hls.ne_nil,
        positionIn_cons_add _ hls.ne_nil, ih]

theorem clampIn_clampIn (h : Layout ls) (p : Position) :
    clampIn ls (clampIn ls p) = clampIn ls p := by
  induction h generalizing p with
  | last hc =>
    obtain ⟨_ | n, c⟩ := p
    · simp [clampIn_cons_zero]
    · simp [clampIn_singleton_succ, clampIn_cons_zero]
  | cons _ _ hls ih =>
    obtain ⟨_ | n, c⟩ := p
    · simp [clampIn_cons_zero]
    · rw [clampIn_cons_succ _ hls.ne_nil, clampIn_cons_succ _ hls.ne_nil, ih]

theorem offsetIn_positionIn (h : Layout ls) (hi : i ≤ (ofLines ls).length)
    (hs : ¬ SplitsCrlf (ofLines ls) i) : offsetIn ls (positionIn ls i) = i := by
  induction h generalizing i with
  | last hc =>
    rw [positionIn_singleton, offsetIn_cons_zero]
    rw [ofLines_last] at hi
    exact Nat.min_eq_left hi
  | @cons content e ls _ _ hls ih =>
    rw [ofLines_cons] at hi hs
    rcases Nat.lt_or_ge i (Line.length ⟨content, some e⟩) with hlt | hge
    · rw [positionIn_cons_of_lt hlt, offsetIn_cons_zero]
      refine Nat.min_eq_left (Nat.le_of_not_lt fun hc => hs ?_)
      rw [Line.length_mk_some] at hlt
      simp only at hc
      have htwo : 1 < e.text.length := by omega
      have he : e = .crlf := by cases e <;> simp [LineEnding.text] at htwo ⊢
      subst he
      refine ⟨content, ofLines ls, by simp [Line.text_mk_some, LineEnding.text], ?_⟩
      simp [LineEnding.text] at hlt
      omega
    · obtain ⟨a, rfl⟩ := Nat.exists_eq_add_of_le hge
      rw [positionIn_cons_add _ hls.ne_nil, offsetIn_cons_succ _ hls.ne_nil]
      rw [Line.length_eq] at hi hs ⊢
      rw [ih (by simpa using hi) (fun ha => hs (ha.append_left _))]

/-- Every line break takes a character, so a position is no further out than its offset. -/
theorem positionIn_le (h : Layout ls) (i : Nat) :
    (positionIn ls i).line + (positionIn ls i).character ≤ i := by
  induction h generalizing i with
  | last hc =>
    rw [positionIn_singleton]
    exact Nat.le_of_eq (Nat.zero_add i)
  | @cons content e ls _ _ hls ih =>
    rcases Nat.lt_or_ge i (Line.length ⟨content, some e⟩) with hi | hi
    · rw [positionIn_cons_of_lt hi]
      exact Nat.le_of_eq (Nat.zero_add i)
    · obtain ⟨a, rfl⟩ := Nat.exists_eq_add_of_le hi
      have hrest := ih a
      have hpos := Nat.zero_lt_of_lt (@Line.content_length_lt content e)
      rw [positionIn_cons_add _ hls.ne_nil]
      simp only
      omega

/-- As long as no line ends on the way, an offset moves along its line. -/
theorem positionIn_add (h : Layout ls) {k : Nat} (hk : i + k ≤ (ofLines ls).length)
    (hb : ∀ c ∈ (ofLines ls).slice i (i + k), isLineBreak c = false) :
    positionIn ls (i + k) = ⟨(positionIn ls i).line, (positionIn ls i).character + k⟩ := by
  rcases Nat.eq_zero_or_pos k with rfl | hpos
  · rfl
  induction h generalizing i with
  | last hc => rfl
  | @cons content e ls _ _ hls ih =>
    rw [ofLines_cons] at hk hb
    rcases Nat.lt_or_ge i (Line.length ⟨content, some e⟩) with hlt | hge
    · -- The first character of the ending at `i` or behind it would be on the way.
      have hle : i + k ≤ content.length := by
        refine Nat.le_of_not_lt fun hc => ?_
        rw [Line.length_mk_some] at hlt
        have hm : max i content.length - content.length < e.text.length := by
          have := List.length_pos_iff.mpr e.text_ne_nil
          omega
        obtain ⟨b, hget⟩ : ∃ b, e.text[max i content.length - content.length]? = some b :=
          ⟨_, List.getElem?_eq_getElem hm⟩
        have hmem : b ∈ (Line.text ⟨content, some e⟩ ++ ofLines ls).slice i (i + k) := by
          refine mem_slice (Nat.le_max_left i content.length) (by omega) ?_
          rw [Line.text_mk_some, List.append_assoc, List.getElem?_append_right (by omega),
            List.getElem?_append_left hm, hget]
        have hbreak := LineEnding.isLineBreak_of_mem_text (List.mem_of_getElem? hget)
        rw [hb b hmem] at hbreak
        cases hbreak
      have hlt' := Nat.lt_of_le_of_lt hle (Line.content_length_lt (e := e))
      rw [positionIn_cons_of_lt hlt', positionIn_cons_of_lt hlt]
    · obtain ⟨a, rfl⟩ := Nat.exists_eq_add_of_le hge
      rw [Nat.add_assoc, positionIn_cons_add _ hls.ne_nil, positionIn_cons_add _ hls.ne_nil]
      rw [Line.length_eq] at hk hb
      rw [Nat.add_assoc, slice_length_add] at hb
      rw [ih (by simpa [Nat.add_assoc] using hk) hb]

/-- Between two columns of a line stand the characters of the line between them. -/
theorem slice_offsetIn (h : Layout ls) (n a b : Nat) :
    (ofLines ls).slice (offsetIn ls ⟨n, a⟩) (offsetIn ls ⟨n, b⟩) =
      (contentIn ls n).slice a b := by
  induction h generalizing n with
  | last hc =>
    cases n with
    | zero =>
      rw [offsetIn_cons_zero, offsetIn_cons_zero, ofLines_last]
      exact slice_min_length _ a b
    | succ n =>
      rw [offsetIn_singleton_succ, offsetIn_singleton_succ, slice_self]
      simp [contentIn, slice]
  | @cons content e ls _ _ hls ih =>
    cases n with
    | zero =>
      rw [offsetIn_cons_zero, offsetIn_cons_zero, ofLines_cons, Line.text_mk_some,
        List.append_assoc, slice_append_of_le_length (Nat.min_le_right _ _)]
      exact slice_min_length content a b
    | succ n =>
      rw [offsetIn_cons_succ _ hls.ne_nil, offsetIn_cons_succ _ hls.ne_nil, ofLines_cons,
        Line.length_eq, slice_length_add]
      exact ih n

end Layout

namespace Text

variable {t : Text} {p q : Position} {i j k : Nat}

theorem offset_le_length (t : Text) (p : Position) : t.offset p ≤ t.length := by
  have h := t.lines_layout.offsetIn_le_length p
  rwa [ofLines_lines] at h

theorem offset_mono (h : p ≤ q) : t.offset p ≤ t.offset q := t.lines_layout.offsetIn_mono h

theorem positionAt_mono (h : i ≤ j) : t.positionAt i ≤ t.positionAt j :=
  t.lines_layout.positionIn_mono (by omega)

theorem positionAt_le_length (t : Text) (i : Nat) :
    (t.positionAt i).line + (t.positionAt i).character ≤ t.length :=
  Nat.le_trans (t.lines_layout.positionIn_le _) (Nat.min_le_right _ _)

theorem positionAt_offset (t : Text) (p : Position) : t.positionAt (t.offset p) = t.clamp p := by
  rw [positionAt, Nat.min_eq_left (t.offset_le_length p)]
  exact t.lines_layout.positionIn_offsetIn p

theorem offset_clamp (t : Text) (p : Position) : t.offset (t.clamp p) = t.offset p := by
  simp only [offset, offsetIn, clamp, t.lines_layout.clampIn_clampIn p]

theorem offset_positionAt (hi : i ≤ t.length) (hs : ¬ SplitsCrlf t i) :
    t.offset (t.positionAt i) = i := by
  rw [positionAt, Nat.min_eq_left hi]
  have h := t.lines_layout.offsetIn_positionIn (i := i)
  rw [ofLines_lines] at h
  exact h hi hs

theorem positionAt_add (hk : i + k ≤ t.length)
    (hb : ∀ c ∈ t.slice i (i + k), isLineBreak c = false) :
    t.positionAt (i + k) = ⟨(t.positionAt i).line, (t.positionAt i).character + k⟩ := by
  rw [positionAt, positionAt, Nat.min_eq_left hk, Nat.min_eq_left (by omega)]
  have h := t.lines_layout.positionIn_add (i := i) (k := k)
  rw [ofLines_lines] at h
  exact h hk hb

/-- Offsets order positions as document order orders their nearest valid positions. -/
theorem offset_lt_offset_iff : t.offset p < t.offset q ↔ t.clamp p < t.clamp q := by
  constructor
  · intro h
    rw [← Position.not_le]
    intro hc
    have := offset_mono (t := t) hc
    rw [offset_clamp, offset_clamp] at this
    omega
  · intro h
    refine Nat.lt_of_not_le fun hc => Position.not_le.mpr h ?_
    rw [← positionAt_offset, ← positionAt_offset]
    exact positionAt_mono hc

theorem span_eq (t : Text) (r : Range) : t.span r = (t.offset r.start, t.offset r.stop) := by
  have h := offset_mono (t := t) r.start_le_stop
  simp only [offset] at h
  simp only [span, offset, Nat.max_eq_left h]

/-- Between two offsets that positions lead back to lies the piece of the text between them. -/
theorem span_between_positionAt (hij : i ≤ j) (hi : t.offset (t.positionAt i) = i)
    (hj : t.offset (t.positionAt j) = j) :
    t.span (.between (t.positionAt i) (t.positionAt j)) = (i, j) := by
  rw [Range.between_of_le (positionAt_mono hij), span_eq, hi, hj]

theorem textIn_eq (t : Text) (r : Range) :
    t.textIn r = t.slice (t.offset r.start) (t.offset r.stop) := by
  rw [textIn, span_eq]

theorem slice_offset (t : Text) (line a b : Nat) :
    t.slice (t.offset ⟨line, a⟩) (t.offset ⟨line, b⟩) = (t.content line).slice a b := by
  have h := t.lines_layout.slice_offsetIn line a b
  rwa [ofLines_lines] at h

end Text

end TagSpacing
