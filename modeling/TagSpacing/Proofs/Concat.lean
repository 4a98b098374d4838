import TagSpacing.Proofs.Offset

/-! Two texts put together, with no line ending formed of the two of them. The lines of the second
follow those of the first, and positions in the first stay where they are. -/
namespace TagSpacing

namespace Layout

open Text

variable {ls : List Line}

/-- A text that starts with a line feed has an empty first line. -/
theorem eq_lf_cons (h : Layout ls) (hlf : (ofLines ls).head? = some '\n') :
    ∃ rest, ls = ⟨[], some .lf⟩ :: rest := by
  have hhead : ∀ content : Text, (∀ c ∈ content, isLineBreak c = false) →
      content.head? ≠ some '\n' := by
    intro content hc hlf
    exact absurd (hc '\n' (List.mem_of_head? hlf)) (by decide)
  cases h with
  | @last content hc =>
    rw [ofLines_last] at hlf
    exact (hhead content hc hlf).elim
  | @cons content e rest hc hj hrest =>
    rw [ofLines_cons, Line.text_mk_some] at hlf
    cases content with
    | cons c content => exact (hhead (c :: content) hc hlf).elim
    | nil =>
      refine ⟨rest, ?_⟩
      cases e <;> simp [LineEnding.text] at hlf ⊢

end Layout

theorem LineEnding.eq_cr_of_getLast? {content : Text} {e : LineEnding}
    (h : (content ++ e.text).getLast? = some '\r') : e = .cr := by
  cases e <;> simp [text] at h ⊢

namespace Text

variable {t : Text}

theorem exists_lines_eq_lf_iff :
    (∃ rest, t.lines = ⟨[], some .lf⟩ :: rest) ↔ t.head? = some '\n' := by
  constructor
  · rintro ⟨rest, h⟩
    have ht := t.ofLines_lines
    rw [h, ofLines_cons] at ht
    rw [← ht]
    rfl
  · intro h
    rw [← t.ofLines_lines] at h
    exact t.lines_layout.eq_lf_cons h

end Text

theorem Layout.not_splitsCrlf_offsetIn {ls : List Line} (h : Layout ls) (p : Position) :
    ¬ Text.SplitsCrlf (Text.ofLines ls) (Text.offsetIn ls p) := by
  induction h generalizing p with
  | @last content hc =>
    have hle := (Layout.last hc).offsetIn_le_length p
    have hnot := Text.not_splitsCrlf_of_le_length hc [] (i := Text.offsetIn [⟨content, none⟩] p)
    rw [List.append_nil] at hnot
    rw [Text.ofLines_last] at hle ⊢
    exact hnot hle
  | @cons content e ls hc hj hls ih =>
    obtain ⟨_ | n, c⟩ := p
    · rw [Text.offsetIn_cons_zero, Text.ofLines_cons, Line.text_mk_some, List.append_assoc]
      exact Text.not_splitsCrlf_of_le_length hc _ (Nat.min_le_right _ _)
    · rw [Text.offsetIn_cons_succ _ hls.ne_nil, Text.ofLines_cons, Line.length_eq]
      have hrest := ih ⟨n, c⟩
      generalize Text.offsetIn ls ⟨n, c⟩ = o at hrest ⊢
      intro hs
      cases o with
      | zero =>
        -- A carriage return that ends the line has no line feed behind it.
        obtain ⟨hcr, hlf⟩ := Text.splitsCrlf_append_iff.mp hs
        obtain ⟨rest, hlf⟩ := hls.eq_lf_cons hlf
        exact hj (LineEnding.eq_cr_of_getLast? hcr) rest hlf
      | succ o => exact hrest hs.of_append

/-- The lines of two texts put together: the last line of the first goes on in the first line of the
second. -/
def Line.join : List Line → List Line → List Line
  | [], ms => ms
  | [l], [] => [l]
  | [l], m :: ms => ⟨l.content ++ m.content, m.ending⟩ :: ms
  | l :: l' :: ls, ms => l :: join (l' :: ls) ms

namespace Line

variable {ls ms : List Line}

theorem join_cons (l : Line) (h : ls ≠ []) (ms : List Line) :
    join (l :: ls) ms = l :: join ls ms := by
  obtain ⟨l', ls, rfl⟩ := List.exists_cons_of_ne_nil h
  rfl

theorem join_ne_nil (h : ls ≠ []) (ms : List Line) : join ls ms ≠ [] := by
  obtain ⟨l, ls, rfl⟩ := List.exists_cons_of_ne_nil h
  cases ls with
  | nil => cases ms <;> exact List.cons_ne_nil _ _
  | cons l' ls => exact List.cons_ne_nil _ _

theorem consChar_join {c : Char} (hls : Layout ls) (hms : ms ≠ [])
    (hj : c = '\r' → ∀ rest, join ls ms = ⟨[], some .lf⟩ :: rest →
      ∃ rest, ls = ⟨[], some .lf⟩ :: rest) :
    consChar c (join ls ms) = join (consChar c ls) ms := by
  obtain ⟨m, ms, rfl⟩ := List.exists_cons_of_ne_nil hms
  cases he : LineEnding.ofChar? c with
  | none =>
    have hb : isLineBreak c = false := isLineBreak_eq_false_iff.mpr he
    cases hls with
    | last =>
      rw [consChar_of_not_lineBreak hb]
      exact consChar_of_not_lineBreak hb _ _
    | cons _ _ hls =>
      rw [join_cons _ hls.ne_nil, consChar_of_not_lineBreak hb, consChar_of_not_lineBreak hb,
        join_cons _ hls.ne_nil]
  | some e =>
    have hlf : ∀ rest, ls = ⟨[], some .lf⟩ :: rest →
        rest ≠ [] ∧ join ls (m :: ms) = ⟨[], some .lf⟩ :: join rest (m :: ms) := by
      rintro rest rfl
      cases hls with
      | cons _ _ hrest => exact ⟨hrest.ne_nil, join_cons _ hrest.ne_nil _⟩
    by_cases hcr : c = '\r' ∧ ∃ rest, ls = ⟨[], some .lf⟩ :: rest
    · obtain ⟨rfl, rest, rfl⟩ := hcr
      obtain ⟨hne, hjoin⟩ := hlf rest rfl
      rw [hjoin, consChar_cr_lf, consChar_cr_lf, join_cons _ hne]
    · have hc : e = .cr → c = '\r' := by
        rintro rfl
        simpa [LineEnding.text] using (LineEnding.text_of_ofChar? he).symm
      rw [consChar_of_lineBreak he fun h rest hr => hcr ⟨hc h, hj (hc h) rest hr⟩,
        consChar_of_lineBreak he fun h rest hr => hcr ⟨hc h, rest, hr⟩, join_cons _ hls.ne_nil]

end Line

theorem Layout.positionIn_join {ls ms : List Line} (hls : Layout ls) (hms : Layout ms) :
    Text.positionIn (Line.join ls ms) (Text.ofLines ls).length =
      Text.positionIn ls (Text.ofLines ls).length := by
  induction hls with
  | @last content hc =>
    rw [Text.ofLines_last, Text.positionIn_singleton]
    cases hms with
    | last => rfl
    | @cons rest e ms =>
      refine Text.positionIn_cons_of_lt (Nat.lt_of_le_of_lt ?_ Line.content_length_lt) ms
      rw [List.length_append]
      exact Nat.le_add_right _ _
  | @cons content e ls _ _ hls ih =>
    rw [Line.join_cons _ hls.ne_nil, Text.ofLines_cons, List.length_append, ← Line.length_eq,
      Text.positionIn_cons_add _ (Line.join_ne_nil hls.ne_nil ms), ih,
      Text.positionIn_cons_add _ hls.ne_nil]

namespace Text

variable {t u v w : Text} {p : Position} {k : Nat}

/-- The offset of a position never lies between the two characters of a line ending. -/
theorem not_splitsCrlf_offset (t : Text) (p : Position) : ¬ SplitsCrlf t (t.offset p) := by
  have h := t.lines_layout.not_splitsCrlf_offsetIn p
  rwa [ofLines_lines] at h

theorem lines_append (h : ¬ SplitsCrlf (u ++ v) u.length) :
    (u ++ v).lines = Line.join u.lines v.lines := by
  have hv : v.lines ≠ [] := v.lines_layout.ne_nil
  induction u with
  | nil =>
    obtain ⟨m, ms, hm⟩ := List.exists_cons_of_ne_nil hv
    rw [List.nil_append, hm]
    rfl
  | cons c u ih =>
    have hu : ¬ SplitsCrlf (u ++ v) u.length := by
      intro hs
      have := hs.append_left [c]
      rw [List.singleton_append, List.length_singleton, Nat.add_comm] at this
      exact h this
    rw [List.cons_append, lines_cons, lines_cons, ih hu]
    refine Line.consChar_join (lines_layout u) hv ?_
    rintro rfl rest hrest
    rw [← ih hu] at hrest
    have hhead : (u ++ v).head? = some '\n' := exists_lines_eq_lf_iff.mp ⟨rest, hrest⟩
    refine exists_lines_eq_lf_iff.mpr ?_
    cases u with
    | nil => exact (h (splitsCrlf_append_iff.mpr ⟨rfl, hhead⟩)).elim
    | cons d u => exact hhead

/-- The position of an offset is told from the text in front of it. -/
theorem positionAt_append (h : ¬ SplitsCrlf (u ++ v) u.length) :
    (u ++ v).positionAt u.length = u.positionAt u.length := by
  have hle : u.length ≤ (u ++ v).length := by simp
  have hjoin := u.lines_layout.positionIn_join v.lines_layout
  rw [ofLines_lines] at hjoin
  rw [positionAt, positionAt, Nat.min_eq_left hle, Nat.min_self, lines_append h, hjoin]

theorem offset_append_eq (hp : (u ++ v).clamp p = p) (hle : (u ++ v).offset p ≤ u.length)
    (hw : w.head? ≠ some '\n') : (u ++ w).offset p = (u ++ v).offset p := by
  have hsplit := (u ++ v).not_splitsCrlf_offset p
  have hpos : (u ++ v).positionAt ((u ++ v).offset p) = p :=
    (positionAt_offset _ p).trans hp
  generalize (u ++ v).offset p = i at hle hsplit hpos ⊢
  obtain ⟨x, y, rfl, rfl⟩ : ∃ x y : Text, u = x ++ y ∧ i = x.length :=
    ⟨u.take i, u.drop i, (List.take_append_drop i u).symm, by simp [hle]⟩
  rw [List.append_assoc] at hsplit hpos ⊢
  have hsplit' : ¬ SplitsCrlf (x ++ (y ++ w)) x.length := by
    intro hs
    obtain ⟨hcr, hlf⟩ := splitsCrlf_append_iff.mp hs
    cases y with
    | nil => exact hw hlf
    | cons c y => exact hsplit (splitsCrlf_append_iff.mpr ⟨hcr, hlf⟩)
  have hpos' : (x ++ (y ++ w)).positionAt x.length = p := by
    rw [positionAt_append hsplit', ← positionAt_append hsplit, hpos]
  rw [← hpos', offset_positionAt (by simp) hsplit']

/-- A valid position keeps its offset when the text behind it is replaced by one that does not start
with a line feed. -/
theorem offset_slice_append (hp : t.clamp p = p) (hle : t.offset p ≤ k) (hk : k ≤ t.length)
    (hw : w.head? ≠ some '\n') : (t.slice 0 k ++ w).offset p = t.offset p := by
  have hsplit : t.slice 0 k ++ t.drop k = t := slice_append_drop (Nat.zero_le k)
  have h := offset_append_eq (u := t.slice 0 k) (v := t.drop k) (w := w) (p := p)
  rw [hsplit, length_slice_zero hk] at h
  exact h hp hle hw

end Text

end TagSpacing
