import TagSpacing.Window
import TagSpacing.Proofs.Offset

/-! Windows around a selection, read off the lines on which it starts and ends. -/
namespace TagSpacing

namespace Selection

variable {p q : Position}

theorem start_mk (h : p ≤ q) : start ⟨p, q⟩ = p := if_pos h

theorem stop_mk (h : p ≤ q) : stop ⟨p, q⟩ = q := if_pos h

theorem range_mk (h : p ≤ q) : range ⟨p, q⟩ = ⟨p, q, h⟩ := Range.between_of_le h

theorem start_caret (p : Position) : (caret p).start = p := start_mk p.le_refl

theorem stop_caret (p : Position) : (caret p).stop = p := stop_mk p.le_refl

theorem start_stop_cases (s : Selection) :
    (s.anchor ≤ s.active ∧ s.start = s.anchor ∧ s.stop = s.active) ∨
      (¬ s.anchor ≤ s.active ∧ s.start = s.active ∧ s.stop = s.anchor) := by
  by_cases h : s.anchor ≤ s.active
  · exact Or.inl ⟨h, if_pos h, if_pos h⟩
  · exact Or.inr ⟨h, if_neg h, if_neg h⟩

theorem start_eq_stop_of_isEmpty {s : Selection} (h : s.isEmpty = true) :
    s.start = s.stop := by
  have heq : s.anchor = s.active := of_decide_eq_true h
  rcases s.start_stop_cases with ⟨_, hstart, hstop⟩ | ⟨_, hstart, hstop⟩
  · rw [hstart, hstop, heq]
  · rw [hstart, hstop, heq]

theorem isReversed_eq_false_iff {s : Selection} : s.isReversed = false ↔ s.anchor ≤ s.active := by
  simp [isReversed, ← Position.not_le]

end Selection

namespace Text

variable {t u v w : Text} {i : Nat}

theorem not_splitsCrlf_of_before {c : Char} (hc : c ≠ '\r') (u v : Text) :
    ¬ SplitsCrlf (u ++ c :: v) (u.length + 1) := by
  intro h
  have hcr := (splitsCrlf_succ_iff.mp h).1
  exact hc (by simpa using hcr)

theorem not_splitsCrlf_of_behind {c : Char} (hc : c ≠ '\n') (u v : Text) :
    ¬ SplitsCrlf (u ++ c :: v) u.length := by
  intro h
  have hlf := (splitsCrlf_append_iff.mp h).2
  exact hc (by simpa using hlf)

/-- No offset of a piece without line breaks splits one, not even at its ends. -/
theorem not_splitsCrlf_of_append (hv : v ≠ []) (hb : ∀ c ∈ v, isLineBreak c = false) (u w : Text)
    {k : Nat} (hk : k ≤ v.length) : ¬ SplitsCrlf (u ++ v ++ w) (u.length + k) := by
  rw [List.append_assoc]
  cases k with
  | zero =>
    obtain ⟨c, v', rfl⟩ := List.exists_cons_of_ne_nil hv
    have hc : c ≠ '\n' := by
      rintro rfl
      exact absurd (hb '\n' List.mem_cons_self) (by decide)
    exact not_splitsCrlf_of_behind hc u (v' ++ w)
  | succ k =>
    intro h
    exact not_splitsCrlf_of_le_length hb w hk h.of_append

theorem positionAt_append_add (hb : ∀ c ∈ v, isLineBreak c = false) (u w : Text) {k : Nat}
    (hk : k ≤ v.length) :
    (u ++ v ++ w).positionAt (u.length + k) =
      ⟨((u ++ v ++ w).positionAt u.length).line,
        ((u ++ v ++ w).positionAt u.length).character + k⟩ := by
  refine positionAt_add (by simp; omega) fun c hc => hb c ?_
  have hs := slice_length_add u (v ++ w) 0 k
  rw [Nat.add_zero] at hs
  rw [List.append_assoc, hs, slice_append_of_le_length hk] at hc
  exact List.mem_of_mem_drop (List.mem_of_mem_take hc)

theorem offset_positionAt_append (hv : v ≠ []) (hb : ∀ c ∈ v, isLineBreak c = false) (u w : Text)
    {k : Nat} (hk : k ≤ v.length) :
    (u ++ v ++ w).offset ((u ++ v ++ w).positionAt (u.length + k)) = u.length + k :=
  offset_positionAt (by simp; omega) (not_splitsCrlf_of_append hv hb u w hk)

/-- A piece of a text without line breaks lies on one line. -/
theorem exists_line_of_append (hv : v ≠ []) (hb : ∀ c ∈ v, isLineBreak c = false) (u w : Text) :
    ∃ line before behind, (u ++ v ++ w).content line = before ++ v ++ behind ∧
      ∀ k ≤ v.length, (u ++ v ++ w).positionAt (u.length + k) = ⟨line, before.length + k⟩ ∧
        (u ++ v ++ w).offset ⟨line, before.length + k⟩ = u.length + k := by
  have hpos := fun k (hk : k ≤ v.length) => positionAt_append_add hb u w hk
  have hoff := fun k (hk : k ≤ v.length) => offset_positionAt_append hv hb u w hk
  generalize (u ++ v ++ w).positionAt u.length = p at hpos
  obtain ⟨n, a⟩ := p
  have hcols : ∀ k ≤ v.length, (u ++ v ++ w).offset ⟨n, a + k⟩ = u.length + k := by
    intro k hk
    rw [← hoff k hk, hpos k hk]
  have hslice : ((u ++ v ++ w).content n).slice a (a + v.length) = v := by
    rw [← slice_offset, hcols v.length (Nat.le_refl _)]
    have hstart := hcols 0 (Nat.zero_le _)
    rw [Nat.add_zero, Nat.add_zero] at hstart
    rw [hstart, slice_append_append]
  have hlen : a ≤ ((u ++ v ++ w).content n).length := by
    refine Nat.le_of_not_lt fun hlt => hv ?_
    rw [← hslice, slice, List.drop_eq_nil_of_le (by omega), List.take_nil]
  have htake : (((u ++ v ++ w).content n).take a).length = a := by
    rw [List.length_take, Nat.min_eq_left hlen]
  refine ⟨n, ((u ++ v ++ w).content n).take a, ((u ++ v ++ w).content n).drop (a + v.length),
    ?_, ?_⟩
  · have h := take_append_slice_append_drop (t := (u ++ v ++ w).content n)
      (Nat.le_add_right a v.length)
    rw [hslice] at h
    exact h.symm
  · intro k hk
    rw [htake]
    exact ⟨hpos k hk, hcols k hk⟩

end Text

namespace Position

variable {line c : Nat}

theorem shift?_eq_some (delta : Int) (h0 : 0 ≤ (c : Int) + delta) (h : (c : Int) + delta < columnBound) :
    shift? ⟨line, c⟩ delta = some ⟨line, ((c : Int) + delta).toNat⟩ := if_pos ⟨h0, h⟩

theorem shift?_eq_none (delta : Int) (h : ¬ (0 ≤ (c : Int) + delta ∧ (c : Int) + delta < columnBound)) :
    shift? ⟨line, c⟩ delta = none := if_neg h

end Position

namespace Text

/-- What a line shows of the `d` characters before column `c` and the one behind it. A window that
does not fit starts at the column. -/
def lookBehind (l : Text) (c d : Nat) : Text := l.slice (if d ≤ c then c - d else c) (c + 1)

theorem textIn_between (t : Text) (line a b : Nat) :
    t.textIn (.between ⟨line, a⟩ ⟨line, b⟩) = (t.content line).slice (min a b) (max a b) := by
  unfold Range.between
  split
  · rename_i h
    have hab : a ≤ b := by simpa [Position.le_def] using h
    rw [textIn_eq, slice_offset, Nat.min_eq_left hab, Nat.max_eq_right hab]
  · rename_i h
    have hba : b ≤ a := by simp [Position.le_def] at h; omega
    rw [textIn_eq, slice_offset, Nat.min_eq_right hba, Nat.max_eq_left hba]

theorem textIn_near_back (t : Text) (line : Nat) {c : Nat} (d : Nat) (hc : c + 1 < Position.columnBound) :
    t.textIn (.near ⟨line, c⟩ (-d) 1) = (t.content line).lookBehind c d := by
  unfold Range.near Position.shiftOrZero
  rw [Position.shift?_eq_some 1 (by omega) (by omega)]
  by_cases hd : d ≤ c
  · rw [Position.shift?_eq_some (-d) (by omega) (by omega)]
    simp only [Option.isSome_some, if_true]
    rw [Position.shift?_eq_some (-d) (by omega) (by omega)]
    simp only [Option.getD_some]
    rw [textIn_between, lookBehind, if_pos hd]
    congr 1 <;> omega
  · rw [Position.shift?_eq_none (-d) (by omega)]
    simp only [Option.isSome_none, Bool.false_eq_true, if_false]
    rw [Position.shift?_eq_some 0 (by omega) (by omega)]
    simp only [Option.getD_some]
    rw [textIn_between, lookBehind, if_neg hd]
    congr 1 <;> omega

theorem textIn_near_ahead {line c k : Nat} (t : Text) (hk : 1 ≤ k)
    (hc : c + k < Position.columnBound) :
    t.textIn (.near ⟨line, c⟩ 1 k) = (t.content line).slice (c + 1) (c + k) := by
  unfold Range.near Position.shiftOrZero
  rw [Position.shift?_eq_some 1 (by omega) (by omega)]
  simp only [Option.isSome_some, if_true]
  rw [Position.shift?_eq_some 1 (by omega) (by omega),
    Position.shift?_eq_some k (by omega) (by omega)]
  simp only [Option.getD_some]
  rw [textIn_between]
  congr 1 <;> omega

end Text

theorem Window.braces_of_classify {w : Window} (h : w.classify = some .double) :
    w.twoBefore = ['{', '{'] ∧ w.twoAfter ≠ ['-', '-'] := by
  unfold classify at h
  split at h
  · rename_i hw
    exact ⟨hw.1, hw.2.2⟩
  · repeat' split at h
    all_goals cases h

namespace Text

/-- Where the end of a window is no column any more, the window lies elsewhere: it is too long, or
empty. -/
theorem length_textIn_near_ne {t : Text} {line c : Nat} (hlen : c ≤ (t.content line).length)
    (hc : Position.columnBound ≤ c + 1) : (t.textIn (.near ⟨line, c⟩ (-1) 1)).length ≠ 2 := by
  unfold Range.near Position.shiftOrZero
  rw [Position.shift?_eq_none 1 (by omega)]
  have hbound : 4 < Position.columnBound := by decide
  rcases Nat.lt_or_ge (c - 1) Position.columnBound with hb | hb
  · rw [Position.shift?_eq_some (-1) (by omega) (by omega)]
    simp only [Option.isSome_some, if_true]
    rw [Position.shift?_eq_some (-1) (by omega) (by omega)]
    simp only [Option.getD_some, Option.getD_none]
    rw [textIn_between, length_slice]
    omega
  · rw [Position.shift?_eq_none (-1) (by omega)]
    simp only [Option.isSome_none, Bool.false_eq_true, if_false]
    rw [Position.shift?_eq_none 0 (by omega)]
    simp only [Option.getD_none]
    rw [textIn_between, Nat.min_self, Nat.max_self, slice_self]
    decide

theorem textIn_near_ne_of_space {t : Text} {line : Nat} {before behind : Text}
    (h : t.content line = before ++ ' ' :: behind) :
    t.textIn (.near ⟨line, before.length + 1⟩ (-1) 1) ≠ ['{', '{'] := by
  intro heq
  rcases Nat.lt_or_ge (before.length + 1 + 1) Position.columnBound with hc | hc
  · have hback := textIn_near_back t line 1 hc
    rw [h, lookBehind, if_pos (by omega), slice, Nat.add_sub_cancel, List.drop_left,
      show before.length + 1 + 1 - before.length = 2 by omega] at hback
    have hhead := congrArg List.head? (heq.symm.trans hback)
    simp at hhead
  · have hlen : before.length + 1 ≤ (t.content line).length := by
      rw [h, List.length_append, List.length_cons]
      omega
    exact length_textIn_near_ne hlen hc (congrArg List.length heq)

theorem tagAt_ne_double_behind_space {t before behind : Text} {s : Selection}
    (hline : t.content s.start.line = before ++ ' ' :: behind)
    (hcol : s.start.character = before.length + 1) : t.tagAt s ≠ some .double := by
  intro htag
  have hwindow : t.textIn (.near s.start (-1) 1) = ['{', '{'] :=
    (Window.braces_of_classify htag).1
  have hstart : s.start = ⟨s.start.line, before.length + 1⟩ := by rw [← hcol]
  rw [hstart] at hwindow
  exact textIn_near_ne_of_space hline hwindow

/-- A selection that starts right behind a space sits in no double tag. -/
theorem tagAt_ne_double_of_space {u v : Text} {s : Selection}
    (hs : s.start = (u ++ ' ' :: v).positionAt (u.length + 1)) :
    (u ++ ' ' :: v).tagAt s ≠ some .double := by
  have hspace : ∀ c ∈ [' '], isLineBreak c = false := by
    intro c hc
    rw [List.mem_singleton.mp hc]
    rfl
  obtain ⟨line, before, behind, hline, hpos⟩ :=
    exists_line_of_append (List.cons_ne_nil ' ' []) hspace u v
  have hstart := (hpos 1 (Nat.le_refl 1)).1
  simp only [List.append_assoc, List.singleton_append] at hline hstart
  rw [← hs] at hstart
  have hcontent : (u ++ ' ' :: v).content s.start.line = before ++ ' ' :: behind := by
    rw [hstart, hline]
  exact tagAt_ne_double_behind_space hcontent (congrArg Position.character hstart)

end Text

end TagSpacing
