import TagSpacing.Proofs.Reach

/-! The rules that read a window, taken one by one. Around a selection of a text at most one opening
shows, so that no rule needs to come before another, and none needs to ask the first character. -/
namespace TagSpacing

namespace Text

/-- What is seen behind a column ends with the character that stands there, if there is one. -/
theorem lookBehind_eq_append (l : Text) (c d : Nat) :
    l.lookBehind c 0 = [] ∨
      ∃ front x, l.lookBehind c 0 = [x] ∧ l.lookBehind c d = front ++ [x] := by
  have hstart : (if d ≤ c then c - d else c) ≤ c := by
    split <;> omega
  have hsplit : l.slice (if d ≤ c then c - d else c) c ++ l.lookBehind c 0 = l.lookBehind c d :=
    slice_append_slice hstart (Nat.le_succ c)
  have hlen := length_lookBehind_le l c 0
  cases hfirst : l.lookBehind c 0 with
  | nil => exact Or.inl rfl
  | cons x rest =>
    rw [hfirst, List.length_cons] at hlen
    obtain rfl : rest = [] := List.eq_nil_of_length_eq_zero (by omega)
    rw [hfirst] at hsplit
    exact Or.inr ⟨_, x, rfl, hsplit.symm⟩

end Text

namespace Window

/-- The part of a window that the rule of a tag compares with the tag's opening. -/
def before (w : Window) : Tag → Text
  | .double => w.twoBefore
  | .triple => w.fourBefore
  | .unescaped => w.threeBefore
  | .comment => w.fiveBefore

/-- The rule of a tag, without what it asks of the first character. -/
def Fits (w : Window) (tag : Tag) : Prop :=
  w.before tag = tag.typedFront ∧ (tag = .double → w.twoAfter ≠ ['-', '-'])

/-- What the rule of a tag asks of the first character. -/
def Guarded (w : Window) : Tag → Prop
  | .double | .triple | .unescaped => w.firstChar ≠ [' ']
  | .comment => w.firstChar = ['-']

instance (w : Window) : DecidablePred w.Fits := fun _ => inferInstanceAs (Decidable (_ ∧ _))

instance (w : Window) : DecidablePred w.Guarded
  | .double | .triple | .unescaped => inferInstanceAs (Decidable (_ ≠ _))
  | .comment => inferInstanceAs (Decidable (_ = _))

variable {w : Window} {t : Text} {s : Selection} {tag tag' : Tag} {order order' : List Tag}

/-- A window shows the first tag, in the order in which tags are listed, whose rule holds. -/
theorem classify_eq_find? (w : Window) :
    w.classify = Tag.all.find? fun tag => w.Fits tag ∧ w.Guarded tag := by
  simp only [classify, Tag.all, List.find?_cons, List.find?_nil, Fits, Guarded, before,
    Tag.typedFront]
  grind

/-- Of rules that exclude each other the one that holds is found wherever it stands. -/
theorem find?_eq_some_iff_of_exclusive {p : Tag → Bool}
    (hp : ∀ tag tag', p tag = true → p tag' = true → tag = tag') :
    order.find? p = some tag ↔ tag ∈ order ∧ p tag = true := by
  constructor
  · intro h
    exact ⟨List.mem_of_find?_eq_some h, List.find?_some h⟩
  · rintro ⟨hmem, htag⟩
    cases h : order.find? p with
    | none => exact (List.find?_eq_none.mp h tag hmem htag).elim
    | some found => rw [hp found tag (List.find?_some h) htag]

theorem find?_eq_of_perm {p : Tag → Bool}
    (hp : ∀ tag tag', p tag = true → p tag' = true → tag = tag') (h : order.Perm order') :
    order.find? p = order'.find? p := by
  apply Option.ext
  intro tag
  rw [find?_eq_some_iff_of_exclusive hp, find?_eq_some_iff_of_exclusive hp, h.mem_iff]

theorem before_around (t : Text) (hc : s.start.character + 1 < Position.columnBound) (tag : Tag) :
    (around t s).before tag =
      (t.content s.start.line).lookBehind s.start.character tag.inset := by
  rw [← Text.textIn_near_back t s.start.line tag.inset hc]
  cases tag <;> rfl

theorem firstChar_around (t : Text) (hc : s.start.character + 1 < Position.columnBound) :
    (around t s).firstChar = (t.content s.start.line).lookBehind s.start.character 0 :=
  Text.textIn_near_back t s.start.line 0 hc

theorem before_eq_typedFront_iff (hc : s.start.character + 1 < Position.columnBound) :
    (around t s).before tag = tag.typedFront ↔
      (t.content s.start.line).Opens s.start.character tag := by
  rw [before_around t hc, Text.lookBehind_eq_typedFront_iff]

/-- Two openings that show at once would end at the same column. -/
theorem eq_of_before_eq_typedFront (hc : s.start.character + 1 < Position.columnBound)
    (h : (around t s).before tag = tag.typedFront)
    (h' : (around t s).before tag' = tag'.typedFront) : tag = tag' :=
  ((before_eq_typedFront_iff hc).mp h).unique ((before_eq_typedFront_iff hc).mp h')

/-- The first character is the last one of the opening, which answers what is asked of it. -/
theorem guarded_of_fits (hc : s.start.character + 1 < Position.columnBound)
    (h : (around t s).Fits tag) : (around t s).Guarded tag := by
  have hopens := (before_eq_typedFront_iff hc).mp h.1
  have hfirst : (around t s).firstChar = tag.typedFront.drop tag.inset :=
    (firstChar_around t hc).trans (hopens.lookBehind (Nat.zero_le tag.inset))
  cases tag <;> simp [Guarded, hfirst, Tag.typedFront, Tag.inset]

/-- Around a selection that starts before the greatest column the rules exclude each other: what
each compares ends with the first character, if there is one, and at most one finds its opening. So
they can be tried in any order, and with or without what they ask of the first character. -/
theorem classify_around_of_perm (t : Text) (s : Selection)
    (hc : s.start.character + 1 < Position.columnBound) :
    let w := around t s
    (∀ tag, w.firstChar = [] ∨ ∃ front x, w.firstChar = [x] ∧ w.before tag = front ++ [x]) ∧
    (∀ tag tag', w.before tag = tag.typedFront → w.before tag' = tag'.typedFront → tag = tag') ∧
    ∀ order : List Tag, order.Perm Tag.all →
      (order.find? fun tag => w.Fits tag ∧ w.Guarded tag) = w.classify ∧
      (order.find? fun tag => w.Fits tag) = w.classify := by
  intro w
  -- The two lists of rules agree around a selection, so that only their order is left to compare.
  have hunguarded : (fun tag => decide (w.Fits tag ∧ w.Guarded tag)) =
      fun tag => decide (w.Fits tag) := by
    funext tag
    exact decide_eq_decide.mpr (and_iff_left_of_imp (guarded_of_fits hc))
  have hexclusive : ∀ tag tag', decide (w.Fits tag) = true → decide (w.Fits tag') = true →
      tag = tag' := by
    intro tag tag' h h'
    exact eq_of_before_eq_typedFront hc (of_decide_eq_true h).1 (of_decide_eq_true h').1
  refine ⟨?_, ?_, ?_⟩
  · intro tag
    rw [firstChar_around t hc, before_around t hc]
    exact Text.lookBehind_eq_append _ _ _
  · intro tag tag' h h'
    exact eq_of_before_eq_typedFront hc h h'
  · intro order horder
    have hfits : (order.find? fun tag => w.Fits tag) = w.classify := by
      rw [classify_eq_find?, hunguarded]
      exact find?_eq_of_perm hexclusive horder
    rw [hunguarded]
    exact ⟨hfits, hfits⟩

/-- The rule that holds is the last in one order and the first in the other. -/
theorem classify_around_of_perm_comment :
    let t : Text := ['{', '{', ' ', '-', '-', 'a']
    let s : Selection := ⟨⟨0, 6⟩, ⟨0, 4⟩⟩
    let w := around t s
    s.start.character + 1 < Position.columnBound ∧ w.classify = some .comment ∧
      (w.firstChar = [] ∨ ∃ front x, w.firstChar = [x] ∧ w.before .comment = front ++ [x]) ∧
      (w.before .comment = Tag.comment.typedFront ∧
        ∀ tag, w.before tag = tag.typedFront → tag = .comment) ∧
      ([Tag.comment, .unescaped, .triple, .double].find? fun tag => w.Fits tag) =
        some .comment := by
  intro t s w
  have hc : s.start.character + 1 < Position.columnBound := by decide
  have hclassify : w.classify = some .comment := by decide
  have hbefore : w.before .comment = Tag.comment.typedFront := by decide
  obtain ⟨hends, hexclusive, horder⟩ := classify_around_of_perm t s hc
  refine ⟨hc, hclassify, hends .comment, ⟨hbefore, ?_⟩, ?_⟩
  · intro tag h
    exact hexclusive tag .comment h hbefore
  · exact (horder _ (by decide)).2.trans hclassify

/-- At the greatest column every part of the window is the whole line. A line that is just the
opening of a comment is kept out by what its rule asks of the first character, and by that alone. -/
theorem fits_comment_of_last_column
    (hlast : s.start.character + 1 = Position.columnBound)
    (hline : t.content s.start.line = Tag.comment.typedFront) :
    (around t s).Fits .comment ∧ ¬ (around t s).Guarded .comment ∧ t.tagAt s = none := by
  have hlen : (t.content s.start.line).length + 4 < Position.columnBound := by
    rw [hline]
    decide
  have hbefore : (around t s).fiveBefore = Tag.comment.typedFront :=
    (textIn_near_last_column hlast hlen (by decide)).trans hline
  have hfirst : (around t s).firstChar = Tag.comment.typedFront :=
    (textIn_near_last_column hlast hlen (by decide)).trans hline
  refine ⟨⟨hbefore, fun h => nomatch h⟩, ?_, ?_⟩
  · rw [Guarded, hfirst]
    decide
  · rw [Option.eq_none_iff_forall_ne_some]
    intro tag htag
    obtain ⟨hne, hshown, _⟩ := (tagAt_last_column hlast hlen).mp htag
    rw [hline] at hshown
    revert hne hshown
    cases tag <;> decide

end Window

end TagSpacing
