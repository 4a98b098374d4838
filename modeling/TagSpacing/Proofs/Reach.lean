import TagSpacing.Proofs.Cursors
import TagSpacing.Proofs.Grammar

/-! Where the windows do not show what they are looked up for. The space that opens a spaced tag lies
behind the character that is asked whether it is a space, and next to the greatest column a window is
the whole line. -/
namespace TagSpacing

namespace Text

variable {t l before behind : Text} {s : Selection} {tag : Tag} {c line : Nat}

/-- The line of a double tag that is spaced out, with the space that opens it. -/
def spacedLine (before behind : Text) : Text := before ++ ['{', '{'] ++ ' ' :: behind

theorem getElem?_spacedLine (before behind : Text) :
    (spacedLine before behind)[before.length + 2]? = some ' ' := by
  rw [spacedLine, List.getElem?_append_right (by simp)]
  simp

theorem opens_braces (before behind : Text) :
    (before ++ ['{', '{'] ++ behind).Opens (before.length + 1) .double := by
  refine ⟨Nat.le_add_left _ _, ?_, slice_append_append before ['{', '{'] behind⟩
  simp only [List.length_append, List.length_cons, List.length_nil]
  omega

/-- The last character of an opening is no space. -/
theorem not_opens_of_space (h : l[c]? = some ' ') (tag : Tag) : ¬ l.Opens c tag := by
  intro hopen
  have hlast : l.slice c (c + 1) = tag.typedFront.drop tag.inset :=
    hopen.lookBehind (Nat.zero_le tag.inset)
  have hmem : ' ' ∈ l.slice c (c + 1) := mem_slice (Nat.le_refl c) (Nat.lt_succ_self c) h
  rw [hlast] at hmem
  revert hmem
  cases tag <;> decide

/-- A selection that starts at a space sits in no tag, and would not without the rules that ask for
a space: no opening has one there. -/
theorem tagAt_eq_none_of_space (hc : s.start.character + 1 < Position.columnBound)
    (h : (t.content s.start.line)[s.start.character]? = some ' ') : t.tagAt s = none := by
  rw [Option.eq_none_iff_forall_ne_some]
  intro tag htag
  exact not_opens_of_space h tag ((tagAt_eq_some_iff hc).mp htag).1

/-- From the second of two braces on, a double tag is told by what follows the selection alone. -/
theorem tagAt_double_iff_of_braces (hline : t.content s.start.line = before ++ ['{', '{'] ++ behind)
    (hcol : s.start.character = before.length + 1)
    (hc : s.start.character + 1 < Position.columnBound) :
    t.tagAt s = some .double ↔ t.textIn (.near s.stop 1 3) ≠ ['-', '-'] := by
  have hopens := opens_braces before behind
  rw [← hline, ← hcol] at hopens
  rw [tagAt_eq_some_iff hc]
  simp [hopens]

theorem tagAt_double_iff_of_spaced (hline : t.content s.start.line = spacedLine before behind)
    (hcol : s.start.character = before.length + 1)
    (hc : s.start.character + 1 < Position.columnBound) :
    t.tagAt s = some .double ↔ t.textIn (.near s.stop 1 3) ≠ ['-', '-'] :=
  tagAt_double_iff_of_braces hline hcol hc

/-- What follows a caret on the second brace is the space. -/
theorem tagAt_caret_of_spaced (hline : t.content line = spacedLine before behind)
    (hbound : before.length + 4 < Position.columnBound) :
    t.tagAt (.caret ⟨line, before.length + 1⟩) = some .double := by
  have hcontent : t.content (Selection.caret ⟨line, before.length + 1⟩).start.line =
      spacedLine before behind := by
    rw [Selection.start_caret, hline]
  have hcol : (Selection.caret ⟨line, before.length + 1⟩).start.character = before.length + 1 := by
    rw [Selection.start_caret]
  have hafter : t.textIn (.near ⟨line, before.length + 1⟩ 1 3) =
      (spacedLine before behind).slice (before.length + 2) (before.length + 4) := by
    rw [← hline]
    exact textIn_near_ahead (k := 3) t (by omega) (by omega)
  rw [tagAt_double_iff_of_spaced hcontent hcol (by omega), Selection.stop_caret, hafter]
  intro hdashes
  have hspace : ' ' ∈ (spacedLine before behind).slice (before.length + 2) (before.length + 4) :=
    mem_slice (Nat.le_refl _) (by omega) (getElem?_spacedLine before behind)
  rw [hdashes] at hspace
  exact absurd hspace (by decide)

end Text

theorem Tag.rangeAround_caret {line c : Nat} (hc : c + 1 < Position.columnBound) :
    double.rangeAround (.caret ⟨line, c⟩) = .ok (.point ⟨line, c + 1⟩) := by
  have hshift : Position.shift? ⟨line, c⟩ 1 = some ⟨line, c + 1⟩ := by
    rw [Position.shift?_eq_some 1 (by omega) (by omega)]
    congr 2
  have hstart : Position.shift? ⟨line, c⟩ double.offsets.1 = some ⟨line, c + 1⟩ := hshift
  have hstop : Position.shift? ⟨line, c⟩ double.offsets.2 = some ⟨line, c + 1⟩ := hshift
  rw [rangeAround, Selection.start_caret, Selection.stop_caret, hstart, hstop]
  exact congrArg Except.ok (Range.between_of_le (Position.le_refl _))

theorem Config.plan_caret_of_spaced (config : Config) {t before behind : Text} {line : Nat}
    (hline : t.content line = Text.spacedLine before behind)
    (hbound : before.length + 4 < Position.columnBound) :
    ∃ request, config.plan t [.caret ⟨line, before.length + 1⟩] = some request ∧
      request.tag = .double ∧ request.ranges = [.point ⟨line, before.length + 2⟩] := by
  have hdouble := Text.tagAt_caret_of_spaced hline hbound
  have hrange : t.rangeAt? .double (.caret ⟨line, before.length + 1⟩) =
      some (.point ⟨line, before.length + 2⟩) :=
    Text.rangeAt?_eq_some_iff.mpr ⟨hdouble, Tag.rangeAround_caret (by omega)⟩
  exact config.exists_plan_single hrange

/-- What a spaced tag is taken for depends on the character at which the selection starts: at the
second brace it is a double tag like any other, only from its space on it is left alone. -/
theorem Text.tagAt_spaced {t before behind : Text} {s : Selection}
    (hline : t.content s.start.line = spacedLine before behind)
    (hbound : before.length + 4 < Position.columnBound) :
    (s.start.character = before.length + 1 →
      (t.tagAt s = some .double ↔ (Window.around t s).twoAfter ≠ ['-', '-'])) ∧
    (s.start.character = before.length + 2 → t.tagAt s = none) ∧
    (s.start.character = before.length + 3 → t.tagAt s ≠ some .double) ∧
    ∀ config : Config, ∃ request,
      config.plan t [.caret ⟨s.start.line, before.length + 1⟩] = some request ∧
        request.tag = .double ∧ request.ranges = [.point ⟨s.start.line, before.length + 2⟩] := by
  refine ⟨fun hcol => ?_, fun hcol => ?_, fun hcol => ?_, fun config => ?_⟩
  · exact tagAt_double_iff_of_spaced hline hcol (by omega)
  · refine tagAt_eq_none_of_space (by omega) ?_
    rw [hline, hcol]
    exact getElem?_spacedLine before behind
  · exact tagAt_ne_double_behind_space hline (by simpa using hcol)
  · exact config.plan_caret_of_spaced hline hbound

theorem Text.tagAt_spaced_name :
    let t : Text := ['{', '{', ' ', 'a', ' ', '}', '}']
    t.content 0 = spacedLine [] ['a', ' ', '}', '}'] ∧ 0 + 4 < Position.columnBound ∧
      t.tagAt ⟨⟨0, 1⟩, ⟨0, 4⟩⟩ = some .double ∧ t.tagAt ⟨⟨0, 4⟩, ⟨0, 2⟩⟩ = none := by
  intro t
  have hline : t.content 0 = spacedLine [] ['a', ' ', '}', '}'] := by decide
  have hbound : 0 + 4 < Position.columnBound := by decide
  refine ⟨hline, hbound, ?_, ?_⟩
  · exact ((tagAt_spaced (s := ⟨⟨0, 1⟩, ⟨0, 4⟩⟩) hline hbound).1 rfl).mpr (by decide)
  · exact (tagAt_spaced (s := ⟨⟨0, 4⟩, ⟨0, 2⟩⟩) hline hbound).2.1 rfl

theorem Text.not_tagAt_spaced_ne_double :
    ¬ ∀ (t before behind : Text) (s : Selection),
      t.content s.start.line = spacedLine before behind → s.start.character = before.length + 1 →
      t.tagAt s ≠ some .double := by
  intro h
  exact h ['{', '{', ' ', 'a', ' ', '}', '}'] [] ['a', ' ', '}', '}'] (.caret ⟨0, 1⟩) (by decide)
    rfl (by decide)

/-- A caret on the second brace has the tag spaced out once more. -/
theorem Workspace.space_caret_of_spaced (config : Config) {w : Workspace} {b : Buffer}
    {u v : Text} (h : w.active? = some b) (ht : b.text = u ++ ['{', '{', ' '] ++ v)
    (hs : b.selections = [.caret (b.text.positionAt (u.length + 1))])
    (hbound : b.text.length + 1 < Position.columnBound) :
    ∃ b', config.space w = (w.setActive b', .expanded) ∧
      b'.text = u ++ ['{', '{', ' ', ' ', ' '] ++ v := by
  have hbreak : ∀ c ∈ ['{', '{', ' '], isLineBreak c = false := isLineBreak_of_all (by decide)
  obtain ⟨line, before, behind, hline, hpos⟩ :=
    Text.exists_line_of_append (List.cons_ne_nil _ _) hbreak u v
  rw [← ht] at hline hpos
  have hcaret := (hpos 1 (by decide)).1
  have hcol := b.text.positionAt_le_length (u.length + 3)
  rw [(hpos 3 (Nat.le_refl _)).1] at hcol
  have hspaced : b.text.content line = Text.spacedLine before behind := by
    rw [hline, Text.spacedLine]
    simp
  obtain ⟨request, hp, htag, hranges⟩ :=
    config.plan_caret_of_spaced hspaced (by dsimp only at hcol; omega)
  have hspan : b.text.span (.point ⟨line, before.length + 2⟩) =
      ((u ++ ['{', '{']).length, (u ++ ['{', '{']).length + ([] : Text).length) := by
    rw [Text.span_eq, Range.point, (hpos 2 (by decide)).2]
    simp
  have hsplit : b.text = (u ++ ['{', '{']) ++ [] ++ ' ' :: v := by
    rw [ht]
    simp
  obtain ⟨b', hinsert, htext, _⟩ := Buffer.insert_of_single hranges hsplit hspan
  rw [htag] at htext
  refine ⟨b', ?_, ?_⟩
  · rw [space_of_plan_eq_some h (by rw [hs, hcaret]; exact hp), hinsert]
  · rw [htext, Tag.kept_double]
    simp [Tag.opening, Tag.closing]

namespace Text

theorem length_lookBehind_le (l : Text) (c d : Nat) : (l.lookBehind c d).length ≤ d + 1 := by
  rw [lookBehind, length_slice]
  split <;> omega

theorem length_textIn_near_back_le (t : Text) {p : Position} (d : Nat)
    (hc : p.character + 1 < Position.columnBound) : (t.textIn (.near p (-d) 1)).length ≤ d + 1 := by
  rw [textIn_near_back t p.line d hc]
  exact length_lookBehind_le _ _ _

theorem length_textIn_near_ahead_le (t : Text) {p : Position} {k : Nat} (hk : 1 ≤ k)
    (hc : p.character + k < Position.columnBound) : (t.textIn (.near p 1 k)).length ≤ k - 1 := by
  obtain ⟨line, c⟩ := p
  rw [textIn_near_ahead t hk hc, length_slice]
  omega

/-- Where the end of a window is no column any more, column 0 stands in for it, and the window
reaches from there over the whole line. -/
theorem textIn_near_of_overflow {t : Text} {p : Position} {first last : Int}
    (hlast : (Position.columnBound : Int) ≤ p.character + last) (hfirst : -4 ≤ first)
    (hlen : (t.content p.line).length + 4 ≤ p.character)
    (hcol : p.character < Position.columnBound) :
    t.textIn (.near p first last) = t.content p.line := by
  obtain ⟨line, c⟩ := p
  dsimp only at hlast hlen hcol ⊢
  have hwhole : ∀ a, (t.content line).length ≤ a →
      t.textIn (.between ⟨line, a⟩ ⟨line, 0⟩) = t.content line := by
    intro a ha
    rw [textIn_between, Nat.min_zero, Nat.max_zero, slice, List.drop_zero,
      List.take_of_length_le (by omega)]
  unfold Range.near Position.shiftOrZero
  rw [Position.shift?_eq_none last (by omega)]
  by_cases hin : (c : Int) + first < Position.columnBound
  · rw [Position.shift?_eq_some first (by omega) hin]
    simp only [Option.isSome_some, if_true]
    rw [Position.shift?_eq_some first (by omega) hin]
    exact hwhole _ (by omega)
  · rw [Position.shift?_eq_none first (by omega)]
    simp only [Option.isSome_none, Bool.false_eq_true, if_false]
    rw [Position.shift?_eq_some 0 (by omega) (by omega)]
    exact hwhole _ (by omega)

end Text

namespace Window

variable {t : Text} {s : Selection} {tag : Tag}

/-- Every part of a window is at most as long as its name says. -/
structure Narrow (w : Window) : Prop where
  firstChar : w.firstChar.length ≤ 1
  twoBefore : w.twoBefore.length ≤ 2
  threeBefore : w.threeBefore.length ≤ 3
  fourBefore : w.fourBefore.length ≤ 4
  fiveBefore : w.fiveBefore.length ≤ 5
  charAfter : w.charAfter.length ≤ 1
  twoAfter : w.twoAfter.length ≤ 2

instance (w : Window) : Decidable w.Narrow :=
  decidable_of_iff (w.firstChar.length ≤ 1 ∧ w.twoBefore.length ≤ 2 ∧ w.threeBefore.length ≤ 3 ∧
      w.fourBefore.length ≤ 4 ∧ w.fiveBefore.length ≤ 5 ∧ w.charAfter.length ≤ 1 ∧
      w.twoAfter.length ≤ 2)
    ⟨fun ⟨h₁, h₂, h₃, h₄, h₅, h₆, h₇⟩ => ⟨h₁, h₂, h₃, h₄, h₅, h₆, h₇⟩,
      fun ⟨h₁, h₂, h₃, h₄, h₅, h₆, h₇⟩ => ⟨h₁, h₂, h₃, h₄, h₅, h₆, h₇⟩⟩

theorem narrow_of_columns (t : Text) (hstart : s.start.character + 1 < Position.columnBound)
    (hstop : s.stop.character + 3 < Position.columnBound) : (around t s).Narrow where
  firstChar := t.length_textIn_near_back_le 0 hstart
  twoBefore := t.length_textIn_near_back_le 1 hstart
  threeBefore := t.length_textIn_near_back_le 2 hstart
  fourBefore := t.length_textIn_near_back_le 3 hstart
  fiveBefore := t.length_textIn_near_back_le 4 hstart
  charAfter := t.length_textIn_near_ahead_le (k := 2) (by omega) (by omega)
  twoAfter := t.length_textIn_near_ahead_le (k := 3) (by omega) hstop

/-- At the greatest column the parts of a window before the selection are all the whole line. -/
theorem textIn_near_last_column (hlast : s.start.character + 1 = Position.columnBound)
    (hlen : (t.content s.start.line).length + 4 < Position.columnBound) {first : Int}
    (hfirst : -4 ≤ first) : t.textIn (.near s.start first 1) = t.content s.start.line :=
  Text.textIn_near_of_overflow (by omega) hfirst (by omega) (by omega)

/-- No rule tells the parts at the greatest column apart but that of the comment, which asks for two
different ones. -/
theorem tagAt_last_column (hlast : s.start.character + 1 = Position.columnBound)
    (hlen : (t.content s.start.line).length + 4 < Position.columnBound) :
    t.tagAt s = some tag ↔ tag ≠ .comment ∧ t.content s.start.line = tag.typedFront ∧
      (tag = .double → (around t s).twoAfter ≠ ['-', '-']) := by
  have hfirst : (around t s).firstChar = t.content s.start.line :=
    textIn_near_last_column hlast hlen (by decide)
  have htwo : (around t s).twoBefore = t.content s.start.line :=
    textIn_near_last_column hlast hlen (by decide)
  have hthree : (around t s).threeBefore = t.content s.start.line :=
    textIn_near_last_column hlast hlen (by decide)
  have hfour : (around t s).fourBefore = t.content s.start.line :=
    textIn_near_last_column hlast hlen (by decide)
  have hfive : (around t s).fiveBefore = t.content s.start.line :=
    textIn_near_last_column hlast hlen (by decide)
  rw [Text.tagAt, classify, hfirst, htwo, hthree, hfour, hfive]
  generalize t.content s.start.line = l
  by_cases hl : ∃ shown : Tag, l = shown.typedFront
  · obtain ⟨shown, rfl⟩ := hl
    cases shown <;> cases tag <;> simp [Tag.typedFront]
  · have hne : ∀ shown : Tag, l ≠ shown.typedFront := fun shown h => hl ⟨shown, h⟩
    have hdouble := hne .double
    have htriple := hne .triple
    have hunescaped := hne .unescaped
    have hcomment := hne .comment
    simp only [Tag.typedFront] at hdouble htriple hunescaped hcomment
    simp [hdouble, htriple, hunescaped, hcomment, hne]

/-- A selection behind the end of its line sits in no tag as long as the column behind its start is
one. Columns are 64-bit words, and no line fills them. -/
theorem tagAt_of_length_le (hend : (t.content s.start.line).length ≤ s.start.character)
    (hcol : s.start.character < Position.columnBound)
    (hlen : (t.content s.start.line).length + 4 < Position.columnBound) :
    t.tagAt s = some tag ↔ s.start.character + 1 = Position.columnBound ∧ tag ≠ .comment ∧
      t.content s.start.line = tag.typedFront ∧
      (tag = .double → (around t s).twoAfter ≠ ['-', '-']) := by
  by_cases hlast : s.start.character + 1 = Position.columnBound
  · rw [tagAt_last_column hlast hlen]
    exact (and_iff_right hlast).symm
  · rw [Text.tagAt_eq_some_iff (by omega)]
    constructor
    · rintro ⟨⟨_, hin, _⟩, _⟩
      omega
    · rintro ⟨h, _⟩
      exact (hlast h).elim

/-- Windows stay narrow and show no tag behind the end of a line, up to where their columns
overflow. At the greatest column the whole line is taken for what stands before the selection. -/
theorem narrow_around (t : Text) (s : Selection) (hstart : s.start.character < Position.columnBound)
    (hlen : (t.content s.start.line).length + 4 < Position.columnBound) :
    (s.start.character + 1 < Position.columnBound → s.stop.character + 3 < Position.columnBound →
      (around t s).Narrow) ∧
    ((t.content s.start.line).length ≤ s.start.character → ∀ tag,
      (t.tagAt s = some tag ↔ s.start.character + 1 = Position.columnBound ∧ tag ≠ .comment ∧
        t.content s.start.line = tag.typedFront ∧
        (tag = .double → (around t s).twoAfter ≠ ['-', '-']))) :=
  ⟨narrow_of_columns t, fun hend _ => tagAt_of_length_le hend hstart hlen⟩

theorem narrow_around_triple :
    let t : Text := ['{', '{', ' ', '{']
    let s : Selection := .caret ⟨0, Position.columnBound - 1⟩
    s.start.character < Position.columnBound ∧
      (t.content s.start.line).length + 4 < Position.columnBound ∧ t.tagAt s = some .triple := by
  intro t s
  have hstart : s.start.character < Position.columnBound := by decide
  have hlen : (t.content s.start.line).length + 4 < Position.columnBound := by decide
  refine ⟨hstart, hlen, ((narrow_around t s hstart hlen).2 (by decide) .triple).mpr ?_⟩
  exact ⟨by decide, by decide, by decide, by decide⟩

/-- Behind the end of a line the whole line may be shown, and with it a tag. -/
theorem not_narrow_last_column :
    let t : Text := ['{', '{']
    let s : Selection := .caret ⟨0, Position.columnBound - 1⟩
    ¬ (around t s).Narrow ∧ (t.content s.start.line).length ≤ s.start.character ∧
      t.tagAt s = some .double := by
  intro t s
  have hwide : ¬ (around t s).Narrow := by decide
  exact ⟨hwide, by decide, by decide⟩

end Window

end TagSpacing
