import TagSpacing.Proofs.Coverage
import TagSpacing.Proofs.Reach

/-! The opening of a comment, `{{--`. Its dashes follow the start of a selection on the second
brace, but they are looked for behind the end of the selection. A caret sees them; to a selection
that reaches over them the opening is that of a double tag. -/
namespace TagSpacing

namespace Text

variable {t before behind : Text} {s : Selection} {line : Nat}

/-- The line of a comment, with the dashes that follow its opening braces. -/
def commentLine (before behind : Text) : Text := before ++ ['{', '{'] ++ '-' :: '-' :: behind

theorem slice_commentLine (before behind : Text) :
    (commentLine before behind).slice (before.length + 2) (before.length + 4) = ['-', '-'] := by
  have h := slice_append_append (before ++ ['{', '{']) ['-', '-'] behind
  simpa [commentLine] using h

/-- From the second brace on the dashes follow a selection that ends there. -/
theorem tagAt_ne_double_of_stop (hline : t.content line = commentLine before behind)
    (hstop : s.stop = ⟨line, before.length + 1⟩)
    (hbound : before.length + 4 < Position.columnBound) : t.tagAt s ≠ some .double := by
  intro htag
  have hafter : (Window.around t s).twoAfter = ['-', '-'] := by
    have hahead : t.textIn (.near ⟨line, before.length + 1⟩ 1 3) =
        (t.content line).slice (before.length + 2) (before.length + 4) :=
      textIn_near_ahead (k := 3) t (by omega) (by omega)
    rw [hline, slice_commentLine, ← hstop] at hahead
    exact hahead
  exact (Window.braces_of_classify htag).2 hafter

/-- No other opening ends at the second brace, so that a selection from there on sits in a double
tag or in none. -/
theorem tagAt_commentLine (hline : t.content s.start.line = commentLine before behind)
    (hcol : s.start.character = before.length + 1)
    (hc : s.start.character + 1 < Position.columnBound) :
    t.tagAt s = if (Window.around t s).twoAfter = ['-', '-'] then none else some .double := by
  have hdouble : t.tagAt s = some .double ↔ (Window.around t s).twoAfter ≠ ['-', '-'] :=
    tagAt_double_iff_of_braces hline hcol hc
  split
  · next hafter =>
    rw [Option.eq_none_iff_forall_ne_some]
    intro tag htag
    have hopens := opens_braces before ('-' :: '-' :: behind)
    have htagOpens := ((tagAt_eq_some_iff hc).mp htag).1
    rw [hline, hcol] at htagOpens
    rw [htagOpens.unique hopens] at htag
    exact hdouble.mp htag hafter
  · next hafter => exact hdouble.mpr hafter

end Text

/-- What is planned never ends between the braces and the dashes, and starts there only for a
selection that is not empty. -/
theorem Config.plan_commentLine {config : Config} {t before behind : Text} {line : Nat}
    {selections : List Selection} {request : Request} {r : Range}
    (hline : t.content line = Text.commentLine before behind)
    (hbound : before.length + 4 < Position.columnBound)
    (h : config.plan t selections = some request) (hr : r ∈ request.ranges) :
    r.stop ≠ ⟨line, before.length + 2⟩ ∧
      (r.start = ⟨line, before.length + 2⟩ →
        ∃ s ∈ selections, s.start = ⟨line, before.length + 1⟩ ∧ s.isEmpty = false) := by
  obtain ⟨_, _, hranges, _⟩ := plan_eq_some_iff.mp h
  rw [hranges] at hr
  obtain ⟨s, hs, hsr⟩ := List.mem_filterMap.mp hr
  obtain ⟨htag, hrange⟩ := Text.rangeAt?_eq_some_iff.mp hsr
  obtain ⟨hstart, hstop⟩ := Tag.start_stop_of_rangeAround hrange
  have hnot : s.stop ≠ ⟨line, before.length + 1⟩ := fun hstop =>
    Text.tagAt_ne_double_of_stop hline hstop hbound htag
  have hbrace (p : Position) (heq : (⟨p.line, p.character + 1⟩ : Position) =
      ⟨line, before.length + 2⟩) : p = ⟨line, before.length + 1⟩ := by
    obtain ⟨hpl, hpc⟩ := Position.mk.inj heq
    rw [← hpl, ← Nat.succ.inj hpc]
  constructor
  · intro heq
    exact hnot (hbrace s.stop (hstop.symm.trans heq))
  · intro heq
    have hopen := hbrace s.start (hstart.symm.trans heq)
    refine ⟨s, hs, hopen, ?_⟩
    rw [Bool.eq_false_iff]
    intro hempty
    exact hnot ((Selection.start_eq_stop_of_isEmpty hempty).symm.trans hopen)

/-- A selection from the second brace on that is not followed by dashes is planned for, and what is
planned starts between the braces and the dashes. -/
theorem Config.plan_eq_some_of_commentLine (config : Config) {t before behind : Text}
    {s : Selection}
    (hline : t.content s.start.line = Text.commentLine before behind)
    (hcol : s.start.character = before.length + 1)
    (hbound : before.length + 4 < Position.columnBound)
    (hafter : (Window.around t s).twoAfter ≠ ['-', '-'])
    (hstop : s.stop.character + 1 < Position.columnBound) :
    ∃ request r, config.plan t [s] = some request ∧ request.tag = .double ∧
      request.ranges = [r] ∧ r.start = ⟨s.start.line, before.length + 2⟩ := by
  have htag : t.tagAt s = some .double := by
    rw [Text.tagAt_commentLine hline hcol (by omega), if_neg hafter]
  have hreach : Tag.double.Reaches s := by
    simp only [Tag.Reaches, Tag.offsets]
    omega
  obtain ⟨r, hr⟩ := (Text.exists_rangeAround_iff_of_tagAt htag).mpr hreach
  have hrange : t.rangeAt? .double s = some r := Text.rangeAt?_eq_some_iff.mpr ⟨htag, hr⟩
  obtain ⟨request, hp, hrequest, hranges⟩ := config.exists_plan_single hrange
  refine ⟨request, r, hp, hrequest, hranges, ?_⟩
  rw [(Tag.start_stop_of_rangeAround hr).1, hcol]

/-- A selection from the second brace of `{{--` on sits in a double tag unless two dashes follow its
end, and in no tag if they do. They follow a caret, so that nothing is planned between the braces
and the dashes for carets; for a selection that they do not follow it is. -/
theorem Text.tagAt_comment_opening {t before behind : Text} {s : Selection}
    (hline : t.content s.start.line = commentLine before behind)
    (hcol : s.start.character = before.length + 1)
    (hbound : before.length + 4 < Position.columnBound) :
    (t.tagAt s = if (Window.around t s).twoAfter = ['-', '-'] then none else some .double) ∧
    (s.isEmpty = true → t.tagAt s = none) ∧
    (∀ (config : Config) (selections : List Selection) (request : Request),
      config.plan t selections = some request → ∀ r ∈ request.ranges,
        r.stop ≠ ⟨s.start.line, before.length + 2⟩ ∧
          (r.start = ⟨s.start.line, before.length + 2⟩ →
            ∃ s' ∈ selections, s'.start = s.start ∧ s'.isEmpty = false)) ∧
    ∀ config : Config, (Window.around t s).twoAfter ≠ ['-', '-'] →
      s.stop.character + 1 < Position.columnBound →
      ∃ request r, config.plan t [s] = some request ∧ request.tag = .double ∧
        request.ranges = [r] ∧ r.start = ⟨s.start.line, before.length + 2⟩ := by
  have htag := tagAt_commentLine hline hcol (by omega)
  have hstart : s.start = ⟨s.start.line, before.length + 1⟩ := by rw [← hcol]
  refine ⟨htag, ?_, ?_, ?_⟩
  · intro hempty
    have hstop : s.stop = ⟨s.start.line, before.length + 1⟩ :=
      (Selection.start_eq_stop_of_isEmpty hempty).symm.trans hstart
    have hne := tagAt_ne_double_of_stop hline hstop hbound
    rw [htag] at hne ⊢
    split at hne
    · next hafter => rw [if_pos hafter]
    · exact (hne rfl).elim
  · intro config selections request h r hr
    rw [hstart]
    exact Config.plan_commentLine hline hbound h hr
  · intro config hafter hstop
    exact config.plan_eq_some_of_commentLine hline hcol hbound hafter hstop

/-- The caret sees the dashes; the selection that covers them sees the closing braces. -/
theorem Text.tagAt_comment_opening_dashes :
    let t : Text := ['{', '{', '-', '-', '\x7d', '\x7d']
    t.content 0 = commentLine [] ['\x7d', '\x7d'] ∧ 0 + 4 < Position.columnBound ∧
      t.tagAt (.caret ⟨0, 1⟩) = none ∧ t.tagAt ⟨⟨0, 3⟩, ⟨0, 1⟩⟩ = some .double ∧
      ∃ request r, Config.plan {} t [⟨⟨0, 3⟩, ⟨0, 1⟩⟩] = some request ∧ request.tag = .double ∧
        request.ranges = [r] ∧ r.start = ⟨0, 2⟩ := by
  intro t
  have hline : t.content 0 = commentLine [] ['\x7d', '\x7d'] := by decide
  have hbound : 0 + 4 < Position.columnBound := by decide
  have hcaret := tagAt_comment_opening (s := .caret ⟨0, 1⟩) hline rfl hbound
  have hlong := tagAt_comment_opening (s := ⟨⟨0, 3⟩, ⟨0, 1⟩⟩) hline rfl hbound
  have hafter : (Window.around t ⟨⟨0, 3⟩, ⟨0, 1⟩⟩).twoAfter ≠ ['-', '-'] := by decide
  refine ⟨hline, hbound, hcaret.2.1 rfl, ?_, hlong.2.2.2 {} hafter (by decide)⟩
  rw [hlong.1, if_neg hafter]

theorem Text.not_tagAt_comment_opening_ne_double :
    ¬ ∀ (t before behind : Text) (s : Selection),
      t.content s.start.line = commentLine before behind → s.start.character = before.length + 1 →
      t.tagAt s ≠ some .double := by
  intro h
  exact h ['{', '{', '-', '-', '\x7d', '\x7d'] [] ['\x7d', '\x7d'] ⟨⟨0, 1⟩, ⟨0, 3⟩⟩ (by decide) rfl
    (by decide)

/-- A selection from the second brace on that is not followed by dashes has a space put between the
braces and the dashes. -/
theorem Workspace.space_comment_opening (config : Config) {w : Workspace} {b : Buffer}
    {s : Selection} {u v : Text} (h : w.active? = some b)
    (ht : b.text = u ++ ['{', '{', '-', '-'] ++ v) (hs : b.selections = [s])
    (hstart : s.start = b.text.positionAt (u.length + 1))
    (hafter : (Window.around b.text s).twoAfter ≠ ['-', '-'])
    (hbound : b.text.length + 1 < Position.columnBound)
    (hstop : s.stop.character + 1 < Position.columnBound) :
    ∃ b' x y, config.space w = (w.setActive b', .expanded) ∧ x ++ y = ['-', '-'] ++ v ∧
      b'.text = u ++ ['{', '{', ' '] ++ x ++ ' ' :: y := by
  have hbreak : ∀ c ∈ ['{', '{', '-', '-'], isLineBreak c = false := isLineBreak_of_all (by decide)
  obtain ⟨line, before, behind, hline, hpos⟩ :=
    Text.exists_line_of_append (List.cons_ne_nil _ _) hbreak u v
  rw [← ht] at hline hpos
  rw [(hpos 1 (by decide)).1] at hstart
  have hcol := b.text.positionAt_le_length (u.length + 4)
  rw [(hpos 4 (Nat.le_refl _)).1] at hcol
  have hcomment : b.text.content s.start.line = Text.commentLine before behind := by
    rw [hstart, hline, Text.commentLine]
    simp
  obtain ⟨request, r, hp, htag, hranges, hr⟩ := config.plan_eq_some_of_commentLine hcomment
    (congrArg Position.character hstart) (by dsimp only at hcol; omega) hafter hstop
  -- The range starts where the dashes do, and ends somewhere in what follows the braces.
  have hfirst : (b.text.span r).1 = (u ++ ['{', '{']).length := by
    rw [Text.span_eq, hr, hstart, (hpos 2 (by decide)).2]
    simp
  obtain ⟨hle, hlen⟩ := b.text.span_bounds r
  have hrest : b.text = (u ++ ['{', '{']) ++ (['-', '-'] ++ v) := by
    rw [ht]
    simp
  have htotal := congrArg List.length hrest
  rw [List.length_append, ← hfirst] at htotal
  obtain ⟨k, hk⟩ := Nat.exists_eq_add_of_le hle
  have hsplit : b.text =
      (u ++ ['{', '{']) ++ (['-', '-'] ++ v).take k ++ (['-', '-'] ++ v).drop k := by
    rw [List.append_assoc, List.take_append_drop]
    exact hrest
  have hspan : b.text.span r = ((u ++ ['{', '{']).length,
      (u ++ ['{', '{']).length + ((['-', '-'] ++ v).take k).length) := by
    rw [List.length_take, Nat.min_eq_left (by omega), ← hfirst, ← hk]
  obtain ⟨b', hinsert, htext, _⟩ := Buffer.insert_of_single hranges hsplit hspan
  rw [htag] at htext
  refine ⟨b', _, _, ?_, List.take_append_drop k _, ?_⟩
  · rw [space_of_plan_eq_some h (by rw [hs]; exact hp), hinsert]
  · rw [htext, Tag.kept_double]
    simp [Tag.opening, Tag.closing]

end TagSpacing
