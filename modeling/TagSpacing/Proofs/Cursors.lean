import TagSpacing.Proofs.Space

/-! Several cursors at once. Where their selections do not overlap, neither do the ranges that are
planned for them, and the insertion goes through. -/
namespace TagSpacing

namespace Position

variable {p p' q q' : Position} {delta : Int}

theorem shift?_eq_some_iff :
    p.shift? delta = some q ↔
      q.line = p.line ∧ (q.character : Int) = p.character + delta ∧ q.character < columnBound := by
  unfold shift?
  obtain ⟨m, c⟩ := p
  obtain ⟨n, d⟩ := q
  simp only [Option.ite_none_right_eq_some, Option.some.injEq, mk.injEq]
  omega

theorem le_iff_of_shift? (hp : p.shift? delta = some p') (hq : q.shift? delta = some q') :
    p' ≤ q' ↔ p ≤ q := by
  obtain ⟨hpl, hpc, _⟩ := shift?_eq_some_iff.mp hp
  obtain ⟨hql, hqc, _⟩ := shift?_eq_some_iff.mp hq
  rw [le_def, le_def]
  omega

theorem lt_iff_of_shift? (hp : p.shift? delta = some p') (hq : q.shift? delta = some q') :
    p' < q' ↔ p < q := by
  rw [← not_le, ← not_le, le_iff_of_shift? hq hp]

end Position

namespace Selection

theorem start_le_stop (s : Selection) : s.start ≤ s.stop := by
  rcases s.start_stop_cases with ⟨h, hstart, hstop⟩ | ⟨h, hstart, hstop⟩
  · rwa [hstart, hstop]
  · rw [hstart, hstop]
    exact Position.le_of_not_le h

theorem range_eq (s : Selection) : s.range = ⟨s.start, s.stop, s.start_le_stop⟩ := by
  rcases s.start_stop_cases with ⟨h, hstart, hstop⟩ | ⟨h, hstart, hstop⟩
  · simp only [range, Range.between, dif_pos h, hstart, hstop]
  · simp only [range, Range.between, dif_neg h, hstart, hstop]

end Selection

namespace Tag

variable {tag : Tag} {s s' : Selection} {r r' : Range}

theorem rangeAround_eq_ok (h : tag.rangeAround s = .ok r) :
    ∃ start stop, s.start.shift? tag.offsets.1 = some start ∧
      s.stop.shift? tag.offsets.2 = some stop ∧ r = .between start stop := by
  unfold rangeAround at h
  split at h
  · rename_i start stop hstart hstop
    exact ⟨start, stop, hstart, hstop, (Except.ok.inj h).symm⟩
  · cases h

theorem rangeAround_double (h : double.rangeAround s = .ok r) :
    s.start.shift? 1 = some r.start ∧ s.stop.shift? 1 = some r.stop := by
  obtain ⟨start, stop, hstart, hstop, rfl⟩ := rangeAround_eq_ok h
  have hle : start ≤ stop := (Position.le_iff_of_shift? hstart hstop).mpr s.start_le_stop
  rw [Range.between_of_le hle]
  exact ⟨hstart, hstop⟩

theorem start_stop_of_rangeAround (h : double.rangeAround s = .ok r) :
    r.start = ⟨s.start.line, s.start.character + 1⟩ ∧
      r.stop = ⟨s.stop.line, s.stop.character + 1⟩ := by
  obtain ⟨hstart, hstop⟩ := rangeAround_double h
  obtain ⟨hline, hcol, _⟩ := Position.shift?_eq_some_iff.mp hstart
  obtain ⟨hline', hcol', _⟩ := Position.shift?_eq_some_iff.mp hstop
  constructor
  · rw [← hline, ← show r.start.character = s.start.character + 1 by omega]
  · rw [← hline', ← show r.stop.character = s.stop.character + 1 by omega]

/-- Both ends of a selection move by the same number of columns, and so do those of another. -/
theorem overlaps_rangeAround_double (h : double.rangeAround s = .ok r)
    (h' : double.rangeAround s' = .ok r') : r.overlaps r' = s.range.overlaps s'.range := by
  obtain ⟨hstart, hstop⟩ := rangeAround_double h
  obtain ⟨hstart', hstop'⟩ := rangeAround_double h'
  simp only [Range.overlaps, Selection.range_eq, Position.lt_iff_of_shift? hstart hstop',
    Position.lt_iff_of_shift? hstart' hstop]

end Tag

namespace Text

variable {t : Text} {r r' : Range}

/-- Ranges that are pulled into a text may come to touch there, but not to overlap. -/
theorem overlaps_of_clampRange (h : (t.clampRange r).overlaps (t.clampRange r') = true) :
    r.overlaps r' = true := by
  simp only [Range.overlaps, clampRange_eq, decide_eq_true_eq, ← Position.not_le] at h ⊢
  exact ⟨fun hle => h.1 (clamp_mono hle), fun hle => h.2 (clamp_mono hle)⟩

end Text

theorem Buffer.disjoint_of_plan {b : Buffer} {config : Config} {request : Request}
    (hp : config.plan b.text b.selections = some request)
    (hapart : b.selections.Pairwise fun s s' => s.range.overlaps s'.range = false) :
    b.Disjoint request := by
  obtain ⟨_, _, hranges, _⟩ := Config.plan_eq_some_iff.mp hp
  rw [Disjoint, hranges]
  refine hapart.filterMap _ ?_
  intro s s' hover r hr r' hr'
  rw [← Bool.not_eq_true] at hover ⊢
  rw [← Tag.overlaps_rangeAround_double (Text.rangeAt?_eq_some_iff.mp hr).2
    (Text.rangeAt?_eq_some_iff.mp hr').2] at hover
  exact fun hclamp => hover (Text.overlaps_of_clampRange hclamp)

namespace Workspace

/-- With cursors that do not overlap a plan is always carried out: the insertion is never refused. -/
theorem space_of_apart (config : Config) (w : Workspace) (b : Buffer) (h : w.active? = some b)
    (hapart : b.selections.Pairwise fun s s' => s.range.overlaps s'.range = false) :
    ((config.space w).2 = .expanded ↔ ∃ request, config.plan b.text b.selections = some request) ∧
    ∀ tag e, (config.space w).2 ≠ .refused tag e := by
  cases hp : config.plan b.text b.selections with
  | none =>
    rw [space_of_plan_eq_none h hp]
    simp
  | some request =>
    rw [space_of_plan_eq_some h hp, Buffer.insert_of_disjoint (Buffer.disjoint_of_plan hp hapart)]
    simp

/-- Two carets at one place, a reversed selection, and one behind the end of the text. -/
theorem space_of_apart_carets :
    let b : Buffer := ⟨['{', '{', '}', '}', '\r', '\n', '{', '{', 'a', '}', '}'],
      [⟨⟨1, 2⟩, ⟨1, 1⟩⟩, .caret ⟨7, 7⟩, .caret ⟨0, 1⟩, .caret ⟨0, 1⟩], .empty⟩
    let w : Workspace := ⟨[b], some 0⟩
    w.active? = some b ∧
      (b.selections.Pairwise fun s s' => s.range.overlaps s'.range = false) ∧
      (Config.space {} w).2 = .expanded := by
  intro b w
  have ha : w.active? = some b := rfl
  have hapart : b.selections.Pairwise fun s s' => s.range.overlaps s'.range = false := by decide
  refine ⟨ha, hapart, (space_of_apart {} w b ha hapart).1.mpr ?_⟩
  exact ⟨⟨.double, [.between ⟨1, 2⟩ ⟨1, 3⟩, .point ⟨0, 2⟩, .point ⟨0, 2⟩], by simp, ⟨true, true⟩⟩,
    by cbv⟩

end Workspace

end TagSpacing
