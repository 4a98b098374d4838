import TagSpacing.Workspace
import TagSpacing.Proofs.Inverse
import TagSpacing.Proofs.Span

/-! Edits as they are reported. A report names the replaced range by valid positions, so whoever makes
the reported edits where the edits were made ends up with the same buffers. -/
namespace TagSpacing

namespace Text

/-- The text with the characters of a range replaced. -/
def replace (t : Text) (r : Range) (u : Text) : Text :=
  t.take (t.offset r.start) ++ u ++ t.drop (t.offset r.stop)

variable {t u : Text} {i j : Nat}

theorem edit_single (hij : i ≤ j) (hj : j ≤ t.length) :
    t.edit [⟨i, j, some u⟩] = .ok (t.take i ++ u ++ t.drop j) := by
  have hfault : Edit.firstFault? t.length 0 [⟨i, j, some u⟩] = none := by
    rw [Edit.firstFault?, Edit.fault?_eq_none_iff.mpr ⟨Nat.zero_le i, hij, hj⟩]
    rfl
  rw [edit_eq, hfault]
  rfl

theorem offset_start_clampRange (t : Text) (r : Range) :
    t.offset (t.clampRange r).start = t.offset r.start := by
  rw [clampRange_eq, offset_clamp]

theorem offset_stop_clampRange (t : Text) (r : Range) :
    t.offset (t.clampRange r).stop = t.offset r.stop := by
  rw [clampRange_eq, offset_clamp]

theorem textIn_clampRange (t : Text) (r : Range) : t.textIn (t.clampRange r) = t.textIn r := by
  rw [textIn_eq, textIn_eq, offset_start_clampRange, offset_stop_clampRange]

theorem replace_clampRange (t : Text) (r : Range) (u : Text) :
    t.replace (t.clampRange r) u = t.replace r u := by
  rw [replace, replace, offset_start_clampRange, offset_stop_clampRange]

theorem clampRange_clampRange (t : Text) (r : Range) :
    t.clampRange (t.clampRange r) = t.clampRange r := by
  simp only [clampRange_eq, clamp_clamp]

end Text

namespace Buffer

variable {b : Buffer} {r : Range} {u : Text}

/-- What a change reports. -/
def report (b : Buffer) (r : Range) (u : Text) : Change :=
  ⟨b.text.clampRange r, (b.text.textIn r).length, u⟩

/-- The buffer that a change leaves. -/
def changed (b : Buffer) (r : Range) (u : Text) : Buffer :=
  ⟨b.text.replace r u, b.selections, b.history.commit b.snapshot true true⟩

/-- No change is refused: the offsets of a range are in order and inside the text. -/
theorem change_eq (b : Buffer) (r : Range) (u : Text) :
    b.change r u = .ok (b.changed r u, b.report r u) := by
  have hij := Text.offset_mono (t := b.text) r.start_le_stop
  have hj := b.text.offset_le_length r.stop
  have hlen : (b.text.textIn r).length = b.text.offset r.stop - b.text.offset r.start := by
    rw [Text.textIn_eq, Text.length_slice]
    omega
  simp only [change, Text.span_eq, Text.edit_single hij hj, Text.positionAt_offset]
  rw [changed, report, hlen]
  rfl

theorem change_clampRange (b : Buffer) (r : Range) (u : Text) :
    b.change (b.text.clampRange r) u = b.change r u := by
  simp only [change_eq, changed, report, Text.replace_clampRange, Text.textIn_clampRange,
    Text.clampRange_clampRange]

/-- Every change is made and reported. The characters between the valid positions nearest to the
bounds of its range give way to its text, and the selections stay. The report has these positions and
the number of characters between them, and made in its place it does and reports the same. -/
theorem change_replays (b : Buffer) (r : Range) (u : Text) :
    ∃ b' c, b.change r u = .ok (b', c) ∧
      b'.text = b.text.take (b.text.offset r.start) ++ u ++ b.text.drop (b.text.offset r.stop) ∧
      b'.selections = b.selections ∧
      c.range.start = b.text.clamp r.start ∧ c.range.stop = b.text.clamp r.stop ∧
      c.length = (b.text.textIn r).length ∧ c.text = u ∧
      b.change c.range c.text = .ok (b', c) := by
  have hstart : (b.report r u).range.start = b.text.clamp r.start := by
    rw [report, Text.clampRange_eq]
  have hstop : (b.report r u).range.stop = b.text.clamp r.stop := by
    rw [report, Text.clampRange_eq]
  refine ⟨b.changed r u, b.report r u, b.change_eq r u, rfl, rfl, hstart, hstop, rfl, rfl, ?_⟩
  exact (b.change_clampRange r u).trans (b.change_eq r u)

end Buffer

namespace Workspace

variable {w : Workspace} {b b' : Buffer} {r : Range} {u : Text} {c : Change}
  {edits : List (Range × Text)}

theorem edit_cons_of_change (hb : w.active? = some b) (hc : b.change r u = .ok (b', c)) :
    w.edit ((r, u) :: edits) =
      (((w.setActive b').edit edits).1, .ok c :: ((w.setActive b').edit edits).2) := by
  rw [edit, hb]
  simp only [hc]

/-- Making the reported edits one after the other is making the edits themselves. -/
theorem edit_reports (w : Workspace) (edits : List (Range × Text)) :
    w.edit (((w.edit edits).2.filterMap Except.toOption).map fun c => (c.range, c.text)) =
      w.edit edits := by
  induction edits generalizing w with
  | nil => rfl
  | cons e edits ih =>
    obtain ⟨r, u⟩ := e
    cases hb : w.active? with
    | none => simp [edit, hb]
    | some b =>
      -- Both runs go on from the same buffer, so the rest is the hypothesis.
      have hagain := (b.change_clampRange r u).trans (b.change_eq r u)
      have hrest := ih (w.setActive (b.changed r u))
      rw [edit_cons_of_change hb (b.change_eq r u)]
      refine (edit_cons_of_change hb hagain).trans ?_
      exact congrArg (fun x : Workspace × _ => (x.1, .ok (b.report r u) :: x.2)) hrest

end Workspace

end TagSpacing
