import TagSpacing.Proofs.Selections
import TagSpacing.Proofs.Timeline

/-! A buffer always has a selection, and so has every state that can be gone back or forward to. A
command adds to the line of states only the one that it leads to, and that one has a selection if
those on the line have. -/
namespace TagSpacing.Buffer

variable {b b' : Buffer} {s : Snapshot}

theorem mem_timeline_iff :
    s ∈ b.timeline ↔
      s = b.snapshot ∨ s ∈ b.history.undoSteps ∨ s ∈ b.history.redoSteps := by
  simp only [timeline, List.mem_append, List.mem_reverse, List.mem_cons]
  tauto

theorem snapshot_mem_timeline (b : Buffer) : b.snapshot ∈ b.timeline :=
  mem_timeline_iff.mpr (Or.inl rfl)

/-- What was undone is forgotten, and the state that is left was on the line. -/
theorem mem_timeline_of_commit {before after : Bool}
    (h : b'.history = b.history.commit b.snapshot before after) (hs : s ∈ b'.timeline) :
    s = b'.snapshot ∨ s ∈ b.timeline := by
  rcases mem_timeline_iff.mp hs with hs | hs | hs
  · exact Or.inl hs
  · right
    rw [h, History.undoSteps_commit] at hs
    split at hs
    · exact mem_timeline_iff.mpr (Or.inr (Or.inl hs))
    · rcases List.mem_cons.mp hs with rfl | hs
      · exact b.snapshot_mem_timeline
      · exact mem_timeline_iff.mpr (Or.inr (Or.inl hs))
  · rw [h] at hs
    cases hs

/-- A step that moves along the line, or that cannot be taken, leaves the line as it is. -/
theorem timeline_getD_step {step : Buffer → Option Buffer} {left behind : Buffer → Nat}
    (hstep : ∀ b, left b ≠ 0 → ∃ b', step b = some b' ∧ Moved left behind 1 b b')
    (hstuck : ∀ b, left b = 0 → step b = none) (b : Buffer) :
    ((step b).getD b).timeline = b.timeline := by
  by_cases h : left b = 0
  · rw [hstuck b h]
    rfl
  · obtain ⟨b', hb', hmoved⟩ := hstep b h
    rw [hb']
    exact hmoved.timeline_eq

theorem timeline_act_undo (b : Buffer) : (b.act .undo).timeline = b.timeline := by
  refine timeline_getD_step moved_undo? ?_ b
  intro b h
  exact undo?_eq_none (List.eq_nil_of_length_eq_zero h)

theorem timeline_act_redo (b : Buffer) : (b.act .redo).timeline = b.timeline := by
  refine timeline_getD_step moved_redo? ?_ b
  intro b h
  exact redo?_eq_none (List.eq_nil_of_length_eq_zero h)

/-- A command puts no state on the line but the one that it leads to. -/
theorem mem_timeline_act {command : Command} (hs : s ∈ (b.act command).timeline) :
    s = (b.act command).snapshot ∨ s ∈ b.timeline := by
  cases command with
  | change r t =>
    have hc := b.change_eq r t
    simp only [act, hc] at hs ⊢
    exact mem_timeline_of_commit (history_of_change hc) hs
  | insert request =>
    cases h : b.insert request with
    | ok b' =>
      simp only [act, h] at hs ⊢
      exact mem_timeline_of_commit (history_of_insert h) hs
    | error e =>
      simp only [act, h] at hs ⊢
      exact Or.inr hs
  | select selections =>
    rcases mem_timeline_iff.mp hs with hs | hs
    · exact Or.inl hs
    · exact Or.inr (mem_timeline_iff.mpr (Or.inr hs))
  | undo =>
    rw [timeline_act_undo] at hs
    exact Or.inr hs
  | redo =>
    rw [timeline_act_redo] at hs
    exact Or.inr hs

theorem select_selections_ne_nil (b : Buffer) (selections : List Selection) :
    (b.select selections).selections ≠ [] := by
  rw [select]
  split
  · exact List.cons_ne_nil _ _
  · assumption

/-- Whether every state on the line of a buffer has a selection. -/
def Attended (b : Buffer) : Prop := ∀ s ∈ b.timeline, s.selections ≠ []

theorem attended_iff :
    b.Attended ↔ b.selections ≠ [] ∧ (∀ s ∈ b.history.undoSteps, s.selections ≠ []) ∧
      ∀ s ∈ b.history.redoSteps, s.selections ≠ [] := by
  simp only [Attended, mem_timeline_iff, or_imp, forall_and, forall_eq, snapshot]

theorem attended_ofText (t : Text) : (ofText t).Attended := by
  rw [attended_iff]
  exact ⟨List.cons_ne_nil _ _, List.forall_mem_nil _, List.forall_mem_nil _⟩

theorem Attended.selections_act (h : b.Attended) (command : Command) :
    (b.act command).selections ≠ [] := by
  have hnow : b.selections ≠ [] := h b.snapshot b.snapshot_mem_timeline
  cases command with
  | change r t =>
    simp only [act, b.change_eq r t]
    exact hnow
  | insert request =>
    cases hi : b.insert request with
    | ok b' =>
      obtain ⟨hd, rfl⟩ := insert_eq_ok_iff.mp hi
      simp only [act, hi]
      exact selections_inserted_ne_nil hd
    | error e =>
      simp only [act, hi]
      exact hnow
  | select selections => exact b.select_selections_ne_nil selections
  -- A move along the line ends at a state that was on it before.
  | undo =>
    have hmem := (b.act .undo).snapshot_mem_timeline
    rw [timeline_act_undo] at hmem
    exact h _ hmem
  | redo =>
    have hmem := (b.act .redo).snapshot_mem_timeline
    rw [timeline_act_redo] at hmem
    exact h _ hmem

theorem Attended.act (h : b.Attended) (command : Command) : (b.act command).Attended := by
  intro s hs
  rcases mem_timeline_act hs with rfl | hs
  · exact h.selections_act command
  · exact h s hs

theorem Attended.run (h : b.Attended) (commands : List Command) : (b.run commands).Attended := by
  induction commands generalizing b with
  | nil => exact h
  | cons command commands ih => exact ih (h.act command)

/-- Over every run there is a selection, now and in every state that was left or undone. -/
theorem selections_run_ne_nil (t : Text) (commands : List Command) :
    let b := (ofText t).run commands
    b.selections ≠ [] ∧ (∀ s ∈ b.history.undoSteps, s.selections ≠ []) ∧
      ∀ s ∈ b.history.redoSteps, s.selections ≠ [] :=
  attended_iff.mp ((attended_ofText t).run commands)

/-- No selections are asked for between an insertion and its undoing. -/
theorem selections_run_ne_nil_cleared :
    let t : Text := ['{', '{', 'a', '}', '}']
    let commands : List Command :=
      [.change (.point ⟨0, 0⟩) ['b'], .insert ⟨.double, [.between ⟨0, 3⟩ ⟨0, 4⟩], by simp, {}⟩,
        .select [], .undo]
    ∃ b, (ofText t).run commands = b ∧ b.selections ≠ [] ∧
      ∃ s s', b.history.undoSteps = [s] ∧ s.text = t ∧ s.selections ≠ [] ∧
        b.history.redoSteps = [s'] ∧ s'.text = ['b', '{', '{', ' ', 'a', ' ', '}', '}'] ∧
        s'.selections ≠ [] := by
  intro t commands
  obtain ⟨b, hb⟩ : ∃ b, (ofText t).run commands = b := ⟨_, rfl⟩
  have hundo : b.history.undoSteps = [⟨t, [.caret .zero]⟩] := by
    rw [← hb]
    cbv
  have hredo : b.history.redoSteps =
      [⟨['b', '{', '{', ' ', 'a', ' ', '}', '}'], [.caret .zero]⟩] := by
    rw [← hb]
    cbv
  have hruns := selections_run_ne_nil t commands
  simp only [hb] at hruns
  obtain ⟨hnow, hleft, hundone⟩ := hruns
  rw [hundo] at hleft
  rw [hredo] at hundone
  exact ⟨b, hb, hnow, _, _, hundo, rfl, hleft _ List.mem_cons_self, hredo, rfl,
    hundone _ List.mem_cons_self⟩

end TagSpacing.Buffer
