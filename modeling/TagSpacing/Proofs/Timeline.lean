import TagSpacing.Proofs.Change
import TagSpacing.Proofs.History
import TagSpacing.Proofs.Insertion

/-! Undo and redo as moves along one line of states. Edits cut off what lies ahead, moves keep the
whole line, and nothing ever touches its oldest text. -/
namespace TagSpacing.Buffer

/-- What can be done to an open buffer. -/
inductive Command
  | change (r : Range) (t : Text)
  | insert (request : Request)
  | select (selections : List Selection)
  | undo
  | redo

/-- The buffer after a command. One that is refused, or that has nothing to do, leaves it alone. -/
def act (b : Buffer) : Command → Buffer
  | .change r t =>
    match b.change r t with
    | .ok (b', _) => b'
    | .error _ => b
  | .insert request =>
    match b.insert request with
    | .ok b' => b'
    | .error _ => b
  | .select selections => b.select selections
  | .undo => b.undo?.getD b
  | .redo => b.redo?.getD b

/-- The buffer after some commands. -/
def run (b : Buffer) (commands : List Command) : Buffer := commands.foldl act b

/-- A step that is taken so many times in a row, if it can be. -/
def times (step : Buffer → Option Buffer) : Nat → Buffer → Option Buffer
  | 0, b => some b
  | n + 1, b => (step b).bind (times step n)

/-- The states that can be gone to, with the one that the buffer is in, the latest first. -/
def timeline (b : Buffer) : List Snapshot :=
  b.history.redoSteps.reverse ++ b.snapshot :: b.history.undoSteps

/-- The state that undoing everything leads back to. -/
def oldest (b : Buffer) : Snapshot := b.history.undoSteps.getLast?.getD b.snapshot

variable {b b' : Buffer} {r : Range} {t : Text} {c : Change} {request : Request} {s : Snapshot}
  {rest : List Snapshot}

theorem history_of_change (h : b.change r t = .ok (b', c)) :
    b'.history = b.history.commit b.snapshot true true := by
  rw [change_eq] at h
  cases h
  rfl

theorem history_of_insert (h : b.insert request = .ok b') :
    b'.history =
      b.history.commit b.snapshot request.options.undoStopBefore request.options.undoStopAfter := by
  obtain ⟨_, rfl⟩ := insert_eq_ok_iff.mp h
  rfl

theorem undo?_eq_some (h : b.history.undoSteps = s :: rest) :
    b.undo? = some ⟨s.text, s.selections, ⟨rest, b.snapshot :: b.history.redoSteps, false⟩⟩ := by
  simp [undo?, History.undo, h]

theorem undo?_eq_none (h : b.history.undoSteps = []) : b.undo? = none := by
  simp [undo?, History.undo, h]

theorem redo?_eq_some (h : b.history.redoSteps = s :: rest) :
    b.redo? = some ⟨s.text, s.selections, ⟨b.snapshot :: b.history.undoSteps, rest, false⟩⟩ := by
  simp [redo?, History.redo, h]

theorem redo?_eq_none (h : b.history.redoSteps = []) : b.redo? = none := by
  simp [redo?, History.redo, h]

theorem redo?_of_commit {before after : Bool}
    (h : b'.history = b.history.commit b.snapshot before after) : b'.redo? = none := by
  apply redo?_eq_none
  rw [h]
  rfl

/-- An edit records the state that it starts from, or leaves an older one to stand for it. -/
theorem oldest_of_commit {before after : Bool}
    (h : b'.history = b.history.commit b.snapshot before after) : b'.oldest = b.oldest := by
  rw [oldest, h, History.undoSteps_commit]
  split
  · rename_i hjoin
    rw [oldest, List.getLast?_eq_some_getLast hjoin.2]
    rfl
  · rw [List.getLast?_cons]
    rfl

theorem oldest_text_select (b : Buffer) (selections : List Selection) :
    (b.select selections).oldest.text = b.oldest.text := by
  change (b.history.undoSteps.getLast?.getD _).text = (b.history.undoSteps.getLast?.getD _).text
  cases b.history.undoSteps.getLast? with
  | none => rfl
  | some s => rfl

theorem oldest_of_undo? (h : b.undo? = some b') : b'.oldest = b.oldest := by
  cases hu : b.history.undoSteps with
  | nil =>
    rw [undo?_eq_none hu] at h
    cases h
  | cons s rest =>
    rw [undo?_eq_some hu] at h
    cases h
    rw [oldest, oldest, hu, List.getLast?_cons]
    rfl

theorem oldest_of_redo? (h : b.redo? = some b') : b'.oldest = b.oldest := by
  cases hr : b.history.redoSteps with
  | nil =>
    rw [redo?_eq_none hr] at h
    cases h
  | cons s rest =>
    rw [redo?_eq_some hr] at h
    cases h
    rw [oldest, oldest, List.getLast?_cons]
    rfl

/-- No command changes the text that undoing everything leads back to. -/
theorem oldest_text_act (b : Buffer) (command : Command) :
    (b.act command).oldest.text = b.oldest.text := by
  cases command with
  | change r t =>
    have hc := b.change_eq r t
    rw [act, hc]
    exact congrArg Snapshot.text (oldest_of_commit (history_of_change hc))
  | insert request =>
    rw [act]
    split
    · rename_i h
      rw [oldest_of_commit (history_of_insert h)]
    · rfl
  | select selections => exact oldest_text_select b selections
  | undo =>
    rw [act]
    cases h : b.undo? with
    | none => rfl
    | some b' => exact congrArg Snapshot.text (oldest_of_undo? h)
  | redo =>
    rw [act]
    cases h : b.redo? with
    | none => rfl
    | some b' => exact congrArg Snapshot.text (oldest_of_redo? h)

theorem oldest_text_run (b : Buffer) (commands : List Command) :
    (b.run commands).oldest.text = b.oldest.text := by
  induction commands generalizing b with
  | nil => rfl
  | cons command commands ih => exact (ih (b.act command)).trans (oldest_text_act b command)

/-- Whether one buffer lies `n` moves along the line from another, in the direction in which `left`
counts the moves that remain and `behind` those that were made. -/
structure Moved (left behind : Buffer → Nat) (n : Nat) (b b' : Buffer) : Prop where
  timeline_eq : b'.timeline = b.timeline
  oldest_eq : b'.oldest = b.oldest
  left_add : left b' + n = left b
  behind_eq : behind b' = behind b + n

/-- Steps that move by one can be taken as long as any remain. -/
theorem times_eq_some {step : Buffer → Option Buffer} {left behind : Buffer → Nat}
    (hstep : ∀ b, left b ≠ 0 → ∃ b', step b = some b' ∧ Moved left behind 1 b b') {n : Nat}
    (hn : n ≤ left b) : ∃ b', times step n b = some b' ∧ Moved left behind n b b' := by
  induction n generalizing b with
  | zero => exact ⟨b, rfl, rfl, rfl, rfl, rfl⟩
  | succ n ih =>
    obtain ⟨b₁, hb₁, ht₁, ho₁, hl₁, hr₁⟩ := hstep b (by omega)
    obtain ⟨b₂, hb₂, ht₂, ho₂, hl₂, hr₂⟩ := ih (b := b₁) (by omega)
    refine ⟨b₂, ?_, ht₂.trans ht₁, ho₂.trans ho₁, by omega, by omega⟩
    rw [times, hb₁]
    exact hb₂

/-- Number of steps that were undone. -/
def undone (b : Buffer) : Nat := b.history.redoSteps.length

theorem moved_undo? (b : Buffer) (h : b.history.length ≠ 0) :
    ∃ b', b.undo? = some b' ∧ Moved (·.history.length) undone 1 b b' := by
  cases hu : b.history.undoSteps with
  | nil => exact (h (congrArg List.length hu)).elim
  | cons s rest =>
    have hb := undo?_eq_some hu
    refine ⟨_, hb, ?_, oldest_of_undo? hb, ?_, rfl⟩
    · simp [timeline, snapshot, hu]
    · simp [History.length, hu]

theorem moved_redo? (b : Buffer) (h : b.undone ≠ 0) :
    ∃ b', b.redo? = some b' ∧ Moved undone (·.history.length) 1 b b' := by
  cases hr : b.history.redoSteps with
  | nil => exact (h (congrArg List.length hr)).elim
  | cons s rest =>
    have hb := redo?_eq_some hr
    refine ⟨_, hb, ?_, oldest_of_redo? hb, ?_, rfl⟩
    · simp [timeline, snapshot, hr]
    · simp [undone, hr]

/-- Two buffers at the same place of the same line agree in all but whether the next step joins. -/
theorem eq_of_timeline_eq (ht : b'.timeline = b.timeline) (hn : b'.undone = b.undone) :
    b'.text = b.text ∧ b'.selections = b.selections ∧
      b'.history.undoSteps = b.history.undoSteps ∧ b'.history.redoSteps = b.history.redoSteps := by
  have hlen : b'.history.redoSteps.reverse.length = b.history.redoSteps.reverse.length := by
    rw [List.length_reverse, List.length_reverse]
    exact hn
  obtain ⟨hredo, hrest⟩ := List.append_inj ht hlen
  obtain ⟨hnow, hundo⟩ := List.cons.inj hrest
  exact ⟨congrArg Snapshot.text hnow, congrArg Snapshot.selections hnow, hundo,
    List.reverse_inj.mp hredo⟩

/-- Moves to and fro along the line end where they began. -/
theorem times_times_eq_some {step back : Buffer → Option Buffer} {left behind : Buffer → Nat}
    (hstep : ∀ b, left b ≠ 0 → ∃ b', step b = some b' ∧ Moved left behind 1 b b')
    (hback : ∀ b, behind b ≠ 0 → ∃ b', back b = some b' ∧ Moved behind left 1 b b') {k : Nat}
    (hk : k ≤ left b) :
    ∃ b₁ b₂, times step k b = some b₁ ∧ times back k b₁ = some b₂ ∧
      b₂.timeline = b.timeline ∧ left b₂ = left b ∧ behind b₂ = behind b := by
  obtain ⟨b₁, hb₁, ht₁, _, hl₁, hr₁⟩ := times_eq_some hstep hk
  obtain ⟨b₂, hb₂, ht₂, _, hl₂, hr₂⟩ := times_eq_some hback (n := k) (b := b₁) (by omega)
  exact ⟨b₁, b₂, hb₁, hb₂, ht₂.trans ht₁, by omega, by omega⟩

theorem undo_all (b : Buffer) :
    ∃ b', times undo? b.history.length b = some b' ∧ b'.undo? = none ∧
      b'.text = b.oldest.text := by
  obtain ⟨b', hb', _, holdest, hleft, _⟩ := times_eq_some moved_undo? (Nat.le_refl b.history.length)
  have hnil : b'.history.undoSteps = [] := List.eq_nil_of_length_eq_zero (by
    have : b'.history.undoSteps.length = b'.history.length := rfl
    omega)
  refine ⟨b', hb', undo?_eq_none hnil, ?_⟩
  rw [← holdest, oldest, hnil]
  rfl

/-- Over every run, undoing as often as there are undo steps, and no more often, leads back to the
text that was opened; undoing and redoing equally often, either way round, changes nothing; and
behind an edit there is nothing to redo. -/
theorem undo_redo_run (t : Text) (commands : List Command) :
    let b := (ofText t).run commands
    (∃ b', times undo? b.history.length b = some b' ∧ b'.undo? = none ∧ b'.text = t) ∧
    (∀ k ≤ b.history.length, ∃ b₁ b₂, times undo? k b = some b₁ ∧
      times redo? k b₁ = some b₂ ∧ b₂.text = b.text ∧ b₂.selections = b.selections ∧
      b₂.history.undoSteps = b.history.undoSteps ∧ b₂.history.redoSteps = b.history.redoSteps) ∧
    (∀ k ≤ b.history.redoSteps.length, ∃ b₁ b₂, times redo? k b = some b₁ ∧
      times undo? k b₁ = some b₂ ∧ b₂.text = b.text ∧ b₂.selections = b.selections ∧
      b₂.history.undoSteps = b.history.undoSteps ∧ b₂.history.redoSteps = b.history.redoSteps) ∧
    (∀ r u b' c, b.change r u = .ok (b', c) → b'.redo? = none ∧ b'.act .redo = b') ∧
    ∀ request b', b.insert request = .ok b' → b'.redo? = none ∧ b'.act .redo = b' := by
  intro b
  refine ⟨?_, ?_, ?_, ?_, ?_⟩
  · obtain ⟨b', hb', hnone, htext⟩ := undo_all b
    exact ⟨b', hb', hnone, htext.trans (oldest_text_run (ofText t) commands)⟩
  · intro k hk
    obtain ⟨b₁, b₂, h₁, h₂, ht, _, hn⟩ := times_times_eq_some moved_undo? moved_redo? hk
    exact ⟨b₁, b₂, h₁, h₂, eq_of_timeline_eq ht hn⟩
  · intro k hk
    obtain ⟨b₁, b₂, h₁, h₂, ht, hn, _⟩ := times_times_eq_some moved_redo? moved_undo? hk
    exact ⟨b₁, b₂, h₁, h₂, eq_of_timeline_eq ht hn⟩
  · intro r u b' c h
    have hnone := redo?_of_commit (history_of_change h)
    exact ⟨hnone, by rw [act, hnone]; rfl⟩
  · intro request b' h
    have hnone := redo?_of_commit (history_of_insert h)
    exact ⟨hnone, by rw [act, hnone]; rfl⟩

theorem undo_redo_run_joined :
    let t : Text := ['{', 'a', '}', '}']
    let commands : List Command :=
      [.change (.point ⟨0, 1⟩) ['{'], .insert ⟨.double, [.between ⟨0, 2⟩ ⟨0, 3⟩], by simp, ⟨false, true⟩⟩,
        .select [], .change (.point ⟨0, 0⟩) ['b'], .undo]
    ∃ b, (ofText t).run commands = b ∧ b.text = ['{', '{', ' ', 'a', ' ', '}', '}'] ∧
      (∃ b', times undo? 1 b = some b' ∧ b'.undo? = none ∧ b'.text = t) ∧
      ∃ b₁ b₂, times redo? 1 b = some b₁ ∧ times undo? 1 b₁ = some b₂ ∧ b₂.text = b.text := by
  intro t commands
  obtain ⟨b, hb⟩ : ∃ b, (ofText t).run commands = b := ⟨_, rfl⟩
  have htext : b.text = ['{', '{', ' ', 'a', ' ', '}', '}'] := by
    rw [← hb]
    cbv
  have hundo : b.history.length = 1 := by
    rw [← hb]
    cbv
  have hredo : b.history.redoSteps.length = 1 := by
    rw [← hb]
    cbv
  have hruns := undo_redo_run t commands
  simp only [hb] at hruns
  obtain ⟨hall, _, hto, _⟩ := hruns
  obtain ⟨b₁, b₂, h₁, h₂, hsame, _⟩ := hto 1 (Nat.le_of_eq hredo.symm)
  rw [hundo] at hall
  exact ⟨b, hb, htext, hall, b₁, b₂, h₁, h₂, hsame⟩

end TagSpacing.Buffer
