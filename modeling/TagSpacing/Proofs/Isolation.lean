import TagSpacing.Proofs.Space
import TagSpacing.Proofs.Timeline

/-! Several buffers open at once. What is done to a workspace is done to the buffer with focus, and
depends on no other buffer, so that each ends as if it had been the only one. -/
namespace TagSpacing.Workspace

/-- What can be done to the buffer with focus. -/
inductive Action
  /-- Edits and the reaction to them. -/
  | type (edits : List (Range × Text))
  | notify (changes : List Change)
  | space
  | command (c : Buffer.Command)

inductive Step
  | openBuffer (b : Buffer)
  | focus (index : Option Nat)
  | act (a : Action)

def Step.opened? : Step → Option Buffer
  | openBuffer b => some b
  | focus _ | act _ => none

def Step.action? : Step → Option Action
  | act a => some a
  | openBuffer _ | focus _ => none

/-- The workspace after an action; without a buffer in focus nothing happens. -/
def perform (config : Config) (w : Workspace) : Action → Workspace
  | .type edits => (w.type config edits).1
  | .notify changes => (config.notify w changes).1
  | .space => (config.space w).1
  | .command c =>
    match w.active? with
    | some b => w.setActive (b.act c)
    | none => w

def step (config : Config) (w : Workspace) : Step → Workspace
  | .openBuffer b => w.openBuffer b
  | .focus index => w.focus index
  | .act a => w.perform config a

/-- The workspace after some steps. -/
def run (config : Config) (steps : List Step) : Workspace := steps.foldl (step config) empty

/-- The buffers that some steps open, in the order of their numbers. -/
def opened (steps : List Step) : List Buffer := steps.filterMap Step.opened?

/-- The actions of some steps that are taken while the buffer with number `i` has focus. -/
def issued (config : Config) (i : Nat) (w : Workspace) : List Step → List Action
  | [] => []
  | s :: steps =>
    (if w.active = some i then s.action?.toList else []) ++ issued config i (w.step config s) steps

/-- The workspace with a single buffer. -/
def alone (b : Buffer) : Workspace := ⟨[b], some 0⟩

variable {α β : Type} {config : Config} {w : Workspace} {b b' : Buffer} {a : Action} {i : Nat}

theorem setActive_of_active? (h : w.active? = some b) : w.setActive b = w := by
  obtain ⟨j, hj, hb⟩ := active?_eq_some_iff.mp h
  obtain ⟨hlt, hb⟩ := List.getElem?_eq_some_iff.mp hb
  rw [setActive, hj]
  simp only [← hb, List.set_getElem_self]
  rw [← hj]

theorem setActive_setActive (w : Workspace) (b b' : Buffer) :
    (w.setActive b).setActive b' = w.setActive b' := by
  cases hw : w.active with
  | none => simp only [setActive, hw]
  | some j => simp only [setActive, hw, List.set_set]

/-- Whether a function reads and replaces the buffer with focus and nothing else: what it makes of
that buffer, and what it answers, is the same in every workspace. -/
structure Local (f : Workspace → Workspace × α) : Prop where
  idle : ∃ a, ∀ w, w.active? = none → f w = (w, a)
  acts : ∀ b, ∃ b' a, ∀ w, w.active? = some b → f w = (w.setActive b', a)

namespace Local

variable {f : Workspace → Workspace × α} {g : α → Workspace → Workspace × β}

theorem pure (a : α) : Local fun w => (w, a) where
  idle := ⟨a, fun _ _ => rfl⟩
  acts b := by
    refine ⟨b, a, fun w hw => ?_⟩
    rw [setActive_of_active? hw]

theorem bind (hf : Local f) (hg : ∀ a, Local (g a)) : Local fun w => g (f w).2 (f w).1 where
  idle := by
    obtain ⟨a, ha⟩ := hf.idle
    obtain ⟨c, hc⟩ := (hg a).idle
    refine ⟨c, fun w hw => ?_⟩
    rw [ha w hw]
    exact hc w hw
  acts b := by
    obtain ⟨b₁, a, ha⟩ := hf.acts b
    obtain ⟨b₂, c, hc⟩ := (hg a).acts b₁
    refine ⟨b₂, c, fun w hw => ?_⟩
    rw [ha w hw]
    exact (hc _ (active?_setActive hw b₁)).trans (by rw [setActive_setActive])

theorem map (hf : Local f) (k : α → β) : Local fun w => ((f w).1, k (f w).2) :=
  hf.bind fun a => pure (k a)

theorem space (config : Config) : Local (config.space : Workspace → Workspace × Outcome) where
  idle := ⟨.idle, fun _ hw => space_of_active?_eq_none hw⟩
  acts b := by
    cases hp : config.plan b.text b.selections with
    | none =>
      refine ⟨b, .idle, fun w hw => ?_⟩
      rw [space_of_plan_eq_none hw hp, setActive_of_active? hw]
    | some request =>
      cases hi : b.insert request with
      | ok b' =>
        refine ⟨b', .expanded, fun w hw => ?_⟩
        rw [space_of_plan_eq_some hw hp, hi]
      | error e =>
        refine ⟨b, .refused request.tag e, fun w hw => ?_⟩
        rw [space_of_plan_eq_some hw hp, hi, setActive_of_active? hw]

theorem spaceTimes (config : Config) (n : Nat) :
    Local fun w : Workspace => config.spaceTimes w n := by
  induction n with
  | zero => exact pure []
  | succ n ih => exact (space config).bind fun outcome => ih.map (outcome :: ·)

theorem notify (config : Config) (changes : List Change) :
    Local fun w : Workspace => config.notify w changes :=
  spaceTimes config _

theorem edit (edits : List (Range × Text)) : Local fun w => w.edit edits := by
  induction edits with
  | nil => exact pure []
  | cons e edits ih =>
    obtain ⟨r, t⟩ := e
    constructor
    · refine ⟨[], fun w hw => ?_⟩
      rw [Workspace.edit, hw]
    · intro b
      obtain ⟨b₁, reports, hrest⟩ := ih.acts (b.changed r t)
      refine ⟨b₁, .ok (b.report r t) :: reports, fun w hw => ?_⟩
      rw [edit_cons_of_change hw (b.change_eq r t), hrest _ (active?_setActive hw _),
        setActive_setActive]

theorem type (config : Config) (edits : List (Range × Text)) : Local fun w => w.type config edits :=
  (edit edits).bind fun reports =>
    (notify config (reports.filterMap Except.toOption)).map fun outcomes => (reports, outcomes)

theorem perform (config : Config) (a : Action) : Local fun w => (w.perform config a, ()) := by
  cases a with
  | type edits => exact (type config edits).map fun _ => ()
  | notify changes => exact (notify config changes).map fun _ => ()
  | space => exact (space config).map fun _ => ()
  | command c =>
    constructor
    · refine ⟨(), fun w hw => ?_⟩
      simp only [Workspace.perform, hw]
    · intro b
      refine ⟨b.act c, (), fun w hw => ?_⟩
      simp only [Workspace.perform, hw]

end Local

theorem perform_of_active?_eq_none (config : Config) (a : Action) (h : w.active? = none) :
    w.perform config a = w := by
  obtain ⟨_, hidle⟩ := (Local.perform config a).idle
  exact congrArg Prod.fst (hidle w h)

/-- An action makes the same of a buffer in every workspace in which the buffer has focus. -/
theorem exists_perform_eq (config : Config) (a : Action) (b : Buffer) :
    ∃ b', ∀ w : Workspace, w.active? = some b → w.perform config a = w.setActive b' := by
  obtain ⟨b', _, hacts⟩ := (Local.perform config a).acts b
  exact ⟨b', fun w hw => congrArg Prod.fst (hacts w hw)⟩

theorem perform_eq (config : Config) (w : Workspace) (a : Action) :
    w.perform config a = w ∨ ∃ b, w.perform config a = w.setActive b := by
  cases hw : w.active? with
  | none => exact Or.inl (perform_of_active?_eq_none config a hw)
  | some b =>
    obtain ⟨b', hb'⟩ := exists_perform_eq config a b
    exact Or.inr ⟨b', hb' w hw⟩

theorem active_perform (config : Config) (w : Workspace) (a : Action) :
    (w.perform config a).active = w.active := by
  rcases perform_eq config w a with h | ⟨b, h⟩
  · rw [h]
  · rw [h, active_setActive]

theorem length_buffers_perform (config : Config) (w : Workspace) (a : Action) :
    (w.perform config a).buffers.length = w.buffers.length := by
  rcases perform_eq config w a with h | ⟨b, h⟩
  · rw [h]
  · rw [h, length_buffers_setActive]

theorem getElem?_perform_of_ne (config : Config) (a : Action) (hi : w.active ≠ some i) :
    (w.perform config a).buffers[i]? = w.buffers[i]? := by
  rcases perform_eq config w a with h | ⟨b, h⟩
  · rw [h]
  · rw [h, getElem?_setActive_of_ne b hi]

/-- Whether the number of the buffer with focus, if there is one, is that of a buffer. -/
def Focused (w : Workspace) : Prop := ∀ i ∈ w.active, i < w.buffers.length

theorem Focused.step (hw : w.Focused) (config : Config) (s : Step) : (w.step config s).Focused := by
  intro i hi
  cases s with
  | openBuffer b =>
    obtain rfl : w.buffers.length = i := Option.some.inj hi
    simp [Workspace.step, openBuffer]
  | focus index =>
    exact of_decide_eq_true (Option.filter_eq_some_iff.mp hi).2
  | act a =>
    rw [Workspace.step, active_perform] at hi
    rw [Workspace.step, length_buffers_perform]
    exact hw i hi

theorem focused_run (config : Config) (steps : List Step) : (run config steps).Focused := by
  induction steps using List.reverseRecOn with
  | nil =>
    intro i hi
    cases hi
  | append_singleton steps s ih =>
    rw [run, List.foldl_append]
    exact ih.step config s

theorem issued_cons_of_action?_eq_none {s : Step} (hs : s.action? = none) (config : Config) (i : Nat)
    (w : Workspace) (steps : List Step) :
    issued config i w (s :: steps) = issued config i (w.step config s) steps := by
  rw [issued, hs]
  split <;> rfl

/-- From any workspace on, the buffers that are there and those that are still opened end as if each
had been alone with its actions. -/
theorem getElem?_foldl_step (hw : w.Focused) (steps : List Step)
    (hb : (w.buffers ++ opened steps)[i]? = some b) :
    ∃ b', (steps.foldl (step config) w).buffers[i]? = some b' ∧
      (issued config i w steps).foldl (perform config) (alone b) = alone b' := by
  induction steps generalizing w b with
  | nil =>
    refine ⟨b, ?_, rfl⟩
    rwa [opened, List.filterMap_nil, List.append_nil] at hb
  | cons s steps ih =>
    have hnext := hw.step config s
    cases s with
    | openBuffer c =>
      rw [issued_cons_of_action?_eq_none rfl]
      refine ih hnext ?_
      rw [step, openBuffer, List.append_assoc]
      exact hb
    | focus index =>
      rw [issued_cons_of_action?_eq_none rfl]
      exact ih hnext hb
    | act a =>
      change (w.buffers ++ opened steps)[i]? = some b at hb
      have hlen := length_buffers_perform config w a
      by_cases hi : w.active = some i
      · have hlt : i < w.buffers.length := hw i hi
        rw [List.getElem?_append_left hlt] at hb
        obtain ⟨b₁, hb₁⟩ := exists_perform_eq config a b
        have hperform : w.perform config a = w.setActive b₁ :=
          hb₁ w (active?_eq_some_iff.mpr ⟨i, hi, hb⟩)
        have halone : (alone b).perform config a = alone b₁ := hb₁ (alone b) rfl
        have hissued : issued config i w (.act a :: steps) =
            a :: issued config i (w.perform config a) steps := by
          rw [issued, if_pos hi]
          rfl
        rw [hissued, List.foldl_cons, List.foldl_cons, halone]
        refine ih hnext ?_
        rw [step, List.getElem?_append_left (hlen ▸ hlt), hperform]
        exact getElem?_setActive_self hi hlt b₁
      · have hissued : issued config i w (.act a :: steps) =
            issued config i (w.perform config a) steps := by
          rw [issued, if_neg hi]
          rfl
        rw [hissued]
        refine ih hnext ?_
        rw [List.getElem?_append] at hb ⊢
        rwa [step, hlen, getElem?_perform_of_ne config a hi]

theorem length_buffers_foldl_step (config : Config) (w : Workspace) (steps : List Step) :
    (steps.foldl (step config) w).buffers.length = w.buffers.length + (opened steps).length := by
  induction steps generalizing w with
  | nil => rfl
  | cons s steps ih =>
    rw [List.foldl_cons, ih]
    cases s with
    | openBuffer b =>
      simp [step, openBuffer, opened, Step.opened?]
      omega
    | focus index => rfl
    | act a =>
      rw [step, length_buffers_perform]
      rfl

theorem run_openBuffer_cons (config : Config) (b : Buffer) (actions : List Action) :
    run config (.openBuffer b :: actions.map .act) = actions.foldl (perform config) (alone b) := by
  rw [run, List.foldl_cons, List.foldl_map]
  rfl

/-- The buffer with focus is always one that is open, and every buffer ends as in a workspace in
which no other was ever opened and in which just the actions were taken for which it had focus. -/
theorem run_alone (config : Config) (steps : List Step) :
    (∀ i, (run config steps).active = some i → i < (run config steps).buffers.length) ∧
    (run config steps).buffers.length = (opened steps).length ∧
    ∀ i b, (opened steps)[i]? = some b →
      ∃ b', (run config steps).buffers[i]? = some b' ∧
        run config (.openBuffer b :: (issued config i empty steps).map .act) = ⟨[b'], some 0⟩ := by
  refine ⟨focused_run config steps, ?_, ?_⟩
  · exact (length_buffers_foldl_step config empty steps).trans (Nat.zero_add _)
  · intro i b hb
    have hempty : empty.Focused := fun _ h => nomatch h
    obtain ⟨b', hrun, halone⟩ := getElem?_foldl_step hempty steps hb
    exact ⟨b', hrun, (run_openBuffer_cons config b _).trans halone⟩

/-- The focus goes to and fro, and for the undo there is none. -/
theorem run_alone_two_buffers :
    let b : Buffer := ⟨['{', '{', 'a', '}', '}'], [⟨⟨0, 1⟩, ⟨0, 2⟩⟩], .empty⟩
    let steps : List Step :=
      [.openBuffer b, .openBuffer (.ofText ['b']), .act (.type [(.point ⟨0, 0⟩, ['{'])]),
        .focus (some 0), .act .space, .focus (some 7), .act (.command .undo), .focus (some 1),
        .act (.command .undo), .focus (some 0), .act (.command (.select []))]
    (opened steps)[0]? = some b ∧
      ∃ b', (run {} steps).buffers[0]? = some b' ∧ b'.text = ['{', '{', ' ', 'a', ' ', '}', '}'] ∧
        run {} [.openBuffer b, .act .space, .act (.command (.select []))] = ⟨[b'], some 0⟩ := by
  intro b steps
  have hb : (opened steps)[0]? = some b := rfl
  have hissued : issued {} 0 empty steps = [.space, .command (.select [])] := by cbv
  obtain ⟨b', hrun, halone⟩ := (run_alone {} steps).2.2 0 b hb
  rw [hissued] at halone
  have htext : (run {} [.openBuffer b, .act .space, .act (.command (.select []))]).buffers.map
      Buffer.text = [['{', '{', ' ', 'a', ' ', '}', '}']] := by cbv
  refine ⟨hb, b', hrun, ?_, halone⟩
  rw [List.map_cons, List.map_cons, List.map_nil] at halone
  rw [halone] at htext
  exact List.singleton_inj.mp htext

end TagSpacing.Workspace
