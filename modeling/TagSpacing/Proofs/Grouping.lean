import Mathlib.Data.List.Induction
import TagSpacing.Proofs.History

/-! How commits are grouped into undo steps, over every run of a history. A step is begun where the
last call that took effect left none open, and the states that undo returns are those from which the
steps were begun. -/
namespace TagSpacing.History

/-- A step as a history is told of it: the state that it left, and the undo stops that it asks
for. -/
structure Commit (σ : Type) where
  original : σ
  stopBefore : Bool
  stopAfter : Bool

/-- A call of a history. Undo and redo are told the state that they lead away from. -/
inductive Call (σ : Type)
  | commit (c : Commit σ)
  | undo (current : σ)
  | redo (current : σ)

variable {σ : Type}

namespace Call

/-- Whether a call asks the next commit to join it. -/
def holdsOpen : Call σ → Bool
  | commit c => !c.stopAfter
  | undo _ | redo _ => false

/-- The state that undo or redo leads away from. -/
def current? : Call σ → Option σ
  | commit _ => none
  | undo current | redo current => some current

end Call

/-- The history after a call; undo and redo leave it alone if there is nowhere to go. -/
def step (h : History σ) : Call σ → History σ
  | .commit c => h.commit c.original c.stopBefore c.stopAfter
  | .undo current => ((h.undo current).map Prod.snd).getD h
  | .redo current => ((h.redo current).map Prod.snd).getD h

/-- The state that a call returns. -/
def result? (h : History σ) : Call σ → Option σ
  | .commit _ => none
  | .undo current => (h.undo current).map Prod.fst
  | .redo current => (h.redo current).map Prod.fst

/-- Whether a call takes effect: undo and redo do if they return a state. -/
def takesEffect (h : History σ) : Call σ → Bool
  | .commit _ => true
  | c => (h.result? c).isSome

/-- The history after some calls. -/
def run (calls : List (Call σ)) : History σ := calls.foldl step empty

/-- What the calls of a run yield, one after the other. -/
def yields {α : Type} (f : History σ → Call σ → List α) (h : History σ) : List (Call σ) → List α
  | [] => []
  | c :: calls => f h c ++ yields f (h.step c) calls

/-- The calls of a run that take effect. -/
def effective (calls : List (Call σ)) : List (Call σ) :=
  yields (fun h c => if h.takesEffect c then [c] else []) empty calls

/-- The states that the calls of a run return. -/
def returned (h : History σ) (calls : List (Call σ)) : List σ :=
  yields (fun h c => (h.result? c).toList) h calls

/-- Whether a commit behind some calls begins a step: there is none yet, or neither it nor the last
call that took effect wants it to join the step before. -/
def Begins (calls : List (Call σ)) (c : Commit σ) : Prop :=
  (run calls).undoSteps = [] ∨
    c.stopBefore = true ∧ ∀ last ∈ (effective calls).getLast?, last.holdsOpen = false

instance (calls : List (Call σ)) (c : Commit σ) : Decidable (Begins calls c) :=
  inferInstanceAs (Decidable (_ ∨ _ ∧ _))

/-- The state from which a call behind some others begins a step. -/
def begunBy (calls : List (Call σ)) : Call σ → Option σ
  | .commit c => if Begins calls c then some c.original else none
  | .undo _ | .redo _ => none

/-- The states from which `more` calls behind some others begin steps. -/
def begun (calls : List (Call σ)) : List (Call σ) → List σ
  | [] => []
  | c :: more => (begunBy calls c).toList ++ begun (calls ++ [c]) more

/-- The states that the undos and redos of a run lead away from. -/
def handed (calls : List (Call σ)) : List σ := (effective calls).filterMap Call.current?

variable {h : History σ} {calls : List (Call σ)} {c : Call σ} {s : σ}

theorem run_concat (calls : List (Call σ)) (c : Call σ) :
    run (calls ++ [c]) = (run calls).step c := by
  rw [run, List.foldl_append]
  rfl

theorem yields_concat {α : Type} (f : History σ → Call σ → List α) (h : History σ)
    (calls : List (Call σ)) (c : Call σ) :
    yields f h (calls ++ [c]) = yields f h calls ++ f (calls.foldl step h) c := by
  induction calls generalizing h with
  | nil => exact List.append_nil _
  | cons d calls ih =>
    have hrest := ih (h.step d)
    rw [List.cons_append, yields, yields, hrest, List.append_assoc]
    rfl

theorem effective_concat (calls : List (Call σ)) (c : Call σ) :
    effective (calls ++ [c]) =
      effective calls ++ if (run calls).takesEffect c then [c] else [] :=
  yields_concat _ empty calls c

theorem returned_concat (calls : List (Call σ)) (c : Call σ) :
    returned empty (calls ++ [c]) = returned empty calls ++ ((run calls).result? c).toList :=
  yields_concat _ empty calls c

theorem begun_concat (calls more : List (Call σ)) (c : Call σ) :
    begun calls (more ++ [c]) = begun calls more ++ (begunBy (calls ++ more) c).toList := by
  induction more generalizing calls with
  | nil =>
    rw [List.append_nil]
    exact List.append_nil _
  | cons d more ih =>
    have hrest := ih (calls ++ [d])
    rw [List.cons_append, begun, begun, hrest, List.append_assoc, List.append_assoc]
    rfl

/-- A call without effect changes nothing, and undo and redo leave no step open. -/
theorem joinNext_step (h : History σ) (c : Call σ) :
    (h.step c).joinNext = if h.takesEffect c then c.holdsOpen else h.joinNext := by
  cases c with
  | commit c => rfl
  | undo current =>
    cases hu : h.undoSteps <;> simp [step, takesEffect, result?, undo, hu, Call.holdsOpen]
  | redo current =>
    cases hr : h.redoSteps <;> simp [step, takesEffect, result?, redo, hr, Call.holdsOpen]

/-- Whether the next commit is to join is what the last call with effect has asked for. -/
theorem joinNext_run (calls : List (Call σ)) :
    (run calls).joinNext = (effective calls).getLast?.any Call.holdsOpen := by
  induction calls using List.reverseRecOn with
  | nil => rfl
  | append_singleton calls c ih =>
    rw [run_concat, joinNext_step, effective_concat, ih]
    by_cases hc : (run calls).takesEffect c = true
    · rw [if_pos hc, if_pos hc, List.getLast?_concat]
      rfl
    · rw [if_neg hc, if_neg hc, List.append_nil]

theorem begins_iff (calls : List (Call σ)) (c : Commit σ) :
    Begins calls c ↔
      ¬ ((c.stopBefore = false ∨ (run calls).joinNext = true) ∧ (run calls).undoSteps ≠ []) := by
  have hopen : (∀ last ∈ (effective calls).getLast?, last.holdsOpen = false) ↔
      (run calls).joinNext = false := by
    rw [joinNext_run]
    cases (effective calls).getLast? <;> simp
  rw [Begins, hopen]
  cases c.stopBefore <;> cases (run calls).joinNext <;> simp

theorem undoSteps_run_commit (calls : List (Call σ)) (c : Commit σ) :
    (run (calls ++ [.commit c])).undoSteps =
      if Begins calls c then c.original :: (run calls).undoSteps else (run calls).undoSteps := by
  have hcommit := (run calls).undoSteps_commit c.original c.stopBefore c.stopAfter
  rw [run_concat, if_congr (begins_iff calls c) rfl rfl, ite_not]
  exact hcommit

/-- Commits in a row stack up the states from which they begin steps. -/
theorem undoSteps_run_commits (calls : List (Call σ)) (commits : List (Commit σ)) :
    (run (calls ++ commits.map .commit)).undoSteps =
      (begun calls (commits.map .commit)).reverse ++ (run calls).undoSteps := by
  induction commits generalizing calls with
  | nil =>
    rw [List.map_nil, List.append_nil]
    rfl
  | cons c commits ih =>
    have hrest := ih (calls ++ [.commit c])
    rw [List.append_assoc] at hrest
    rw [List.map_cons, begun, begunBy, List.reverse_append, List.append_assoc]
    refine hrest.trans ?_
    rw [undoSteps_run_commit]
    by_cases hc : Begins calls c
    · simp [hc]
    · simp [hc]

/-- Undos in a row return the steps that are there, the latest first, and then nothing. -/
theorem returned_undos (h : History σ) (currents : List σ) :
    returned h (currents.map .undo) = h.undoSteps.take currents.length := by
  induction currents generalizing h with
  | nil => exact List.take_zero.symm
  | cons current currents ih =>
    have hrest := ih (h.step (.undo current))
    rw [List.map_cons, returned, yields, ← returned, hrest]
    cases hu : h.undoSteps with
    | nil => simp [result?, step, undo, hu]
    | cons s rest => simp [result?, step, undo, hu]

theorem handed_concat (calls : List (Call σ)) (c : Call σ) :
    handed (calls ++ [c]) =
      handed calls ++ if (run calls).takesEffect c then c.current?.toList else [] := by
  rw [handed, effective_concat, List.filterMap_append]
  by_cases hc : (run calls).takesEffect c = true
  · rw [if_pos hc, if_pos hc]
    cases c <;> rfl
  · rw [if_neg hc, if_neg hc]
    rfl

/-- The states that a history holds. -/
def held (h : History σ) : List σ := h.undoSteps ++ h.redoSteps

/-- A call moves states about; what is new was recorded by a commit, or is what undo or redo has led
away from. -/
theorem mem_held_step (hs : s ∈ ((run calls).step c).held) :
    s ∈ (run calls).held ∨ s ∈ begunBy calls c ∨
      (run calls).takesEffect c = true ∧ s ∈ c.current? := by
  cases c with
  | commit c =>
    have hundo := undoSteps_run_commit calls c
    rw [run_concat] at hundo
    have hredo : ((run calls).step (.commit c)).redoSteps = [] := rfl
    rw [held, hredo, hundo, List.append_nil] at hs
    by_cases hc : Begins calls c
    · rw [if_pos hc] at hs
      rcases List.mem_cons.mp hs with rfl | hs
      · exact Or.inr (Or.inl (if_pos hc))
      · exact Or.inl (List.mem_append_left _ hs)
    · rw [if_neg hc] at hs
      exact Or.inl (List.mem_append_left _ hs)
  | undo current =>
    cases hu : (run calls).undoSteps with
    | nil => simp_all [step, undo]
    | cons top rest =>
      simp [step, undo, hu, held, takesEffect, result?, Call.current?] at hs ⊢
      tauto
  | redo current =>
    cases hr : (run calls).redoSteps with
    | nil => simp_all [step, redo]
    | cons top rest =>
      simp [step, redo, hr, held, takesEffect, result?, Call.current?] at hs ⊢
      tauto

theorem mem_held_of_result? (hs : s ∈ h.result? c) : s ∈ h.held := by
  cases c with
  | commit c => cases hs
  | undo current =>
    cases hu : h.undoSteps with
    | nil => simp [result?, undo, hu] at hs
    | cons top rest => simp_all [result?, undo, held]
  | redo current =>
    cases hr : h.redoSteps with
    | nil => simp [result?, redo, hr] at hs
    | cons top rest => simp_all [result?, redo, held]

/-- Whether a run accounts for a state: it has begun a step from it, or has led away from it by undo
or redo. -/
def Accounts (calls : List (Call σ)) (s : σ) : Prop := s ∈ begun [] calls ∨ s ∈ handed calls

theorem Accounts.concat (hs : Accounts calls s) (c : Call σ) : Accounts (calls ++ [c]) s := by
  rw [Accounts, begun_concat, handed_concat]
  rcases hs with hs | hs
  · exact Or.inl (List.mem_append_left _ hs)
  · exact Or.inr (List.mem_append_left _ hs)

theorem accounts_of_mem_held (calls : List (Call σ)) :
    ∀ s ∈ (run calls).held, Accounts calls s := by
  induction calls using List.reverseRecOn with
  | nil =>
    intro s hs
    cases hs
  | append_singleton calls c ih =>
    intro s hs
    rw [run_concat] at hs
    rcases mem_held_step hs with hs | hs | ⟨hc, hs⟩
    · exact (ih s hs).concat c
    · left
      rw [begun_concat]
      exact List.mem_append_right _ (Option.mem_toList.mpr hs)
    · right
      rw [handed_concat, if_pos hc]
      exact List.mem_append_right _ (Option.mem_toList.mpr hs)

/-- No state comes back that the run does not account for. -/
theorem accounts_of_mem_returned (calls : List (Call σ)) :
    ∀ s ∈ returned empty calls, Accounts calls s := by
  induction calls using List.reverseRecOn with
  | nil =>
    intro s hs
    cases hs
  | append_singleton calls c ih =>
    intro s hs
    rw [returned_concat, List.mem_append] at hs
    rcases hs with hs | hs
    · exact (ih s hs).concat c
    · have hheld := mem_held_of_result? (Option.mem_toList.mp hs)
      exact (accounts_of_mem_held calls s hheld).concat c

/-- A commit begins a step where none is there, or where neither it nor the last call with effect
asks for it to join. Undos behind commits in a row return just the states from which these have
begun steps, and then those from before them. -/
theorem commits_begin_steps (calls : List (Call σ)) :
    (∀ c, (run (calls ++ [.commit c])).redoSteps = [] ∧
      (run (calls ++ [.commit c])).undoSteps =
        if Begins calls c then c.original :: (run calls).undoSteps else (run calls).undoSteps) ∧
    (∀ (commits : List (Commit σ)) (currents : List σ),
      (run (calls ++ commits.map .commit)).length =
        (run calls).length + (begun calls (commits.map .commit)).length ∧
      returned (run (calls ++ commits.map .commit)) (currents.map .undo) =
        ((begun calls (commits.map .commit)).reverse ++ (run calls).undoSteps).take
          currents.length) ∧
    ∀ s ∈ returned empty calls, s ∈ begun [] calls ∨ s ∈ handed calls := by
  refine ⟨?_, ?_, accounts_of_mem_returned calls⟩
  · intro c
    refine ⟨?_, undoSteps_run_commit calls c⟩
    rw [run_concat]
    rfl
  · intro commits currents
    constructor
    · rw [length, undoSteps_run_commits, List.length_append, List.length_reverse]
      exact Nat.add_comm _ _
    · rw [returned_undos, undoSteps_run_commits]

/-- The second of three commits joins the first, which asks for no stop after it; the step that was
left open before does not matter any more once it is undone and redone. -/
theorem commits_begin_steps_joined :
    let calls : List (Call Nat) := [.commit ⟨0, false, false⟩, .undo 1, .redo 0]
    let commits : List (Commit Nat) := [⟨1, true, false⟩, ⟨2, true, true⟩, ⟨3, true, true⟩]
    begun calls (commits.map .commit) = [1, 3] ∧
      returned (run (calls ++ commits.map .commit)) ([4, 5, 6, 7].map .undo) = [3, 1, 0] ∧
      1 ∈ returned empty calls ∧ 1 ∈ handed calls := by
  intro calls commits
  obtain ⟨_, hrun, hback⟩ := commits_begin_steps calls
  have hbegun : begun calls (commits.map .commit) = [1, 3] := by decide
  have hone : 1 ∈ returned empty calls := by decide
  have hreturned := (hrun commits [4, 5, 6, 7]).2
  rw [hbegun] at hreturned
  have hnot : 1 ∉ begun [] calls := by decide
  exact ⟨hbegun, hreturned, hone, (hback 1 hone).resolve_left hnot⟩

end TagSpacing.History
