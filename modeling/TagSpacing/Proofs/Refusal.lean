import TagSpacing.Proofs.Insertion

/-! When an insertion is refused, and what it has changed by then if it works in place. -/
namespace TagSpacing

namespace Buffer

variable {b : Buffer} {request : Request}

/-- A program on a buffer. One that fails leaves whatever it had changed by then. -/
abbrev Program := ExceptT InsertError (StateM Buffer)

namespace Program

variable {α β : Type} {m : Program α} {f : α → Program β} {a : α} {e : InsertError} {b b' : Buffer}

/-- What a program gives when it starts on a buffer, and the buffer that it leaves. -/
def exec (m : Program α) (b : Buffer) : Except InsertError α × Buffer := m.run.run b

theorem exec_bind_of_ok (h : m.exec b = (.ok a, b')) : (m >>= f).exec b = (f a).exec b' := by
  rw [exec] at h
  rw [exec, ExceptT.run_bind, StateT.run_bind, h]
  rfl

theorem exec_bind_of_error (h : m.exec b = (.error e, b')) : (m >>= f).exec b = (.error e, b') := by
  rw [exec] at h
  rw [exec, ExceptT.run_bind, StateT.run_bind, h]
  rfl

theorem exec_get (b : Buffer) : exec get b = (.ok b, b) := rfl

theorem exec_ofExcept (x : Except InsertError α) (b : Buffer) : exec (ofExcept x) b = (x, b) := by
  cases x <;> rfl

end Program

open Program

/-- Replaces all ranges of a request by its template: first the text changes, then the selections,
and last the history. -/
def insertInPlace (request : Request) : Program Unit := do
  let s ← ofExcept ((Snippet.parse request.tag.template.toList).mapError .snippet)
  let original ← get
  let insertions := Insertion.sort (insertions original.text s request.ranges)
  let edits := insertions.map Insertion.edit
  let cs ← ofExcept ((ChangeSet.ofEdits original.text.length edits).mapError .edit)
  let text ← ofExcept ((cs.apply original.text).mapError .edit)
  modify fun b => { b with text := text }
  modify fun b => { b with selections := Insertion.selections b.text 0 0 insertions }
  modify fun b => { b with
    history := b.history.commit original.snapshot request.options.undoStopBefore
      request.options.undoStopAfter }

/-- The program does what `insert` says, and a refused insertion has changed nothing. -/
theorem exec_insertInPlace (b : Buffer) (request : Request) :
    (insertInPlace request).exec b =
      match b.insert request with
      | .ok b' => (.ok (), b')
      | .error e => (.error e, b) := by
  unfold insertInPlace insert
  cases Snippet.parse request.tag.template.toList with
  | error e => exact exec_bind_of_error rfl
  | ok s =>
    refine (exec_bind_of_ok (a := s) (exec_ofExcept _ b)).trans ?_
    refine (exec_bind_of_ok (exec_get b)).trans ?_
    simp only
    generalize Insertion.sort (insertions b.text s request.ranges) = sorted
    cases h : ChangeSet.ofEdits b.text.length (sorted.map Insertion.edit) with
    | error e =>
      rw [Text.edit_of_ofEdits_error h]
      exact exec_bind_of_error (exec_ofExcept _ b)
    | ok cs =>
      rw [Text.edit_of_ofEdits_ok h]
      refine (exec_bind_of_ok (a := cs) (exec_ofExcept _ b)).trans ?_
      cases cs.apply b.text with
      | error e => exact exec_bind_of_error (exec_ofExcept _ b)
      | ok text => exact exec_bind_of_ok (a := text) (exec_ofExcept _ b)

theorem not_disjoint_iff :
    ¬ b.Disjoint request ↔
      ∃ (i j : Nat) (hi : i < request.ranges.length) (hj : j < request.ranges.length), i ≠ j ∧
        (b.text.clampRange request.ranges[i]).overlaps
          (b.text.clampRange request.ranges[j]) = true := by
  rw [Disjoint, List.pairwise_iff_getElem]
  constructor
  · intro h
    simp only [not_forall, Bool.not_eq_false] at h
    obtain ⟨i, j, hi, hj, hij, hover⟩ := h
    exact ⟨i, j, hi, hj, Nat.ne_of_lt hij, hover⟩
  · rintro ⟨i, j, hi, hj, hne, hover⟩ h
    rcases Nat.lt_or_gt_of_ne hne with hij | hji
    · rw [h i j hi hj hij] at hover
      cases hover
    · rw [Text.overlaps_clampRange_iff] at hover
      have hover' := (Text.overlaps_clampRange_iff b.text _ _).mpr hover.symm
      rw [h j i hj hi hji] at hover'
      cases hover'

/-- An insertion is refused just when two of its ranges overlap, and says so. Nothing of the buffer
has changed then, even if it is changed in place. -/
theorem insert_refused_iff_overlap (b : Buffer) (request : Request) :
    ((∃ e, b.insert request = .error e) ↔
      ∃ (i j : Nat) (hi : i < request.ranges.length) (hj : j < request.ranges.length), i ≠ j ∧
        (b.text.clampRange request.ranges[i]).overlaps
          (b.text.clampRange request.ranges[j]) = true) ∧
    ∀ e, b.insert request = .error e →
      (∃ previousStop start stop, e = .edit (.overlapping previousStop start stop)) ∧
      (insertInPlace request).exec b = (.error e, b) := by
  rw [← not_disjoint_iff]
  constructor
  · constructor
    · rintro ⟨e, he⟩ hd
      rw [insert_of_disjoint hd] at he
      cases he
    · intro hd
      obtain ⟨p, s, t, he⟩ := insert_of_not_disjoint hd
      exact ⟨_, he⟩
  · intro e he
    constructor
    · by_cases hd : b.Disjoint request
      · rw [insert_of_disjoint hd] at he
        cases he
      · obtain ⟨p, s, t, he'⟩ := insert_of_not_disjoint hd
        rw [he] at he'
        exact ⟨p, s, t, by simpa using he'⟩
    · rw [exec_insertInPlace, he]

end Buffer

end TagSpacing
