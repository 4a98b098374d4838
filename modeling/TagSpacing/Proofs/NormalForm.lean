import Mathlib
import TagSpacing.Proofs.Walk

/-! Walks continued call by call from the empty one. However the calls come, the steps of the walk
are in a normal form, and they do what the calls say in their order. -/
namespace TagSpacing

namespace Operation

inductive Kind
  | retain
  | delete
  | insert
deriving DecidableEq

def kind : Operation → Kind
  | retain _ => .retain
  | delete _ => .delete
  | insert _ => .insert

/-- Number of characters that a step is about. -/
def size : Operation → Nat
  | retain n => n
  | delete n => n
  | insert s => s.length

/-- Number of characters of the text that a step walks over. -/
def read : Operation → Nat
  | retain n => n
  | delete n => n
  | insert _ => 0

/-- Number of characters that a step leaves behind. -/
def written : Operation → Nat
  | retain n => n
  | delete _ => 0
  | insert s => s.length

def Changes (op : Operation) : Prop := op.kind ≠ .retain ∧ op.size ≠ 0

instance (op : Operation) : Decidable op.Changes := inferInstanceAs (Decidable (_ ∧ _))

@[simp] theorem not_changes_retain (n : Nat) : ¬ (retain n).Changes := fun h => h.1 rfl

@[simp] theorem changes_delete_iff (n : Nat) : (delete n).Changes ↔ n ≠ 0 := by
  simp [Changes, kind, size]

@[simp] theorem changes_insert_iff (s : Text) : (insert s).Changes ↔ s ≠ [] := by
  simp [Changes, kind, size]

/-- Whether a step may stand directly in front of another: steps of one kind are joined, and what is
inserted goes in front of what is deleted. -/
def MayPrecede (op next : Operation) : Prop :=
  op.kind ≠ next.kind ∧ ¬ (op.kind = .delete ∧ next.kind = .insert)

instance (op next : Operation) : Decidable (op.MayPrecede next) :=
  inferInstanceAs (Decidable (_ ∧ _))

/-- The normal form of a list of steps. -/
structure Normal (ops : List Operation) : Prop where
  size_ne_zero : ∀ op ∈ ops, op.size ≠ 0
  mayPrecede : ops.IsChain MayPrecede

instance (ops : List Operation) : Decidable (Normal ops) :=
  decidable_of_iff ((∀ op ∈ ops, op.size ≠ 0) ∧ ops.IsChain MayPrecede)
    ⟨fun ⟨h, h'⟩ => ⟨h, h'⟩, fun h => ⟨h.size_ne_zero, h.mayPrecede⟩⟩

variable {op op' prev : Operation} {ops : List Operation}

theorem kind_eq_retain_iff : op.kind = .retain ↔ ∃ n, op = .retain n := by
  cases op <;> simp [kind]

theorem kind_eq_delete_iff : op.kind = .delete ↔ ∃ n, op = .delete n := by
  cases op <;> simp [kind]

theorem mayPrecede_congr (h : op.kind = op'.kind) : prev.MayPrecede op ↔ prev.MayPrecede op' := by
  rw [MayPrecede, MayPrecede, h]

theorem normal_nil : Normal [] := ⟨by simp, .nil⟩

/-- The normal form, told from the last step. -/
theorem normal_reverse_cons_iff :
    Normal (op :: ops).reverse ↔
      op.size ≠ 0 ∧ (∀ prev ∈ ops.head?, prev.MayPrecede op) ∧ Normal ops.reverse := by
  have hchain : (op :: ops).reverse.IsChain MayPrecede ↔
      (∀ prev ∈ ops.head?, prev.MayPrecede op) ∧ ops.reverse.IsChain MayPrecede := by
    rw [List.isChain_reverse, List.isChain_reverse, List.isChain_cons]
  constructor
  · rintro ⟨hsize, hprec⟩
    obtain ⟨hprev, hrest⟩ := hchain.mp hprec
    refine ⟨hsize op (by simp), hprev, fun op' hmem => hsize op' ?_, hrest⟩
    rw [List.reverse_cons]
    exact List.mem_append_left _ hmem
  · rintro ⟨hop, hprev, hsize, hrest⟩
    refine ⟨fun op' hmem => ?_, hchain.mpr ⟨hprev, hrest⟩⟩
    rcases List.mem_cons.mp (List.mem_reverse.mp hmem) with rfl | hmem
    · exact hop
    · exact hsize op' (List.mem_reverse.mpr hmem)

example : ¬ Normal [.retain 1, .delete 1, .insert ['a']] := by decide

/-- The last step of a normal form may grow. -/
theorem Normal.replace (h : Normal (op :: ops).reverse) (hkind : op'.kind = op.kind)
    (hsize : op'.size ≠ 0) : Normal (op' :: ops).reverse := by
  rw [normal_reverse_cons_iff] at h ⊢
  exact ⟨hsize, fun prev hprev => (mayPrecede_congr hkind).mpr (h.2.1 prev hprev), h.2.2⟩

/-- A step that is no insertion may follow any step of another kind. -/
theorem Normal.push (h : Normal ops.reverse) (hsize : op.size ≠ 0) (hkind : op.kind ≠ .insert)
    (hprev : ∀ prev ∈ ops.head?, prev.kind ≠ op.kind) : Normal (op :: ops).reverse :=
  normal_reverse_cons_iff.mpr
    ⟨hsize, fun prev hmem => ⟨hprev prev hmem, fun h => hkind h.2⟩, h⟩

/-- An insertion follows characters that stay, or nothing. -/
theorem Normal.push_insert (h : Normal ops.reverse) {s : Text} (hs : s ≠ [])
    (hprev : ∀ prev ∈ ops.head?, prev.kind = .retain) : Normal (.insert s :: ops).reverse := by
  refine normal_reverse_cons_iff.mpr ⟨?_, fun prev hmem => ?_, h⟩
  · simpa only [size, ne_eq, List.length_eq_zero_iff] using hs
  · rw [MayPrecede, hprev prev hmem]
    simp [kind]

end Operation

namespace ChangeSet

open Operation

/-- One call more. -/
def add (cs : ChangeSet) : Operation → ChangeSet
  | .retain n => cs.retain n
  | .delete n => cs.delete n
  | .insert s => cs.insert s

/-- The walk that some calls make of the empty one. -/
def build (calls : List Operation) : ChangeSet := calls.foldl add .empty

variable {cs : ChangeSet} {t u : Text} {calls : List Operation}

theorem normal_retain (h : Normal cs.operations) (n : Nat) : Normal (cs.retain n).operations := by
  unfold retain
  split
  · exact h
  · rename_i hn
    unfold operations at h ⊢
    dsimp only
    split
    · rename_i m rest hr
      rw [hr] at h
      exact h.replace rfl (by simp only [size]; omega)
    · rename_i hne
      refine h.push hn (by simp [kind]) fun prev hprev hkind => ?_
      obtain ⟨rest, hr⟩ := List.head?_eq_some_iff.mp hprev
      obtain ⟨m, rfl⟩ := kind_eq_retain_iff.mp hkind
      exact hne m rest hr

theorem normal_delete (h : Normal cs.operations) (n : Nat) : Normal (cs.delete n).operations := by
  unfold delete
  split
  · exact h
  · rename_i hn
    unfold operations at h ⊢
    dsimp only
    split
    · rename_i m rest hr
      rw [hr] at h
      exact h.replace rfl (by simp only [size]; omega)
    · rename_i hne
      refine h.push hn (by simp [kind]) fun prev hprev hkind => ?_
      obtain ⟨rest, hr⟩ := List.head?_eq_some_iff.mp hprev
      obtain ⟨m, rfl⟩ := kind_eq_delete_iff.mp hkind
      exact hne m rest hr

theorem normal_insert (h : Normal cs.operations) (s : Text) : Normal (cs.insert s).operations := by
  unfold insert
  split
  · exact h
  · rename_i hs
    have hsize : ∀ u : Text, (Operation.insert (u ++ s)).size ≠ 0 := by
      intro u
      simp [size, hs]
    unfold operations at h ⊢
    dsimp only
    split
    · rename_i u rest hr
      rw [hr] at h
      exact h.replace rfl (hsize u)
    · rename_i m u rest hr
      rw [hr, normal_reverse_cons_iff] at h
      obtain ⟨hm, _, hrest⟩ := h
      have hjoined : Normal (.insert (u ++ s) :: rest).reverse := hrest.replace rfl (hsize u)
      exact hjoined.push hm (by simp [kind]) (by simp [kind])
    · -- What stands in front of a deletion is neither a deletion nor, here, an insertion.
      rename_i m rest hne hr
      rw [hr, normal_reverse_cons_iff] at h
      obtain ⟨hm, hprev, hrest⟩ := h
      have hinsert : Normal (.insert s :: rest).reverse := by
        refine hrest.push_insert hs fun prev hmem => ?_
        obtain ⟨rest', hr'⟩ := List.head?_eq_some_iff.mp hmem
        cases prev with
        | retain k => rfl
        | delete k => exact ((hprev _ hmem).1 rfl).elim
        | insert u => exact (hne u rest' hr').elim
      exact hinsert.push hm (by simp [kind]) (by simp [kind])
    · rename_i hne _ hne'
      refine h.push_insert hs fun prev hprev => ?_
      obtain ⟨rest, hr⟩ := List.head?_eq_some_iff.mp hprev
      cases prev with
      | retain k => rfl
      | delete k => exact (hne' k rest hr).elim
      | insert u => exact (hne u rest hr).elim

theorem exists_changes_retain (cs : ChangeSet) (n : Nat) :
    (∃ op ∈ (cs.retain n).operations, op.Changes) ↔ ∃ op ∈ cs.operations, op.Changes := by
  unfold retain
  split
  · rfl
  · unfold operations
    dsimp only
    split
    · rename_i m rest hr
      simp [hr]
    · simp

theorem exists_changes_delete (cs : ChangeSet) (n : Nat) :
    (∃ op ∈ (cs.delete n).operations, op.Changes) ↔
      n ≠ 0 ∨ ∃ op ∈ cs.operations, op.Changes := by
  unfold delete
  split
  · rename_i hn
    simp [hn]
  · rename_i hn
    refine iff_of_true ?_ (Or.inl hn)
    unfold operations
    dsimp only
    split <;> simp [or_and_right, exists_or, hn]

theorem exists_changes_insert (cs : ChangeSet) (s : Text) :
    (∃ op ∈ (cs.insert s).operations, op.Changes) ↔
      s ≠ [] ∨ ∃ op ∈ cs.operations, op.Changes := by
  unfold insert
  split
  · rename_i hs
    simp [hs]
  · rename_i hs
    refine iff_of_true ?_ (Or.inl hs)
    unfold operations
    dsimp only
    split <;> simp [or_and_right, exists_or, hs]

/-- A normal form that changes nothing is one step at most. -/
theorem isEmpty_iff (h : Normal cs.operations) (hlen : covered cs.operations = cs.length) :
    cs.isEmpty = true ↔ ¬ ∃ op ∈ cs.operations, op.Changes := by
  unfold isEmpty operations at *
  rw [decide_eq_true_iff]
  constructor
  · rintro (hr | hr) <;> simp [hr]
  · intro hnone
    have hretain : ∀ op ∈ cs.reversed, op.kind = .retain := by
      intro op hop
      have hmem : op ∈ cs.reversed.reverse := List.mem_reverse.mpr hop
      exact Decidable.byContradiction fun hkind =>
        hnone ⟨op, hmem, hkind, h.size_ne_zero op hmem⟩
    cases hr : cs.reversed with
    | nil => exact Or.inl rfl
    | cons op rest =>
      rw [hr] at h hlen hretain
      obtain ⟨hop, hrest⟩ := List.forall_mem_cons.mp hretain
      cases rest with
      | nil =>
        obtain ⟨n, rfl⟩ := kind_eq_retain_iff.mp hop
        rw [← hlen]
        exact Or.inr rfl
      | cons prev rest =>
        have hprev := ((normal_reverse_cons_iff.mp h).2.1 prev rfl).1
        exact (hprev ((hrest prev List.mem_cons_self).trans hop.symm)).elim

theorem normal_add (h : Normal cs.operations) (call : Operation) :
    Normal (cs.add call).operations := by
  cases call with
  | retain n => exact normal_retain h n
  | delete n => exact normal_delete h n
  | insert s => exact normal_insert h s

theorem length_add (cs : ChangeSet) (call : Operation) :
    (cs.add call).length = cs.length + call.read := by
  cases call with
  | retain n => exact length_retain cs n
  | delete n => exact length_delete cs n
  | insert s => exact length_insert cs s

theorem lengthAfter_add (cs : ChangeSet) (call : Operation) :
    (cs.add call).lengthAfter = cs.lengthAfter + call.written := by
  cases call with
  | retain n => exact lengthAfter_retain cs n
  | delete n => exact lengthAfter_delete cs n
  | insert s => exact lengthAfter_insert cs s

theorem exists_changes_add (cs : ChangeSet) (call : Operation) :
    (∃ op ∈ (cs.add call).operations, op.Changes) ↔
      call.Changes ∨ ∃ op ∈ cs.operations, op.Changes := by
  cases call with
  | retain n => simpa [add] using exists_changes_retain cs n
  | delete n => simpa [add] using exists_changes_delete cs n
  | insert s => simpa [add] using exists_changes_insert cs s

theorem Writes.add (h : Writes cs t u) (call : Operation) :
    Writes (cs.add call) t (u ++ produced [call] (t.drop cs.length)) := by
  cases call with
  | retain n => simpa [ChangeSet.add, produced, Text.slice] using h.retain n
  | delete n => simpa [ChangeSet.add, produced] using h.delete n
  | insert s => simpa [ChangeSet.add, produced] using h.insert s

theorem covered_eq_sum (ops : List Operation) : covered ops = (ops.map Operation.read).sum := by
  induction ops with
  | nil => rfl
  | cons op ops ih => cases op <;> simp [covered, Operation.read, ih]

/-- What a walk has to do with the calls that it was built by. -/
structure Built (calls : List Operation) (cs : ChangeSet) : Prop where
  normal : Normal cs.operations
  length_eq : cs.length = (calls.map Operation.read).sum
  lengthAfter_eq : cs.lengthAfter = (calls.map Operation.written).sum
  changes_iff : (∃ op ∈ cs.operations, op.Changes) ↔ ∃ call ∈ calls, call.Changes
  writes : ∀ t, Writes cs t (produced calls t)

theorem Built.empty : Built [] .empty where
  normal := normal_nil
  length_eq := rfl
  lengthAfter_eq := rfl
  changes_iff := Iff.rfl
  writes := Writes.empty

theorem Built.add (h : Built calls cs) (call : Operation) :
    Built (calls ++ [call]) (cs.add call) where
  normal := normal_add h.normal call
  length_eq := by simp [length_add, h.length_eq]
  lengthAfter_eq := by simp [lengthAfter_add, h.lengthAfter_eq]
  changes_iff := by
    rw [exists_changes_add, h.changes_iff]
    simp [or_and_right, exists_or, or_comm]
  writes t := by
    rw [produced_append, covered_eq_sum, ← h.length_eq]
    exact (h.writes t).add call

theorem built_build (calls : List Operation) : Built calls (build calls) := by
  induction calls using List.reverseRecOn with
  | nil => exact .empty
  | append_singleton calls call ih =>
    rw [build, List.foldl_append]
    exact ih.add call

/-- Whatever the calls, the walk that they build is in normal form, counts what they read and write,
is empty just when none of them changes anything, and turns a text into what the calls make of it
one after the other, without ever leaving it. -/
theorem build_normal (calls : List Operation) :
    Normal (build calls).operations ∧
    (build calls).length = (calls.map Operation.read).sum ∧
    (build calls).lengthAfter = (calls.map Operation.written).sum ∧
    ((build calls).isEmpty = true ↔ ¬ ∃ call ∈ calls, call.Changes) ∧
    ∀ t : Text, t.length = (build calls).length →
      (build calls).apply t = .ok (produced calls t) ∧
      (build calls).walkInPlace? t = some (.ok (), produced calls t) := by
  have hbuilt := built_build calls
  have hcovered : covered (build calls).operations = (build calls).length :=
    (hbuilt.writes []).covered_eq
  refine ⟨hbuilt.normal, hbuilt.length_eq, hbuilt.lengthAfter_eq, ?_, fun t ht => ?_⟩
  · rw [isEmpty_iff hbuilt.normal hcovered, hbuilt.changes_iff]
  · have happly : (build calls).apply t = .ok (produced calls t) := by
      rw [apply, if_pos ht, run_eq, (hbuilt.writes t).produced_eq, hcovered, ← ht,
        List.drop_length, List.append_nil]
    refine ⟨happly, ?_⟩
    rw [walkInPlace?_eq hcovered, happly]

/-- Two insertions join across the deletions between them, and empty calls leave nothing. -/
theorem build_normal_joined :
    let calls : List Operation := [.retain 1, .delete 2, .insert ['x', 'y'], .retain 0, .delete 1,
      .insert ['z'], .insert [], .retain 1, .retain 1]
    let t : Text := ['a', 'b', 'c', 'd', 'e', 'f']
    t.length = (build calls).length ∧
      (build calls).operations = [.retain 1, .insert ['x', 'y', 'z'], .delete 3, .retain 2] ∧
      (build calls).walkInPlace? t = some (.ok (), ['a', 'x', 'y', 'z', 'e', 'f']) := by
  intro calls t
  have ht : t.length = (build calls).length := rfl
  exact ⟨ht, rfl, ((build_normal calls).2.2.2.2 t ht).2⟩

end ChangeSet

end TagSpacing
