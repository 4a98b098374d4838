import TagSpacing.ChangeSet
import TagSpacing.Proofs.Slice

/-! Edits of a text as splices: what a walk writes, and which lists of edits make a walk. -/
namespace TagSpacing

/-- The text from offset `last` on with the characters of each edit replaced. -/
def Text.splice (t : Text) (last : Nat) : List Edit → Text
  | [] => t.drop last
  | e :: es => t.slice last e.start ++ e.text.getD [] ++ splice t e.stop es

/-- What is wrong with the first edit of a list that may not follow the edits before it. -/
def Edit.firstFault? (length last : Nat) : List Edit → Option EditError
  | [] => none
  | e :: es => (e.fault? length last).or (firstFault? length e.stop es)

namespace Edit

theorem fault?_eq_none_iff {e : Edit} {length last : Nat} :
    e.fault? length last = none ↔ last ≤ e.start ∧ e.start ≤ e.stop ∧ e.stop ≤ length := by
  unfold fault?
  split
  · simp; omega
  · split
    · simp; omega
    · split
      · simp; omega
      · simp; omega

end Edit

namespace ChangeSet

/-- Number of characters that some steps walk over. -/
def covered : List Operation → Nat
  | [] => 0
  | .retain n :: ops => n + covered ops
  | .delete n :: ops => n + covered ops
  | .insert _ :: ops => covered ops

/-- What some steps make of the characters that they walk over. -/
def produced : List Operation → Text → Text
  | [], _ => []
  | .retain n :: ops, t => t.take n ++ produced ops (t.drop n)
  | .delete n :: ops, t => produced ops (t.drop n)
  | .insert s :: ops, t => s ++ produced ops t

theorem run_eq (ops : List Operation) (t : Text) :
    run ops t = produced ops t ++ t.drop (covered ops) := by
  induction ops generalizing t with
  | nil => rfl
  | cons op ops ih => cases op <;> simp [run, produced, covered, ih]

theorem covered_append (xs ys : List Operation) : covered (xs ++ ys) = covered xs + covered ys := by
  induction xs with
  | nil => simp [covered]
  | cons op xs ih => cases op <;> simp [covered, ih, Nat.add_assoc]

theorem produced_append (xs ys : List Operation) (t : Text) :
    produced (xs ++ ys) t = produced xs t ++ produced ys (t.drop (covered xs)) := by
  induction xs generalizing t with
  | nil => rfl
  | cons op xs ih => cases op <;> simp [produced, covered, ih]

/-- The walk over the first characters of `t` writes `u`. -/
structure Writes (cs : ChangeSet) (t u : Text) : Prop where
  covered_eq : covered cs.operations = cs.length
  produced_eq : produced cs.operations t = u

variable {cs : ChangeSet} {t u : Text} {n last : Nat} {es : List Edit}

theorem length_retain (cs : ChangeSet) (n : Nat) : (cs.retain n).length = cs.length + n := by
  unfold retain
  split
  · simp [*]
  · rfl

theorem length_delete (cs : ChangeSet) (n : Nat) : (cs.delete n).length = cs.length + n := by
  unfold delete
  split
  · simp [*]
  · rfl

theorem length_insert (cs : ChangeSet) (s : Text) : (cs.insert s).length = cs.length := by
  unfold insert
  split <;> rfl

theorem operations_eq_append {op : Operation} {rest : List Operation}
    (h : cs.reversed = op :: rest) : cs.operations = rest.reverse ++ [op] := by
  simp [operations, h]

namespace Writes

theorem empty (t : Text) : Writes .empty t [] := ⟨rfl, rfl⟩

theorem retain (h : Writes cs t u) (n : Nat) :
    Writes (cs.retain n) t (u ++ t.slice cs.length (cs.length + n)) := by
  obtain ⟨hc, hp⟩ := h
  unfold ChangeSet.retain
  split
  · subst n
    exact ⟨hc, by simp [hp]⟩
  split
  · rename_i m rest hr
    rw [operations_eq_append hr] at hc hp
    simp only [covered_append, produced_append, covered, produced] at hc hp
    constructor
    · simp [operations, covered_append, covered, ← hc]
      omega
    · simp [operations, produced_append, produced, ← hc, ← hp, Text.slice, List.take_add]
  · constructor
    · simpa [operations, covered_append, covered] using hc
    · simp [operations, produced_append, produced, Text.slice] at hc hp ⊢
      simp [hc, hp]

theorem delete (h : Writes cs t u) (n : Nat) : Writes (cs.delete n) t u := by
  obtain ⟨hc, hp⟩ := h
  unfold ChangeSet.delete
  split
  · exact ⟨hc, hp⟩
  split
  · rename_i m rest hr
    rw [operations_eq_append hr] at hc hp
    simp only [covered_append, produced_append, covered, produced] at hc hp
    constructor
    · simp [operations, covered_append, covered, ← hc]
      omega
    · simpa [operations, produced_append, produced] using hp
  · constructor
    · simpa [operations, covered_append, covered] using hc
    · simpa [operations, produced_append, produced] using hp

/-- An insertion may go in front of a deletion: both leave the same text. -/
theorem insert (h : Writes cs t u) (s : Text) : Writes (cs.insert s) t (u ++ s) := by
  obtain ⟨hc, hp⟩ := h
  unfold ChangeSet.insert
  split
  · subst s
    exact ⟨hc, by simp [hp]⟩
  split
  · rename_i p rest hr
    rw [operations_eq_append hr] at hc hp
    simp only [covered_append, produced_append, covered, produced] at hc hp
    constructor
    · simpa [operations, covered_append, covered] using hc
    · simp [operations, produced_append, produced, ← hp]
  · rename_i n p rest hr
    simp only [operations, hr, List.reverse_cons, covered_append, produced_append, covered,
      produced] at hc hp
    constructor
    · simpa [operations, covered_append, covered] using hc
    · simp [operations, produced_append, produced, ← hp]
  · rename_i n rest _ hr
    rw [operations_eq_append hr] at hc hp
    simp only [covered_append, produced_append, covered, produced] at hc hp
    constructor
    · simpa [operations, covered_append, covered] using hc
    · simp [operations, produced_append, produced, ← hp]
  · constructor
    · simpa [operations, covered_append, covered] using hc
    · simpa [operations, produced_append, produced] using hp

/-- One edit behind another: what lies between them stays. -/
theorem addEdits (h : Writes cs t u) (hl : cs.length = last) (hlast : last ≤ t.length)
    (hf : Edit.firstFault? t.length last es = none) :
    ∃ cs', ChangeSet.addEdits t.length cs last es = .ok cs' ∧ cs'.length = t.length ∧
      Writes cs' t (u ++ t.splice last es) := by
  induction es generalizing cs u last with
  | nil =>
    refine ⟨_, rfl, ?_, ?_⟩
    · rw [length_retain]
      omega
    · have hw := h.retain (t.length - last)
      rw [hl, Nat.add_sub_of_le hlast] at hw
      simpa [Text.splice, Text.slice, List.take_of_length_le] using hw
  | cons e es ih =>
    rw [Edit.firstFault?, Option.or_eq_none_iff] at hf
    obtain ⟨he, hes⟩ := hf
    obtain ⟨hle, hle', hle''⟩ := Edit.fault?_eq_none_iff.mp he
    have hw := ((h.retain (e.start - last)).insert (e.text.getD [])).delete (e.stop - e.start)
    rw [hl, Nat.add_sub_of_le hle] at hw
    obtain ⟨cs', hok, hlen, hw'⟩ := ih hw
      (by rw [length_delete, length_insert, length_retain]; omega) hle'' hes
    refine ⟨cs', ?_, hlen, ?_⟩
    · rw [ChangeSet.addEdits, he]
      exact hok
    · simpa [Text.splice] using hw'

end Writes

theorem addEdits_eq_error {length : Nat} {fault : EditError}
    (hf : Edit.firstFault? length last es = some fault) :
    addEdits length cs last es = .error fault := by
  induction es generalizing cs last with
  | nil => cases hf
  | cons e es ih =>
    rw [Edit.firstFault?] at hf
    rw [addEdits]
    cases he : e.fault? length last with
    | some f =>
      rw [he] at hf
      cases hf
      rfl
    | none =>
      rw [he] at hf
      exact ih hf

end ChangeSet

theorem Text.edit_of_ofEdits_error {t : Text} {es : List Edit} {e : EditError}
    (h : ChangeSet.ofEdits t.length es = .error e) : t.edit es = .error e := by
  rw [edit, h]
  rfl

theorem Text.edit_of_ofEdits_ok {t : Text} {es : List Edit} {cs : ChangeSet}
    (h : ChangeSet.ofEdits t.length es = .ok cs) : t.edit es = cs.apply t := by
  rw [edit, h]
  rfl

/-- All edits are made at once, and none of them if one may not follow those before it. -/
theorem Text.edit_eq (t : Text) (es : List Edit) :
    t.edit es =
      match Edit.firstFault? t.length 0 es with
      | some fault => .error fault
      | none => .ok (t.splice 0 es) := by
  cases hf : Edit.firstFault? t.length 0 es with
  | some fault => exact edit_of_ofEdits_error (ChangeSet.addEdits_eq_error hf)
  | none =>
    obtain ⟨cs, hok, hlen, hw⟩ :=
      (ChangeSet.Writes.empty t).addEdits (show ChangeSet.empty.length = 0 from rfl) (Nat.zero_le _) hf
    rw [edit_of_ofEdits_ok hok, ChangeSet.apply, if_pos hlen.symm, ChangeSet.run_eq, hw.covered_eq,
      hw.produced_eq, hlen]
    simp

end TagSpacing
