import Mathlib.Data.List.Chain
import TagSpacing.Proofs.Splice

/-! Edits as a walk that changes the text on its way: which lists of edits make a walk, what is
wrong with the others, and that the cursor of a walk never leaves the text. -/
namespace TagSpacing

namespace Operation

/-- One step in place, with a cursor in the text. A step that would touch characters behind the end
of the text is none. -/
def step? : Operation → Nat × Text → Option (Nat × Text)
  | retain n, (i, t) => some (i + n, t)
  | delete n, (i, t) => if i + n ≤ t.length then some (i, t.take i ++ t.drop (i + n)) else none
  | insert s, (i, t) => if i ≤ t.length then some (i + s.length, t.take i ++ s ++ t.drop i) else none

theorem step?_retain_append (n : Nat) (t rest : Text) (h : n ≤ rest.length) :
    step? (.retain n) (t.length, t ++ rest) =
      some ((t ++ rest.take n).length, (t ++ rest.take n) ++ rest.drop n) := by
  simp [step?, Nat.min_eq_left h]

theorem step?_delete_append (n : Nat) (t rest : Text) (h : n ≤ rest.length) :
    step? (.delete n) (t.length, t ++ rest) = some (t.length, t ++ rest.drop n) := by
  simp [step?, h]

theorem step?_insert_append (s t rest : Text) :
    step? (.insert s) (t.length, t ++ rest) = some ((t ++ s).length, (t ++ s) ++ rest) := by
  simp [step?]

end Operation

namespace ChangeSet

variable {cs : ChangeSet} {t u : Text} {n length last : Nat} {es : List Edit}

/-- Takes steps in place. -/
def walk? (ops : List Operation) (start : Nat × Text) : Option (Nat × Text) :=
  ops.foldlM (fun s op => op.step? s) start

/-- A walk in place: how it ends, and the text that it leaves. There is none if a step leaves the
text. -/
def walkInPlace? (cs : ChangeSet) (t : Text) : Option (Except EditError Unit × Text) :=
  if t.length = cs.length then (walk? cs.operations (0, t)).map fun s => (.ok (), s.2)
  else some (.error (.lengthMismatch cs.length t.length), t)

/-- In front of the cursor stands what the steps have produced, behind it what they have not reached
yet. -/
theorem walk?_append (ops : List Operation) (t rest : Text) (h : covered ops ≤ rest.length) :
    walk? ops (t.length, t ++ rest) =
      some ((t ++ produced ops rest).length, (t ++ produced ops rest) ++ rest.drop (covered ops)) := by
  induction ops generalizing t rest with
  | nil => simp [walk?, produced, covered]
  | cons op ops ih =>
    rw [walk?, List.foldlM_cons]
    cases op with
    | retain n =>
      rw [covered] at h
      rw [Operation.step?_retain_append n t rest (by omega)]
      refine (ih (t ++ rest.take n) (rest.drop n) (by rw [List.length_drop]; omega)).trans ?_
      rw [produced, covered, List.drop_drop, List.append_assoc t]
    | delete n =>
      rw [covered] at h
      rw [Operation.step?_delete_append n t rest (by omega)]
      refine (ih t (rest.drop n) (by rw [List.length_drop]; omega)).trans ?_
      rw [produced, covered, List.drop_drop]
    | insert s =>
      rw [Operation.step?_insert_append]
      refine (ih (t ++ s) rest h).trans ?_
      rw [produced, covered, List.append_assoc t]

theorem lengthAfter_retain (cs : ChangeSet) (n : Nat) :
    (cs.retain n).lengthAfter = cs.lengthAfter + n := by
  unfold retain
  split
  · simp [*]
  · rfl

theorem lengthAfter_delete (cs : ChangeSet) (n : Nat) :
    (cs.delete n).lengthAfter = cs.lengthAfter := by
  unfold delete
  split <;> rfl

theorem lengthAfter_insert (cs : ChangeSet) (s : Text) :
    (cs.insert s).lengthAfter = cs.lengthAfter + s.length := by
  unfold insert
  split
  · simp [*]
  · rfl

/-- A walk over a whole text leaves as many characters as it has counted. -/
theorem lengthAfter_addEdits {cs' : ChangeSet} (hlast : last ≤ t.length)
    (h : addEdits t.length cs last es = .ok cs') :
    cs'.lengthAfter = cs.lengthAfter + (t.splice last es).length := by
  induction es generalizing cs last with
  | nil =>
    cases h
    rw [lengthAfter_retain, Text.splice, List.length_drop]
  | cons e es ih =>
    rw [addEdits] at h
    cases he : e.fault? t.length last with
    | some fault =>
      rw [he] at h
      cases h
    | none =>
      rw [he] at h
      obtain ⟨hle, hle', hle''⟩ := Edit.fault?_eq_none_iff.mp he
      rw [ih hle'' h, lengthAfter_delete, lengthAfter_insert, lengthAfter_retain, Text.splice,
        List.length_append, List.length_append, Text.length_slice]
      omega

/-- In place or not, a walk that covers as many characters as it says ends alike. -/
theorem walkInPlace?_eq (h : covered cs.operations = cs.length) (t : Text) :
    cs.walkInPlace? t =
      some (match cs.apply t with
        | .ok u => (.ok (), u)
        | .error e => (.error e, t)) := by
  unfold walkInPlace? apply
  by_cases ht : t.length = cs.length
  · rw [if_pos ht, if_pos ht]
    have hw := walk?_append cs.operations [] t (by omega)
    simp only [List.nil_append, List.length_nil] at hw
    rw [hw, run_eq]
    rfl
  · rw [if_neg ht, if_neg ht]

end ChangeSet

namespace Edit

variable {e : Edit} {es : List Edit} {length last : Nat} {fault : EditError}

/-- Whether edits can be made in one walk: each lies in the text, and none starts before the end of
the one before it. -/
structure Sorted (length : Nat) (es : List Edit) : Prop where
  bounds : ∀ e ∈ es, e.start ≤ e.stop ∧ e.stop ≤ length
  apart : es.IsChain fun a b => a.stop ≤ b.start

/-- What is wrong with an edit behind others that end at offset `last`. -/
inductive Faulty (e : Edit) (length last : Nat) : EditError → Prop
  | invalidRange (h : e.stop < e.start) : Faulty e length last (.invalidRange e.start e.stop)
  | outOfBounds (h : e.start ≤ e.stop) (hout : length < e.stop) :
    Faulty e length last (.outOfBounds e.start e.stop length)
  | overlapping (h : e.start ≤ e.stop) (hin : e.stop ≤ length) (hover : e.start < last) :
    Faulty e length last (.overlapping last e.start e.stop)

/-- Where the last of some edits ends, or `last` if there is none. -/
def lastStop (last : Nat) (es : List Edit) : Nat := es.foldl (fun _ e => e.stop) last

theorem fault?_eq_some_iff : e.fault? length last = some fault ↔ e.Faulty length last fault := by
  constructor
  · intro h
    unfold fault? at h
    split at h
    · cases h
      exact .invalidRange (by omega)
    · split at h
      · cases h
        exact .outOfBounds (by omega) (by omega)
      · split at h
        · cases h
          exact .overlapping (by omega) (by omega) (by omega)
        · cases h
  · intro h
    unfold fault?
    cases h with
    | invalidRange h => rw [if_pos h]
    | outOfBounds h hout => rw [if_neg (by omega), if_pos hout]
    | overlapping h hin hover => rw [if_neg (by omega), if_neg (by omega), if_pos hover]

theorem sorted_nil (length : Nat) : Sorted length [] := ⟨by simp, List.IsChain.nil⟩

theorem sorted_cons_iff :
    Sorted length (e :: es) ↔
      (e.start ≤ e.stop ∧ e.stop ≤ length) ∧ (∀ a ∈ es.head?, e.stop ≤ a.start) ∧
        Sorted length es := by
  constructor
  · rintro ⟨hb, hc⟩
    obtain ⟨he, hb⟩ := List.forall_mem_cons.mp hb
    obtain ⟨hhead, hc⟩ := List.isChain_cons.mp hc
    exact ⟨he, hhead, hb, hc⟩
  · rintro ⟨he, hhead, hb, hc⟩
    exact ⟨List.forall_mem_cons.mpr ⟨he, hb⟩, List.isChain_cons.mpr ⟨hhead, hc⟩⟩

theorem firstFault?_eq_none_iff_sorted :
    firstFault? length last es = none ↔ (∀ e ∈ es.head?, last ≤ e.start) ∧ Sorted length es := by
  induction es generalizing last with
  | nil => simp [firstFault?, sorted_nil]
  | cons e es ih =>
    rw [firstFault?, Option.or_eq_none_iff, fault?_eq_none_iff, ih, sorted_cons_iff]
    simp only [List.head?_cons, Option.mem_some_iff, forall_eq', and_assoc]

/-- The first edit with a fault decides, and of several faults of it the first. -/
theorem firstFault?_eq_some_iff :
    firstFault? length last es = some fault ↔
      ∃ pre e post, es = pre ++ e :: post ∧ firstFault? length last pre = none ∧
        e.fault? length (lastStop last pre) = some fault := by
  induction es generalizing last with
  | nil => simp [firstFault?]
  | cons e es ih =>
    rw [firstFault?, Option.or_eq_some_iff, ih]
    constructor
    · rintro (he | ⟨he, pre, e', post, rfl, hpre, he'⟩)
      · exact ⟨[], e, es, rfl, rfl, he⟩
      · refine ⟨e :: pre, e', post, rfl, ?_, he'⟩
        rw [firstFault?, he, hpre]
        rfl
    · rintro ⟨pre, e', post, heq, hpre, he'⟩
      cases pre with
      | nil =>
        cases heq
        exact Or.inl he'
      | cons e₀ pre =>
        cases heq
        rw [firstFault?, Option.or_eq_none_iff] at hpre
        exact Or.inr ⟨hpre.1, pre, e', post, rfl, hpre.2, he'⟩

end Edit

namespace ChangeSet

variable {t : Text} {es : List Edit}

theorem ofEdits_of_firstFault?_eq_none (h : Edit.firstFault? t.length 0 es = none) :
    ∃ cs, ofEdits t.length es = .ok cs ∧ cs.length = t.length ∧ Writes cs t (t.splice 0 es) :=
  (Writes.empty t).addEdits (show ChangeSet.empty.length = 0 from rfl) (Nat.zero_le _) h

theorem exists_ofEdits_iff_sorted (t : Text) (es : List Edit) :
    (∃ cs, ofEdits t.length es = .ok cs) ↔ Edit.Sorted t.length es := by
  have hnone : Edit.firstFault? t.length 0 es = none ↔ Edit.Sorted t.length es := by
    simp [Edit.firstFault?_eq_none_iff_sorted]
  rw [← hnone]
  constructor
  · rintro ⟨cs, hok⟩
    cases hf : Edit.firstFault? t.length 0 es with
    | none => rfl
    | some fault =>
      rw [ofEdits, addEdits_eq_error hf] at hok
      cases hok
  · intro hf
    obtain ⟨cs, hok, _⟩ := ofEdits_of_firstFault?_eq_none hf
    exact ⟨cs, hok⟩

theorem ofEdits_eq_error_iff (t : Text) (es : List Edit) (fault : EditError) :
    ofEdits t.length es = .error fault ↔ Edit.firstFault? t.length 0 es = some fault := by
  constructor
  · intro herr
    cases hf : Edit.firstFault? t.length 0 es with
    | none =>
      obtain ⟨cs, hok, _⟩ := ofEdits_of_firstFault?_eq_none hf
      rw [herr] at hok
      cases hok
    | some fault' =>
      rw [ofEdits, addEdits_eq_error hf] at herr
      cases herr
      rfl
  · exact addEdits_eq_error

/-- Edits make a walk just when they are sorted; otherwise the first one that may not follow those
before it is reported. The walk over the text that they were made for never leaves it and replaces
all of their intervals at once, and a text of another length it refuses and leaves as it is. -/
theorem ofEdits_splice (t : Text) (es : List Edit) :
    ((∃ cs, ofEdits t.length es = .ok cs) ↔ Edit.Sorted t.length es) ∧
    (∀ fault, ofEdits t.length es = .error fault ↔
      ∃ pre e post, es = pre ++ e :: post ∧ Edit.Sorted t.length pre ∧
        e.Faulty t.length (Edit.lastStop 0 pre) fault) ∧
    ∀ cs, ofEdits t.length es = .ok cs →
      cs.length = t.length ∧ cs.lengthAfter = (t.splice 0 es).length ∧
      cs.apply t = .ok (t.splice 0 es) ∧ cs.walkInPlace? t = some (.ok (), t.splice 0 es) ∧
      ∀ u, u.length ≠ t.length →
        cs.apply u = .error (.lengthMismatch t.length u.length) ∧
        cs.walkInPlace? u = some (.error (.lengthMismatch t.length u.length), u) := by
  refine ⟨exists_ofEdits_iff_sorted t es, ?_, ?_⟩
  · intro fault
    rw [ofEdits_eq_error_iff, Edit.firstFault?_eq_some_iff]
    simp only [Edit.firstFault?_eq_none_iff_sorted, Edit.fault?_eq_some_iff, Nat.zero_le,
      implies_true, true_and]
  · intro cs hcs
    have hsorted := (exists_ofEdits_iff_sorted t es).mp ⟨cs, hcs⟩
    obtain ⟨cs', hok, hlen, hw⟩ := ofEdits_of_firstFault?_eq_none
      (Edit.firstFault?_eq_none_iff_sorted.mpr ⟨fun _ _ => Nat.zero_le _, hsorted⟩)
    obtain rfl : cs = cs' := Except.ok.inj (hcs.symm.trans hok)
    have hafter : cs.lengthAfter = (t.splice 0 es).length := by
      rw [lengthAfter_addEdits (Nat.zero_le _) hcs]
      exact Nat.zero_add _
    have happly : cs.apply t = .ok (t.splice 0 es) := by
      rw [apply, if_pos hlen.symm, run_eq, hw.covered_eq, hw.produced_eq, hlen, List.drop_length,
        List.append_nil]
    refine ⟨hlen, hafter, happly, ?_, fun u hu => ?_⟩
    · rw [walkInPlace?_eq hw.covered_eq, happly]
    · have hrefused : cs.apply u = .error (.lengthMismatch t.length u.length) := by
        rw [apply, hlen, if_neg hu]
      exact ⟨hrefused, by rw [walkInPlace?_eq hw.covered_eq, hrefused]⟩

/-- Three edits in a row: the one in the middle is empty and goes in front of what was deleted
before it. -/
theorem ofEdits_splice_braces :
    let t : Text := ['{', 'a', 'b', '}']
    let es : List Edit := [⟨1, 2, none⟩, ⟨2, 2, some ['x', 'y']⟩, ⟨2, 4, some ['z']⟩]
    Edit.Sorted t.length es ∧ ∃ cs, ofEdits t.length es = .ok cs ∧ cs.lengthAfter = 4 ∧
      cs.walkInPlace? t = some (.ok (), ['{', 'x', 'y', 'z']) ∧
      cs.walkInPlace? ['{'] = some (.error (.lengthMismatch 4 1), ['{']) := by
  intro t es
  obtain ⟨hsorted, _, hok⟩ := ofEdits_splice t es
  have hes : Edit.Sorted t.length es := ⟨by decide, by decide⟩
  obtain ⟨cs, hcs⟩ := hsorted.mpr hes
  obtain ⟨_, hafter, _, hwalk, hother⟩ := hok cs hcs
  exact ⟨hes, cs, hcs, hafter, hwalk, (hother ['{'] (by decide)).2⟩

end ChangeSet

end TagSpacing
