import TagSpacing.CommandLine.SelectionText
import TagSpacing.Proofs.Scanner

/-! Selections that are written down are read back, and what is read can be written down: counted from
one, its numbers are words. -/
namespace TagSpacing

open Template

namespace Position

/-- Whether line and column are words when they are counted from one. -/
structure Fits (p : Position) : Prop where
  line : p.line + 1 < Selection.numberBound
  character : p.character + 1 < Selection.numberBound

def written (p : Position) : Text := digits (p.line + 1) ++ ':' :: digits (p.character + 1)

end Position

namespace Unicode

variable {c : Char} {t : Text}

theorem isBlank_of_isDigit (h : c.isDigit) : isBlank c = false := by
  obtain ⟨hle, hge⟩ := Char.isDigit_iff_toNat.mp h
  have hzero : '0'.toNat = 48 := rfl
  have hnine : '9'.toNat = 57 := rfl
  simp [isBlank]
  omega

theorem dropWhile_isBlank_eq_self (h : ∀ c ∈ t, isBlank c = false) : t.dropWhile isBlank = t := by
  cases t with
  | nil => rfl
  | cons c t => exact List.dropWhile_cons_of_neg (by simp [h c List.mem_cons_self])

theorem trim_eq_self (h : ∀ c ∈ t, isBlank c = false) : trim t = t := by
  rw [trim, dropWhile_isBlank_eq_self h, dropWhile_isBlank_eq_self (by simpa using h),
    List.reverse_reverse]

end Unicode

namespace Selection

variable {separator : Char} {n : Nat} {t u : Text} {p : Position} {s : Selection}

/-- Whether the numbers of both ends are words when they are counted from one. -/
structure Fits (s : Selection) : Prop where
  anchor : s.anchor.Fits
  active : s.active.Fits

theorem toList_write (s : Selection) :
    s.write.toList = s.anchor.written ++ '-' :: s.active.written := by
  simp [write, Position.written, digits, toString]

theorem cut?_append (h : separator ∉ u) (t : Text) :
    cut? separator (u ++ separator :: t) = some (u, t) := by
  have hu : ∀ c ∈ u, (c != separator) = true := by
    intro c hc
    rw [bne_iff_ne]
    rintro rfl
    exact h hc
  have hstop : (separator != separator) = false := bne_self_eq_false separator
  rw [cut?, dropWhile_append_cons hu hstop, takeWhile_append_cons hu hstop]

theorem not_mem_digits {c : Char} (hc : c.isDigit = false) : c ∉ digits n := by
  intro h
  rw [isDigit_of_mem_digits h] at hc
  cases hc

theorem number?_digits (h0 : 0 < n) (h : n < numberBound) : number? (digits n) = some n := by
  have hdigits : (digits n).all Char.isDigit = true :=
    List.all_eq_true.mpr fun _ hc => isDigit_of_mem_digits hc
  have hempty : digits n ≠ [] := Nat.toDigits_ne_nil
  unfold number?
  split
  · rename_i rest ht
    exact absurd (ht ▸ List.mem_cons_self) (not_mem_digits (n := n) (c := '+') rfl)
  · simp only [hdigits, hempty, foldl_digits, not_true_eq_false, or_self, if_false]
    exact if_pos ⟨h0, h⟩

theorem readIndex_digits (h : n + 1 < numberBound) : readIndex (digits (n + 1)) = .ok n := by
  have hblank : ∀ c ∈ digits (n + 1), Unicode.isBlank c = false :=
    fun c hc => Unicode.isBlank_of_isDigit (isDigit_of_mem_digits hc)
  rw [readIndex, Unicode.trim_eq_self hblank, number?_digits n.succ_pos h]
  rfl

theorem readPosition_written (h : p.Fits) : readPosition p.written = .ok p := by
  rw [readPosition, Position.written, cut?_append (not_mem_digits rfl)]
  simp only [readIndex_digits h.line, readIndex_digits h.character]
  rfl

theorem read_write (h : s.Fits) : read s.write.toList = .ok s := by
  have hanchor : '-' ∉ s.anchor.written := by
    rw [Position.written, List.mem_append, List.mem_cons]
    rintro (h | h | h)
    · exact not_mem_digits rfl h
    · cases h
    · exact not_mem_digits rfl h
  rw [read, toList_write, cut?_append hanchor]
  simp only [readPosition_written h.anchor, readPosition_written h.active]
  rfl

theorem bounds_of_number? (h : number? t = some n) : 0 < n ∧ n < numberBound := by
  simp only [number?, Option.ite_none_left_eq_some, Option.ite_none_right_eq_some,
    Option.some.injEq] at h
  obtain ⟨_, hbounds, rfl⟩ := h
  exact hbounds

theorem lt_of_readIndex (h : readIndex t = .ok n) : n + 1 < numberBound := by
  unfold readIndex at h
  split at h
  · rename_i m hm
    obtain ⟨hpos, hlt⟩ := bounds_of_number? hm
    cases h
    omega
  · cases h

theorem eq_ok_of_bind_eq_ok {ε α β : Type} {x : Except ε α} {f : α → Except ε β} {b : β}
    (h : x >>= f = .ok b) : ∃ a, x = .ok a ∧ f a = .ok b := by
  cases x with
  | error _ => cases h
  | ok a => exact ⟨a, rfl, h⟩

theorem fits_of_readPosition (h : readPosition t = .ok p) : p.Fits := by
  unfold readPosition at h
  split at h
  · cases h
  · obtain ⟨m, hline, h⟩ := eq_ok_of_bind_eq_ok h
    obtain ⟨n, hcolumn, h⟩ := eq_ok_of_bind_eq_ok h
    cases h
    exact ⟨lt_of_readIndex hline, lt_of_readIndex hcolumn⟩

/-- Numbers that are read are words, and lower by one where they are counted from zero. -/
theorem fits_of_read (h : read t = .ok s) : s.Fits := by
  unfold read at h
  split at h
  · obtain ⟨p, hanchor, h⟩ := eq_ok_of_bind_eq_ok h
    obtain ⟨q, hactive, h⟩ := eq_ok_of_bind_eq_ok h
    cases h
    exact ⟨fits_of_readPosition hanchor, fits_of_readPosition hactive⟩
  · rw [map_eq_pure_bind] at h
    obtain ⟨p, hp, h⟩ := eq_ok_of_bind_eq_ok h
    cases h
    exact ⟨fits_of_readPosition hp, fits_of_readPosition hp⟩

theorem fits_of_mapM_read {texts : List Text} {selections : List Selection}
    (h : texts.mapM read = .ok selections) : ∀ s ∈ selections, s.Fits := by
  induction texts generalizing selections with
  | nil =>
    cases h
    exact fun _ hs => nomatch hs
  | cons t texts ih =>
    rw [List.mapM_cons] at h
    obtain ⟨s, hs, h⟩ := eq_ok_of_bind_eq_ok h
    obtain ⟨rest, hrest, h⟩ := eq_ok_of_bind_eq_ok h
    cases h
    exact List.forall_mem_cons.mpr ⟨fits_of_read hs, ih hrest⟩

theorem mapM_read_write {selections : List Selection} (h : ∀ s ∈ selections, s.Fits) :
    (selections.map fun s => s.write.toList).mapM read = .ok selections := by
  induction selections with
  | nil => rfl
  | cons s selections ih =>
    obtain ⟨hs, hrest⟩ := List.forall_mem_cons.mp h
    rw [List.map_cons, List.mapM_cons, read_write hs, ih hrest]
    rfl

end Selection

end TagSpacing
