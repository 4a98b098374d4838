import TagSpacing.Text

/-! Cutting a text at offsets. -/
namespace TagSpacing.Text

variable {t u v : Text} {i j k : Nat}

theorem length_slice (t : Text) (i j : Nat) :
    (t.slice i j).length = min (j - i) (t.length - i) := by
  simp [slice]

theorem length_slice_zero (hk : k ≤ t.length) : (t.slice 0 k).length = k := by
  rw [length_slice]
  omega

@[simp] theorem slice_self (t : Text) (i : Nat) : t.slice i i = [] := by simp [slice]

theorem slice_eq_nil (h : j ≤ i) : t.slice i j = [] := by
  simp [slice, Nat.sub_eq_zero_of_le h]

theorem slice_append_drop (h : i ≤ j) : t.slice i j ++ t.drop j = t.drop i := by
  obtain ⟨k, rfl⟩ := Nat.exists_eq_add_of_le h
  simp [slice, ← List.drop_drop]

theorem slice_append_slice (hij : i ≤ j) (hjk : j ≤ k) :
    t.slice i j ++ t.slice j k = t.slice i k := by
  have hdrop : t.drop j = (t.drop i).drop (j - i) := by rw [List.drop_drop, Nat.add_sub_of_le hij]
  have hlen : k - i = j - i + (k - j) := by omega
  rw [slice, slice, slice, hdrop, hlen, List.take_add]

theorem take_append_slice_append_drop (h : i ≤ j) : t.take i ++ t.slice i j ++ t.drop j = t := by
  rw [List.append_assoc, slice_append_drop h, List.take_append_drop]

theorem slice_append_of_le_length (h : j ≤ u.length) : (u ++ v).slice i j = u.slice i j := by
  rcases Nat.lt_or_ge j i with hji | hij
  · rw [slice_eq_nil (by omega), slice_eq_nil (by omega)]
  · rw [slice, slice, List.drop_append_of_le_length (by omega),
      List.take_append_of_le_length (by simp; omega)]

/-- A piece of the front of a text does not depend on what follows. -/
theorem slice_slice_append (hj : j ≤ k) (hk : k ≤ t.length) (v : Text) :
    (t.slice 0 k ++ v).slice i j = t.slice i j := by
  have hlen := length_slice_zero hk
  have hsplit : t.slice 0 k ++ t.drop k = t := slice_append_drop (Nat.zero_le k)
  calc (t.slice 0 k ++ v).slice i j
      = (t.slice 0 k).slice i j := slice_append_of_le_length (by omega)
    _ = (t.slice 0 k ++ t.drop k).slice i j := (slice_append_of_le_length (by omega)).symm
    _ = t.slice i j := by rw [hsplit]

theorem slice_length_add (u v : Text) (i j : Nat) :
    (u ++ v).slice (u.length + i) (u.length + j) = v.slice i j := by
  simp [slice, List.drop_append, Nat.add_sub_add_left, List.drop_eq_nil_of_le]

theorem slice_append_append (u v w : Text) :
    (u ++ v ++ w).slice u.length (u.length + v.length) = v := by
  simp [slice]

/-- Columns behind the end of a text are its end. -/
theorem slice_min_length (t : Text) (i j : Nat) :
    t.slice (min i t.length) (min j t.length) = t.slice i j := by
  rcases Nat.le_total t.length i with hi | hi
  · have hd : t.drop i = [] := List.drop_eq_nil_of_le hi
    simp [slice, Nat.min_eq_right hi, hd]
  · rw [Nat.min_eq_left hi]
    rcases Nat.le_total j t.length with hj | hj
    · rw [Nat.min_eq_left hj]
    · rw [Nat.min_eq_right hj, slice, slice, List.take_of_length_le (by simp),
        List.take_of_length_le (by simp; omega)]

theorem drop_slice (t : Text) (i j k : Nat) : (t.slice i j).drop k = t.slice (i + k) j := by
  rw [slice, slice, List.drop_take, List.drop_drop, Nat.sub_sub]

theorem mem_slice {c : Char} (hij : i ≤ j) (hjk : j < k) (hc : t[j]? = some c) :
    c ∈ t.slice i k := by
  refine List.mem_of_getElem? (i := j - i) ?_
  rw [slice, List.getElem?_take_of_lt (by omega), List.getElem?_drop, Nat.add_sub_of_le hij, hc]

end TagSpacing.Text
