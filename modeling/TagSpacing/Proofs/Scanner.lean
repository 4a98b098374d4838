import Mathlib.Data.List.TakeWhile
import TagSpacing.Proofs.Printer

/-! What the scanners of the parser make of numbers, names and transforms that are written down, and
what they can take from any text. -/
namespace TagSpacing

namespace Template

variable {c : Char} {n index : Nat} {p s t u v rest construct : Text} {i : FormatItem}
  {items : List FormatItem} {tr : Transform}

/-! Scanners that take all they can stop in front of the first character that is none of theirs. -/

theorem takeWhile_append_cons {f : Char → Bool} (ht : ∀ d ∈ t, f d) (hc : f c = false) :
    (t ++ c :: rest).takeWhile f = t := by
  rw [List.takeWhile_append_of_pos ht, List.takeWhile_cons_of_neg (by simp [hc]), List.append_nil]

theorem dropWhile_append_cons {f : Char → Bool} (ht : ∀ d ∈ t, f d) (hc : f c = false) :
    (t ++ c :: rest).dropWhile f = c :: rest := by
  rw [List.dropWhile_append_of_pos ht, List.dropWhile_cons_of_neg (by simp [hc])]

theorem isDigit_of_mem_digits (h : c ∈ digits n) : c.isDigit :=
  Nat.isDigit_of_mem_toDigits (by decide) (by decide) h

theorem le_largestNumber_iff : n ≤ largestNumber ↔ n < UInt64.size :=
  (Nat.lt_iff_le_pred (by decide)).symm

/-- A value that only grows is not cut on its way to an end that is not cut. -/
theorem foldl_min_eq {f : Nat → Char → Nat} {largest : Nat} (hf : ∀ n c, n ≤ f n c) (ds : Text)
    (h : ds.foldl f n ≤ largest) : ds.foldl (fun n c => min (f n c) largest) n = ds.foldl f n := by
  induction ds using List.reverseRecOn with
  | nil => rfl
  | append_singleton ds d ih =>
    rw [List.foldl_append, List.foldl_cons, List.foldl_nil] at h ⊢
    rw [List.foldl_append, List.foldl_cons, List.foldl_nil, ih ((hf _ d).trans h)]
    exact Nat.min_eq_left h

theorem foldl_digits (n : Nat) :
    (digits n).foldl (fun n c => 10 * n + (c.toNat - '0'.toNat)) 0 = n := by
  rw [← Nat.ofDigitChars_eq_foldl]
  exact Nat.ofDigitChars_toDigits (by decide) (by decide)

theorem numberValue_digits (h : n < UInt64.size) : numberValue (digits n) = n := by
  have hvalue := foldl_digits n
  have hgrow (n : Nat) (c : Char) : n ≤ 10 * n + (c.toNat - '0'.toNat) := by omega
  have hle := le_largestNumber_iff.mpr h
  exact (foldl_min_eq hgrow _ (hvalue.trans_le hle)).trans hvalue

theorem numberValue_lt (t : Text) : numberValue t < UInt64.size := by
  apply le_largestNumber_iff.mp
  induction t using List.reverseRecOn with
  | nil => exact Nat.zero_le _
  | append_singleton t c _ =>
    rw [numberValue, List.foldl_append]
    exact Nat.min_le_right ..

theorem exists_digits_eq_cons (h : n < UInt64.size) :
    ∃ d ds, digits n = d :: ds ∧ d.isDigit ∧
      ∀ c rest, c.isDigit = false → number (d :: (ds ++ c :: rest)) = (n, c :: rest) := by
  obtain ⟨d, ds, hds⟩ : ∃ d ds, digits n = d :: ds :=
    List.exists_cons_of_ne_nil Nat.toDigits_ne_nil
  have hdigits : ∀ d ∈ digits n, d.isDigit := fun d => isDigit_of_mem_digits
  refine ⟨d, ds, hds, hdigits d (hds ▸ List.mem_cons_self), ?_⟩
  intro c rest hc
  rw [← List.cons_append, ← hds, number, takeWhile_append_cons hdigits hc,
    dropWhile_append_cons hdigits hc, numberValue_digits h]

theorem lt_of_number (h : number t = (index, u)) : index < UInt64.size := by
  cases h
  exact numberValue_lt _

theorem isDigit_eq_false_of_isAlpha (h : c.isAlpha) : c.isDigit = false := by
  have hle : 'A'.toNat ≤ c.toNat := by
    rcases Bool.or_eq_true_iff.mp h with h | h
    · have hupper : 'A'.val ≤ c.val ∧ c.val ≤ 'Z'.val := of_decide_eq_true h
      exact hupper.1
    · exact Nat.le_trans (by decide) (of_decide_eq_true (Bool.and_eq_true_iff.mp h).1)
  have hlt : '9'.toNat < 'A'.toNat := by decide
  refine Bool.eq_false_iff.mpr ?_
  intro hdigit
  have hle' := (Char.isDigit_iff_toNat.mp hdigit).2
  omega

theorem isNameStart_iff : isNameStart c ↔ (c = '_' ∨ c.isAlphanum) ∧ c.isDigit = false := by
  rw [isNameStart, Bool.or_eq_true, decide_eq_true_eq, Char.isAlphanum, Bool.or_eq_true]
  constructor
  · rintro (rfl | h)
    · exact ⟨.inl rfl, rfl⟩
    · exact ⟨.inr (.inl h), isDigit_eq_false_of_isAlpha h⟩
  · rintro ⟨h | h | h, hdigit⟩
    · exact .inl h
    · exact .inr h
    · cases h.symm.trans hdigit

theorem isNameChar_iff : isNameChar c ↔ c = '_' ∨ c.isAlphanum := by
  rw [isNameChar, Bool.or_eq_true, decide_eq_true_eq]

theorem exists_name_eq_cons (h : IsName v) :
    ∃ d ds, v = d :: ds ∧ ¬d.isDigit ∧ isNameStart d ∧
      ∀ c rest, isNameChar c = false → name (d :: (ds ++ c :: rest)) = (v, c :: rest) := by
  obtain ⟨d, ds, rfl⟩ := List.exists_cons_of_ne_nil h.nonempty
  have hdigit := h.start d rfl
  have hchars : ∀ c ∈ d :: ds, isNameChar c := fun c hc => isNameChar_iff.mpr (h.chars c hc)
  have hstart : isNameStart d := isNameStart_iff.mpr ⟨h.chars d List.mem_cons_self, hdigit⟩
  refine ⟨d, ds, rfl, ne_true_of_eq_false hdigit, hstart, ?_⟩
  intro c rest hc
  rw [← List.cons_append, name, takeWhile_append_cons hchars hc, dropWhile_append_cons hchars hc]

theorem isName_of_name (h : isNameStart c) (hname : name (c :: t) = (v, u)) : IsName v := by
  obtain ⟨hc, hdigit⟩ := isNameStart_iff.mp h
  rw [name, List.takeWhile_cons_of_pos (isNameChar_iff.mpr hc)] at hname
  cases hname
  refine ⟨List.cons_ne_nil _ _, ?_, ?_⟩
  · intro d hd
    cases hd
    exact hdigit
  · intro d hd
    rcases List.mem_cons.mp hd with rfl | hd
    · exact hc
    · exact isNameChar_iff.mp (List.mem_takeWhile_imp hd)

theorem patternSource_cons (hc : c ≠ '/') (ht : c = '\\' → t.head? ≠ some '/') :
    patternSource (c :: t) = (patternSource t).map fun (p, rest) => (c :: p, rest) := by
  rw [patternSource]
  · exact hc
  · intro rest hback hslash
    exact ht hback (congrArg List.head? hslash)

/-- A backslash goes with the slash behind it, so none may be left in front of the slash that ends
the pattern. -/
theorem patternSource_escape (h : p.getLast? ≠ some '\\') :
    patternSource (escape ['/'] p ++ '/' :: rest) = some (p, rest) := by
  induction p with
  | nil => rfl
  | cons c p ih =>
    have hlast : p.getLast? ≠ some '\\' := by
      intro hp
      rw [List.getLast?_cons, hp] at h
      exact h rfl
    by_cases hc : c ∈ ['/']
    · obtain rfl : c = '/' := List.mem_singleton.mp hc
      rw [escape_cons_of_mem hc, List.cons_append, List.cons_append, patternSource, ih hlast]
      rfl
    · rw [escape_cons_of_not_mem hc, List.cons_append, patternSource_cons, ih hlast]
      · rfl
      · exact fun heq => hc (List.mem_singleton.mpr heq)
      · rintro rfl
        have hp : p ≠ [] := by
          rintro rfl
          exact h rfl
        exact head?_escape_append_ne List.mem_cons_self (by decide) hp

theorem eq_cons_of_patternSource_eq_nil (h : patternSource t = some ([], rest)) :
    t = '/' :: rest := by
  unfold patternSource at h
  split at h
  · cases h
  · cases h
    rfl
  · obtain ⟨_, _, heq⟩ := Option.map_eq_some_iff.mp h
    cases heq
  · obtain ⟨_, _, heq⟩ := Option.map_eq_some_iff.mp h
    cases heq

theorem getLast?_of_patternSource (h : patternSource t = some (p, rest)) :
    p.getLast? ≠ some '\\' := by
  induction t using patternSource.induct generalizing p with
  | case1 => cases h
  | case2 =>
    cases h
    exact nofun
  | case3 t ih =>
    rw [patternSource] at h
    obtain ⟨⟨q, _⟩, hq, heq⟩ := Option.map_eq_some_iff.mp h
    cases heq
    cases q with
    | nil => exact ne_of_beq_false rfl
    | cons d q =>
      rw [List.getLast?_cons_cons]
      exact ih hq
  | case4 c t hc ht ih =>
    rw [patternSource] at h
    · obtain ⟨⟨q, _⟩, hq, heq⟩ := Option.map_eq_some_iff.mp h
      cases heq
      cases q with
      | nil =>
        -- the pattern ends with `c` and the slash behind it is not part of it
        intro hback
        exact ht _ (Option.some.inj hback) (eq_cons_of_patternSource_eq_nil hq)
      | cons d q =>
        rw [List.getLast?_cons_cons]
        exact ih hq
    · exact hc
    · exact ht

theorem format_escaped (h : c ∈ ['/', '$', '\\']) :
    format (n + 1) ('\\' :: c :: u) =
      (format n u).map fun (items, rest) => (consFormatChar c items, rest) := by
  have hc : c = '/' ∨ c = '$' ∨ c = '\\' := by simpa using h
  rw [format]
  simp [hc]

theorem format_plain (h : c ∉ ['/', '$', '\\']) :
    format (n + 1) (c :: u) =
      (format n u).map fun (items, rest) => (consFormatChar c items, rest) := by
  have hc : c ≠ '/' ∧ c ≠ '$' ∧ c ≠ '\\' := by simpa using h
  rw [format]
  · exact hc.1
  · exact fun _ _ hback => absurd hback hc.2.2
  · exact fun _ _ hdollar => absurd hdollar hc.2.1

theorem format_escape (s u : Text) (n : Nat) :
    format (s.length + n) (escape ['/', '$', '\\'] s ++ u) =
      (format n u).map fun (items, rest) => (s.foldr consFormatChar items, rest) := by
  induction s with
  | nil =>
    rw [List.length_nil, Nat.zero_add]
    exact (Option.map_id' (x := format n u)).symm
  | cons c s ih =>
    rw [List.length_cons, Nat.succ_add]
    by_cases hc : c ∈ ['/', '$', '\\']
    · rw [escape_cons_of_mem hc, List.cons_append, List.cons_append, format_escaped hc, ih,
        Option.map_map]
      rfl
    · rw [escape_cons_of_not_mem hc, List.cons_append, format_plain hc, ih, Option.map_map]
      rfl

theorem format_group (h : index < UInt64.size) :
    format (n + 1) (FormatItem.print (.group index) ++ u) =
      (format n u).map fun (items, rest) => (.group index :: items, rest) := by
  obtain ⟨d, ds, hds, hd, hnumber⟩ := exists_digits_eq_cons h
  have hprint : FormatItem.print (.group index) ++ u =
      '$' :: '\x7b' :: d :: (ds ++ '\x7d' :: u) := by
    simp [FormatItem.print, hds]
  rw [hprint, format]
  simp [hd, hnumber '\x7d' u (by decide)]

/-- A round reads one character or one group, and one more sees the slash at the end. -/
theorem format_print (hp : Parted FormatItem.text? items)
    (hg : ∀ index, .group index ∈ items → index < UInt64.size)
    (hn : (items.flatMap FormatItem.print).length < n) :
    format n (items.flatMap FormatItem.print ++ '/' :: rest) = some (items, rest) := by
  induction items generalizing n with
  | nil =>
    obtain ⟨n, rfl⟩ := Nat.exists_eq_add_of_lt hn
    rw [List.flatMap_nil, List.nil_append, format]
  | cons i items ih =>
    obtain ⟨-, -, hitems⟩ := parted_cons_iff.mp hp
    have hg' : ∀ index, .group index ∈ items → index < UInt64.size :=
      fun index hmem => hg index (List.mem_cons_of_mem i hmem)
    rw [List.flatMap_cons, List.length_append] at hn
    rw [List.flatMap_cons, List.append_assoc]
    cases i with
    | text s =>
      have hlen := length_le_length_escape ['/', '$', '\\'] s
      rw [FormatItem.print] at hn ⊢
      obtain ⟨m, rfl⟩ := Nat.exists_eq_add_of_le (show s.length ≤ n by omega)
      rw [format_escape, ih hitems hg' (by omega)]
      have htext := joins_consFormatChar.foldr_eq_of_parted hp
      exact congrArg (fun items => some (items, rest)) htext
    | group index =>
      have hlen : 0 < (FormatItem.print (.group index)).length := Nat.zero_lt_succ _
      obtain ⟨m, rfl⟩ := Nat.exists_eq_add_of_le' (show 1 ≤ n by omega)
      rw [format_group (hg index List.mem_cons_self), ih hitems hg' (by omega)]
      rfl

/-- All that a round of the reader of formats can do. -/
inductive FormatRound (n : Nat) (rest : Text) : List FormatItem → Prop
  | done : FormatRound n rest []
  | char {c : Char} {u : Text} {items : List FormatItem} (h : format n u = some (items, rest)) :
    FormatRound n rest (consFormatChar c items)
  | group {d u : Text} {items : List FormatItem} (h : format n u = some (items, rest)) :
    FormatRound n rest (.group (number d).1 :: items)

theorem format_cases (h : format (n + 1) t = some (items, rest)) : FormatRound n rest items := by
  have hchar {c : Char} {u : Text} (h : (format n u).map (fun (items, rest) =>
      (consFormatChar c items, rest)) = some (items, rest)) : FormatRound n rest items := by
    obtain ⟨_, hu, heq⟩ := Option.map_eq_some_iff.mp h
    cases heq
    exact .char hu
  have hgroup {d u : Text} (h : (format n u).map (fun (items, rest) =>
      (.group (number d).1 :: items, rest)) = some (items, rest)) : FormatRound n rest items := by
    obtain ⟨_, hu, heq⟩ := Option.map_eq_some_iff.mp h
    cases heq
    exact .group hu
  cases t with
  | nil => cases h
  | cons c t =>
    rw [format.eq_def] at h
    dsimp only at h
    split at h
    · cases h
      exact .done
    · split at h
      · exact hchar h
      · exact hchar h
    · split at h
      · exact hgroup h
      · split at h
        · split at h
          · split at h
            · exact hgroup h
            · cases h
          · exact hchar h
        · exact hchar h
    · exact hchar h

theorem parted_of_format (h : format n t = some (items, rest)) : Parted FormatItem.text? items := by
  induction n generalizing t items with
  | zero => cases h
  | succ n ih =>
    cases format_cases h with
    | done => exact parted_nil
    | char hu => exact joins_consFormatChar.parted (ih hu) _
    | group hu => exact parted_cons_iff.mpr ⟨nofun, fun _ _ => .inl rfl, ih hu⟩

theorem groups_of_format (h : format n t = some (items, rest)) (hmem : .group index ∈ items) :
    index < UInt64.size := by
  induction n generalizing t items with
  | zero => cases h
  | succ n ih =>
    cases format_cases h with
    | done => cases hmem
    | char hu =>
      rcases joins_consFormatChar.mem hmem with ⟨t, ht⟩ | hmem
      · cases ht
      · exact ih hu hmem
    | group hu =>
      rcases List.mem_cons.mp hmem with heq | hmem
      · cases heq
        exact lt_of_number rfl
      · exact ih hu hmem

theorem transformFlags_flags (construct : Text) (tr : Transform) (rest : Text) :
    transformFlags construct {} (tr.flags ++ '\x7d' :: rest) =
      .ok (⟨tr.isGlobal, tr.ignoreCase, tr.multiLine⟩, rest) := by
  obtain ⟨_, _, isGlobal, ignoreCase, multiLine, _, _⟩ := tr
  cases isGlobal <;> cases ignoreCase <;> cases multiLine <;> rfl

theorem transform_print (h : tr.WellFormed) :
    transform construct (tr.print ++ '\x7d' :: rest) = .ok (tr, rest) := by
  have hlen : (tr.format.flatMap FormatItem.print).length <
      (tr.format.flatMap FormatItem.print ++ '/' :: (tr.flags ++ '\x7d' :: rest)).length := by
    simp only [List.length_append, List.length_cons]
    omega
  rw [Transform.print, List.append_assoc, List.cons_append, List.append_assoc, List.cons_append]
  unfold transform
  rw [patternSource_escape h.pattern]
  simp only [format_print h.parted h.groups hlen, transformFlags_flags]
  split
  · rename_i hnone
    cases hnone.symm.trans tr.compile_pattern
  · rename_i program hsome
    cases Option.some.inj (hsome.symm.trans tr.compile_pattern)
    rfl

theorem wellFormed_of_transform (h : transform construct t = .ok (tr, rest)) : tr.WellFormed := by
  unfold transform at h
  split at h
  · cases h
  · rename_i pattern u hpattern
    split at h
    · cases h
    · rename_i format v hformat
      split at h
      · cases h
      · split at h
        · cases h
        · cases h
          exact ⟨getLast?_of_patternSource hpattern, parted_of_format hformat,
            fun index => groups_of_format hformat⟩

end Template

end TagSpacing
