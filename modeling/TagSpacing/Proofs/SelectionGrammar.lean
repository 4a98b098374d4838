import TagSpacing.Proofs.SelectionText

/-! The grammar of selections. What can be read is a position or two positions with a hyphen between
them, a position being two numbers with a colon between them, and nothing else can be read. -/
namespace TagSpacing

open Unicode (isBlank trim)

namespace Text

/-- A number: decimal digits, with a plus sign in front or not, and white space around both. It is
a word other than zero. -/
inductive WritesNumber : Text → Nat → Prop
  | intro {before sign digits after : Text} {n : Nat} (hbefore : ∀ c ∈ before, isBlank c)
    (hsign : sign = [] ∨ sign = ['+']) (hdigits : digits ≠ [])
    (hdigit : ∀ c ∈ digits, c.isDigit) (hafter : ∀ c ∈ after, isBlank c)
    (hvalue : Nat.ofDigitChars 10 digits 0 = n) (hpos : 1 ≤ n) (hle : n ≤ (1 <<< 64) - 1) :
    WritesNumber (before ++ (sign ++ digits) ++ after) n

/-- A position: its line and its column, counted from one. -/
inductive WritesPosition : Text → Position → Prop
  | intro {line column : Text} {p : Position} (hline : line.WritesNumber (p.line + 1))
    (hcolumn : column.WritesNumber (p.character + 1)) :
    WritesPosition (line ++ ':' :: column) p

/-- A selection: a caret, or an anchor and the place of the caret in either order. -/
inductive WritesSelection : Text → Selection → Prop
  | caret {t : Text} {p : Position} (h : t.WritesPosition p) : WritesSelection t (.caret p)
  | span {t u : Text} {p q : Position} (hanchor : t.WritesPosition p)
    (hactive : u.WritesPosition q) : WritesSelection (t ++ '-' :: u) ⟨p, q⟩

variable {t : Text} {n : Nat} {p : Position} {s : Selection} {c : Char}

/-- What a number is written with. -/
theorem WritesNumber.of_mem (h : t.WritesNumber n) (hc : c ∈ t) :
    isBlank c ∨ c = '+' ∨ c.isDigit := by
  obtain ⟨hbefore, hsign, _, hdigit, hafter, _, _, _⟩ := h
  simp only [List.mem_append] at hc
  rcases hc with (hc | hc | hc) | hc
  · exact .inl (hbefore c hc)
  · rcases hsign with rfl | rfl
    · cases hc
    · exact .inr (.inl (List.mem_singleton.mp hc))
  · exact .inr (.inr (hdigit c hc))
  · exact .inl (hafter c hc)

theorem WritesNumber.colon_not_mem (h : t.WritesNumber n) : ':' ∉ t := by
  intro hc
  exact absurd (h.of_mem hc) (by decide)

theorem WritesNumber.hyphen_not_mem (h : t.WritesNumber n) : '-' ∉ t := by
  intro hc
  exact absurd (h.of_mem hc) (by decide)

theorem WritesPosition.hyphen_not_mem (h : t.WritesPosition p) : '-' ∉ t := by
  obtain ⟨hline, hcolumn⟩ := h
  rw [List.mem_append, List.mem_cons]
  rintro (hc | hc | hc)
  · exact hline.hyphen_not_mem hc
  · cases hc
  · exact hcolumn.hyphen_not_mem hc

end Text

namespace Unicode

variable {t u before after : Text}

/-- Trimming takes white space away at both ends and nothing else. -/
theorem exists_eq_append_trim (t : Text) :
    ∃ before after, t = before ++ trim t ++ after ∧ (∀ c ∈ before, isBlank c) ∧
      ∀ c ∈ after, isBlank c := by
  let u := (t.dropWhile isBlank).reverse
  refine ⟨t.takeWhile isBlank, (u.takeWhile isBlank).reverse, ?_, ?_, ?_⟩
  · have hback : (u.dropWhile isBlank).reverse ++ (u.takeWhile isBlank).reverse =
        t.dropWhile isBlank := by
      rw [← List.reverse_append, List.takeWhile_append_dropWhile, List.reverse_reverse]
    rw [List.append_assoc, trim, hback, List.takeWhile_append_dropWhile]
  · intro c hc
    exact List.mem_takeWhile_imp hc
  · intro c hc
    exact List.mem_takeWhile_imp (List.mem_reverse.mp hc)

theorem trim_append (hbefore : ∀ c ∈ before, isBlank c) (hu : ∀ c ∈ u, isBlank c = false)
    (hne : u ≠ []) (hafter : ∀ c ∈ after, isBlank c) : trim (before ++ u ++ after) = u := by
  have hback : ∀ c ∈ after.reverse, isBlank c := by simpa using hafter
  have hfront : (u ++ after).dropWhile isBlank = u ++ after := by
    obtain ⟨c, u, rfl⟩ := List.exists_cons_of_ne_nil hne
    exact List.dropWhile_cons_of_neg (by simp [hu c List.mem_cons_self])
  rw [trim, List.append_assoc, List.dropWhile_append_of_pos hbefore, hfront, List.reverse_append,
    List.dropWhile_append_of_pos hback, dropWhile_isBlank_eq_self (by simpa using hu),
    List.reverse_reverse]

end Unicode

namespace Selection

variable {separator : Char} {n : Nat} {t u v : Text} {p : Position} {s : Selection}

theorem cut?_eq_some_iff :
    cut? separator t = some (u, v) ↔ t = u ++ separator :: v ∧ separator ∉ u := by
  constructor
  · intro h
    have hsplit := List.takeWhile_append_dropWhile (p := (· != separator)) (l := t)
    unfold cut? at h
    split at h
    · rename_i c rest hdrop
      cases h
      have hc : c = separator := by
        have hhead := List.head_dropWhile_not (· != separator) (l := t) (by simp [hdrop])
        simpa [hdrop] using hhead
      rw [hdrop, hc] at hsplit
      refine ⟨hsplit.symm, ?_⟩
      intro hmem
      have hother := List.mem_takeWhile_imp hmem
      simp at hother
    · cases h
  · rintro ⟨rfl, hu⟩
    exact cut?_append hu v

theorem cut?_eq_none_iff : cut? separator t = none ↔ separator ∉ t := by
  have hdrop : cut? separator t = none ↔ t.dropWhile (· != separator) = [] := by
    unfold cut?
    split
    · rename_i hdrop
      simp [hdrop]
    · rename_i hdrop
      simp [hdrop]
  rw [hdrop, List.dropWhile_eq_nil_iff]
  simp only [bne_iff_ne]
  constructor
  · intro h hmem
    exact h separator hmem rfl
  · rintro h c hc rfl
    exact h hc

theorem le_iff_lt_numberBound : n ≤ (1 <<< 64) - 1 ↔ n < numberBound := by
  exact Nat.le_sub_one_iff_lt (by decide)

/-- A text without the plus sign in front of it. -/
def unsigned : Text → Text
  | '+' :: rest => rest
  | t => t

theorem exists_eq_append_unsigned (t : Text) :
    ∃ sign, t = sign ++ unsigned t ∧ (sign = [] ∨ sign = ['+']) := by
  unfold unsigned
  split
  · exact ⟨['+'], rfl, .inr rfl⟩
  · exact ⟨[], rfl, .inl rfl⟩

theorem unsigned_append {sign ds : Text} (hsign : sign = [] ∨ sign = ['+'])
    (hdigit : ∀ c ∈ ds, c.isDigit) : unsigned (sign ++ ds) = ds := by
  rcases hsign with rfl | rfl
  · unfold unsigned
    split
    · rename_i heq
      have hplus : '+' ∈ ds := by
        rw [← List.nil_append ds, heq]
        exact List.mem_cons_self
      exact absurd (hdigit '+' hplus) (by decide)
    · rfl
  · rfl

theorem number?_eq_some_iff :
    number? t = some n ↔ unsigned t ≠ [] ∧ (∀ c ∈ unsigned t, c.isDigit) ∧
      Nat.ofDigitChars 10 (unsigned t) 0 = n ∧ 1 ≤ n ∧ n ≤ (1 <<< 64) - 1 := by
  have hnumber : number? t =
      if unsigned t = [] ∨ ¬(unsigned t).all Char.isDigit then none
      else if 0 < Nat.ofDigitChars 10 (unsigned t) 0 ∧
          Nat.ofDigitChars 10 (unsigned t) 0 < numberBound then
        some (Nat.ofDigitChars 10 (unsigned t) 0)
      else none := by
    rw [Nat.ofDigitChars_eq_foldl]
    rfl
  rw [hnumber]
  simp only [Option.ite_none_left_eq_some, Option.ite_none_right_eq_some, Option.some.injEq,
    not_or, not_not, List.all_eq_true, le_iff_lt_numberBound, and_assoc]
  constructor
  · rintro ⟨hne, hdigit, hpos, hlt, rfl⟩
    exact ⟨hne, hdigit, rfl, hpos, hlt⟩
  · rintro ⟨hne, hdigit, rfl, hpos, hlt⟩
    exact ⟨hne, hdigit, hpos, hlt, rfl⟩

theorem readIndex_eq_ok_iff_number? : readIndex t = .ok n ↔ number? (trim t) = some (n + 1) := by
  unfold readIndex
  split
  · rename_i m hm
    have hpos := (number?_eq_some_iff.mp hm).2.2.2.1
    rw [hm, Except.ok.injEq, Option.some.injEq]
    omega
  · rename_i hm
    simp [hm]

theorem readIndex_eq_ok_iff : readIndex t = .ok n ↔ t.WritesNumber (n + 1) := by
  rw [readIndex_eq_ok_iff_number?, number?_eq_some_iff]
  constructor
  · rintro ⟨hne, hdigit, hvalue, hpos, hle⟩
    obtain ⟨before, after, ht, hbefore, hafter⟩ := Unicode.exists_eq_append_trim t
    obtain ⟨sign, hsplit, hsign⟩ := exists_eq_append_unsigned (trim t)
    rw [ht, hsplit]
    exact .intro hbefore hsign hne hdigit hafter hvalue hpos hle
  · rintro ⟨hbefore, hsign, hne, hdigit, hafter, hvalue, hpos, hle⟩
    rename_i before sign ds after
    have hblank : ∀ c ∈ sign ++ ds, isBlank c = false := by
      intro c hc
      rcases List.mem_append.mp hc with hc | hc
      · rcases hsign with rfl | rfl
        · cases hc
        · cases List.mem_singleton.mp hc
          rfl
      · exact Unicode.isBlank_of_isDigit (hdigit c hc)
    have htrim : trim (before ++ (sign ++ ds) ++ after) = sign ++ ds :=
      Unicode.trim_append hbefore hblank (List.append_ne_nil_of_right_ne_nil sign hne) hafter
    rw [htrim, unsigned_append hsign hdigit]
    exact ⟨hne, hdigit, hvalue, hpos, hle⟩

theorem readPosition_eq_ok_iff : readPosition t = .ok p ↔ t.WritesPosition p := by
  constructor
  · intro h
    unfold readPosition at h
    split at h
    · cases h
    · rename_i line column hcut
      obtain ⟨rfl, _⟩ := cut?_eq_some_iff.mp hcut
      obtain ⟨m, hline, h⟩ := eq_ok_of_bind_eq_ok h
      obtain ⟨n, hcolumn, h⟩ := eq_ok_of_bind_eq_ok h
      cases h
      exact .intro (readIndex_eq_ok_iff.mp hline) (readIndex_eq_ok_iff.mp hcolumn)
  · rintro ⟨hline, hcolumn⟩
    rw [readPosition, cut?_append hline.colon_not_mem]
    simp only [readIndex_eq_ok_iff.mpr hline, readIndex_eq_ok_iff.mpr hcolumn]
    rfl

theorem writes_of_read (h : read t = .ok s) : t.WritesSelection s := by
  unfold read at h
  split at h
  · rename_i anchor active hcut
    obtain ⟨rfl, _⟩ := cut?_eq_some_iff.mp hcut
    obtain ⟨p, hanchor, h⟩ := eq_ok_of_bind_eq_ok h
    obtain ⟨q, hactive, h⟩ := eq_ok_of_bind_eq_ok h
    cases h
    exact .span (readPosition_eq_ok_iff.mp hanchor) (readPosition_eq_ok_iff.mp hactive)
  · rw [map_eq_pure_bind] at h
    obtain ⟨p, hp, h⟩ := eq_ok_of_bind_eq_ok h
    cases h
    exact .caret (readPosition_eq_ok_iff.mp hp)

theorem read_of_writes (h : t.WritesSelection s) : read t = .ok s := by
  cases h with
  | caret hp =>
    rw [read, cut?_eq_none_iff.mpr hp.hyphen_not_mem]
    simp only [readPosition_eq_ok_iff.mpr hp]
    rfl
  | span hanchor hactive =>
    rw [read, cut?_append hanchor.hyphen_not_mem]
    simp only [readPosition_eq_ok_iff.mpr hanchor, readPosition_eq_ok_iff.mpr hactive]
    rfl

/-- What can be read is just what is written by the grammar, and it is read as what it writes. All
its lines and columns are words, also when they are counted from one. -/
theorem read_eq_ok_iff_writes (t : Text) (s : Selection) :
    (read t = .ok s ↔ t.WritesSelection s) ∧ (read t = .ok s → s.Fits) :=
  ⟨⟨writes_of_read, read_of_writes⟩, fits_of_read⟩

theorem read_eq_ok_iff_writes_largest :
    let t : Text := " +1:007-2:18446744073709551615\n".toList
    let s : Selection := ⟨⟨0, 6⟩, ⟨1, 18446744073709551614⟩⟩
    read t = .ok s ∧ t.WritesSelection s ∧ s.Fits := by
  intro t s
  have hread : read t = .ok s := by rfl
  obtain ⟨hwrites, hfits⟩ := read_eq_ok_iff_writes t s
  exact ⟨hread, hwrites.mp hread, hfits hread⟩

example : ∀ t ∈ ["1:2-", "1:2:3", "+:1", "1:-2", "0:1", "18446744073709551616:1"],
    (read t.toList).isOk = false := by
  decide

end Selection

end TagSpacing
