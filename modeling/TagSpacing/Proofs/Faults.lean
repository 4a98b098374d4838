import TagSpacing.Proofs.RoundTrip

/-! Templates that cannot be read. What is at fault is a construct in braces, and by itself: the
text that begins with it cannot be read either, whatever stands in front of it or around it. -/
namespace TagSpacing

namespace Template

variable {nested : Bool} {c : Char} {n m : Nat} {s t u w rest whole : Text} {e : Element}
  {es : List Element} {items : List FormatItem} {tr : Transform} {flags flags' : TransformFlags}
  {fault : Fault}

/-! What a reader leaves is the end of what it was given. -/

theorem suffix_of_number (t : Text) : (number t).2 <:+ t := List.dropWhile_suffix _

theorem suffix_of_patternSource (h : patternSource t = some (s, rest)) : rest <:+ t := by
  induction t using patternSource.induct generalizing s with
  | case1 => cases h
  | case2 t =>
    cases h
    exact List.suffix_cons '/' _
  | case3 t ih =>
    rw [patternSource] at h
    obtain ⟨⟨q, _⟩, hq, heq⟩ := Option.map_eq_some_iff.mp h
    cases heq
    exact (ih hq).trans (List.suffix_append ['\\', '/'] t)
  | case4 c t hc ht ih =>
    rw [patternSource] at h
    · obtain ⟨⟨q, _⟩, hq, heq⟩ := Option.map_eq_some_iff.mp h
      cases heq
      exact (ih hq).trans (List.suffix_cons c t)
    · exact hc
    · exact ht

theorem suffix_of_format (h : format n t = some (items, rest)) : rest <:+ t := by
  induction n generalizing t items with
  | zero => cases h
  | succ n ih =>
    cases t with
    | nil => cases h
    | cons c t =>
      -- Behind a character or a group the reader goes on with a text that the first one ends with.
      have hchar {d : Char} {u : Text} (hu : u <:+ c :: t) (h : (format n u).map
          (fun p => (consFormatChar d p.1, p.2)) = some (items, rest)) :
          rest <:+ c :: t := by
        obtain ⟨_, hu', heq⟩ := Option.map_eq_some_iff.mp h
        cases heq
        exact (ih hu').trans hu
      have hgroup {g : Nat} {u : Text} (hu : u <:+ c :: t) (h : (format n u).map
          (fun p => (FormatItem.group g :: p.1, p.2)) = some (items, rest)) :
          rest <:+ c :: t := by
        obtain ⟨_, hu', heq⟩ := Option.map_eq_some_iff.mp h
        cases heq
        exact (ih hu').trans hu
      rw [format.eq_def] at h
      dsimp only at h
      split at h
      · cases h
        exact List.suffix_cons '/' _
      · split at h
        · exact hchar (List.suffix_append ['\\', _] _) h
        · exact hchar (List.suffix_cons '\\' _) h
      · split at h
        · exact hgroup ((suffix_of_number _).trans (List.suffix_cons '$' _)) h
        · split at h
          · split at h
            · split at h
              · rename_i e u _ _ _ v heq
                have hclosed : '\x7d' :: v <:+ e :: u := heq ▸ suffix_of_number (e :: u)
                have hv := (List.suffix_cons '\x7d' v).trans hclosed
                exact hgroup (hv.trans (List.suffix_append ['$', '\x7b'] (e :: u))) h
              · cases h
            · exact hchar (List.suffix_cons '$' _) h
          · exact hchar (List.suffix_cons '$' _) h
      · exact hchar (List.suffix_cons c t) h

theorem suffix_of_transformFlags (h : transformFlags whole flags t = .ok (flags', rest)) :
    rest <:+ t := by
  fun_induction transformFlags whole flags t with
  | case1 => cases h
  | case2 =>
    cases h
    exact List.suffix_cons _ _
  | case3 _ t ih => exact (ih h).trans (List.suffix_cons 'g' t)
  | case4 _ t ih => exact (ih h).trans (List.suffix_cons 'i' t)
  | case5 _ t ih => exact (ih h).trans (List.suffix_cons 'm' t)
  | case6 => cases h

theorem suffix_of_transform (h : transform whole t = .ok (tr, rest)) : rest <:+ t := by
  unfold transform at h
  split at h
  · cases h
  · rename_i pattern u hpattern
    split at h
    · cases h
    · rename_i format v hformat
      split at h
      · cases h
      · rename_i hflags
        split at h
        · cases h
        · cases h
          exact (suffix_of_transformFlags hflags).trans
            ((suffix_of_format hformat).trans (suffix_of_patternSource hpattern))

theorem eq_of_transformFlags_malformed
    (h : transformFlags whole flags t = .error (.malformed w)) : w = whole := by
  fun_induction transformFlags whole flags t with
  | case1 =>
    cases h
    rfl
  | case2 => cases h
  | case3 _ t ih => exact ih h
  | case4 _ t ih => exact ih h
  | case5 _ t ih => exact ih h
  | case6 => cases h

/-- A transform has no place of its own: it is the construct around it that is not complete. -/
theorem eq_of_transform_malformed (h : transform whole t = .error (.malformed w)) : w = whole := by
  unfold transform at h
  split at h
  · cases h
    rfl
  · split at h
    · cases h
      rfl
    · split at h
      · rename_i hfault
        cases h
        exact eq_of_transformFlags_malformed hfault
      · split at h
        · cases h
        · cases h

/-! What a round of a reader does depends on how many rounds are left only through the rounds behind
it. -/

/-- A round of the reader of elements at a character. It may go on behind a construct, so it is the
same round as long as the reader of constructs says the same. -/
inductive ElementsStep (nested : Bool) (n : Nat) (c : Char) (t : Text) : Prop
  | close (h : ∀ m, elements nested (m + 1) (c :: t) = .ok ([], c :: t))
  | fault {fault : Fault} (hc : c = '$') (hconstruct : construct n t = .error fault)
    (h : ∀ m, construct m t = construct n t → elements nested (m + 1) (c :: t) = .error fault)
  | next {f : List Element → List Element} {u : Text} (hu : u <:+ t)
    (h : ∀ m, construct m t = construct n t → elements nested (m + 1) (c :: t) =
      (elements nested m u).map fun (es, rest) => (f es, rest))

theorem elements_step_of_dollar (nested : Bool) (n : Nat) (t : Text)
    (hconstruct : ∀ e rest, construct n t = .ok (some (e, rest)) → rest <:+ t) :
    ElementsStep nested n '$' t := by
  cases hn : construct n t with
  | error fault =>
    refine .fault rfl hn fun m hm => ?_
    rw [elements.eq_def]
    simp [hm, hn]
  | ok r =>
    cases r with
    | none =>
      refine .next (f := consChar '$') List.suffix_rfl fun m hm => ?_
      rw [elements.eq_def]
      simp [hm, hn]
    | some p =>
      refine .next (f := (p.1 :: ·)) (hconstruct p.1 p.2 hn) fun m hm => ?_
      rw [elements.eq_def]
      simp [hm, hn]

theorem elements_step (nested : Bool) (n : Nat) (c : Char) (t : Text)
    (hconstruct : ∀ e rest, construct n t = .ok (some (e, rest)) → rest <:+ t) :
    ElementsStep nested n c t := by
  by_cases hdollar : c = '$'
  · subst hdollar
    exact elements_step_of_dollar nested n t hconstruct
  by_cases hclose : c = '\x7d' ∧ nested
  · refine .close fun m => ?_
    rw [elements.eq_def]
    simp [hclose]
  by_cases hback : c = '\\'
  · subst hback
    cases t with
    | nil =>
      refine .next (f := consChar '\\') List.suffix_rfl fun m _ => ?_
      rw [elements.eq_def]
      simp
    | cons e t =>
      by_cases he : e = '$' ∨ e = '\x7d' ∨ e = '\\'
      · refine .next (f := consChar e) (List.suffix_cons e t) fun m _ => ?_
        rw [elements.eq_def]
        simp [he]
      · refine .next (f := consChar '\\') List.suffix_rfl fun m _ => ?_
        rw [elements.eq_def]
        simp [he]
  · refine .next (f := consChar c) List.suffix_rfl fun m _ => ?_
    rw [elements.eq_def]
    simp only [hclose, hback, hdollar, if_false]

/-- A round of the reader of constructs behind a dollar sign. -/
inductive ConstructStep (t : Text) : Prop
  | brace {u : Text} (ht : t = '\x7b' :: u)
    (h : ∀ n, construct (n + 1) t = (braced ('$' :: t) n u).map some)
  | plain {r : Option (Element × Text)} (hr : ∀ e rest, r = some (e, rest) → rest <:+ t)
    (h : ∀ n, construct (n + 1) t = .ok r)

theorem construct_step (t : Text) : ConstructStep t := by
  cases t with
  | nil => exact .plain (r := none) nofun fun n => by rw [construct]
  | cons c t =>
    by_cases hbrace : c = '\x7b'
    · subst hbrace
      exact .brace rfl fun n => by rw [construct]
    by_cases hdigit : c.isDigit
    · refine .plain (r := some (.tabstop (number (c :: t)).1 [], (number (c :: t)).2)) ?_ ?_
      · rintro _ _ ⟨⟩
        exact suffix_of_number _
      · intro n
        rw [construct.eq_def]
        simp [hdigit]
    by_cases hstart : isNameStart c
    · refine .plain (r := some (.variable (name (c :: t)).1 [] none, (name (c :: t)).2)) ?_ ?_
      · rintro _ _ ⟨⟩
        exact List.dropWhile_suffix _
      · intro n
        rw [construct.eq_def]
        simp [hdigit, hstart]
    · refine .plain (r := none) nofun fun n => ?_
      rw [construct.eq_def]
      simp [hdigit, hstart]

/-- A round of the reader of constructs behind an opening brace. -/
inductive BracedStep (t : Text) : Prop
  | malformed (h : ∀ whole n, braced whole (n + 1) t = .error (.malformed whole))
  | closed {e : Element} {rest : Text} (hrest : rest <:+ t)
    (h : ∀ whole n, braced whole (n + 1) t = .ok (e, rest))
  | content {f : List Element → Element} {u : Text} (hu : u <:+ t)
    (hlen : u.length + 2 ≤ t.length) (h : ∀ whole n, braced whole (n + 1) t =
      (content whole n u).map fun (es, rest) => (f es, rest))
  | transform {f : Transform → Element} {u : Text} (hu : u <:+ t)
    (h : ∀ whole n, braced whole (n + 1) t =
      (transform whole u).map fun (tr, rest) => (f tr, rest))

theorem braced_step_of_digit (hdigit : c.isDigit) (t : Text) : BracedStep (c :: t) := by
  obtain ⟨i, u, hnumber⟩ : ∃ i u, number (c :: t) = (i, u) := ⟨_, _, rfl⟩
  have hdrop : u <:+ t := by
    rw [number, List.dropWhile_cons_of_pos hdigit] at hnumber
    cases hnumber
    exact List.dropWhile_suffix _
  rcases u with _ | ⟨d, u⟩
  · refine .malformed fun whole n => ?_
    rw [braced, if_pos hdigit, hnumber]
  have hu : u <:+ c :: t := (List.suffix_cons d u).trans (hdrop.trans (List.suffix_cons c t))
  have hlen : u.length + 2 ≤ t.length + 1 := Nat.succ_le_succ hdrop.length_le
  by_cases hclose : d = '\x7d'
  · subst hclose
    refine .closed (e := .tabstop i []) hu fun whole n => ?_
    rw [braced, if_pos hdigit, hnumber]
    rfl
  by_cases hcolon : d = ':'
  · subst hcolon
    refine .content (f := .tabstop i) hu hlen fun whole n => ?_
    rw [braced, if_pos hdigit, hnumber]
    rfl
  · refine .malformed fun whole n => ?_
    rw [braced, if_pos hdigit, hnumber]
    simp [hclose, hcolon]

theorem braced_step_of_name (hdigit : ¬c.isDigit) (hstart : isNameStart c) (t : Text) :
    BracedStep (c :: t) := by
  obtain ⟨v, u, hname⟩ : ∃ v u, name (c :: t) = (v, u) := ⟨_, _, rfl⟩
  have hdrop : u <:+ t := by
    have hchar := isNameChar_iff.mpr (isNameStart_iff.mp hstart).1
    rw [name, List.dropWhile_cons_of_pos hchar] at hname
    cases hname
    exact List.dropWhile_suffix _
  rcases u with _ | ⟨d, u⟩
  · refine .malformed fun whole n => ?_
    rw [braced, if_neg hdigit, if_pos hstart, hname]
  have hu : u <:+ c :: t := (List.suffix_cons d u).trans (hdrop.trans (List.suffix_cons c t))
  have hlen : u.length + 2 ≤ t.length + 1 := Nat.succ_le_succ hdrop.length_le
  by_cases hclose : d = '\x7d'
  · subst hclose
    refine .closed (e := .variable v [] none) hu fun whole n => ?_
    rw [braced, if_neg hdigit, if_pos hstart, hname]
    rfl
  by_cases hcolon : d = ':'
  · subst hcolon
    refine .content (f := (.variable v · none)) hu hlen fun whole n => ?_
    rw [braced, if_neg hdigit, if_pos hstart, hname]
    rfl
  by_cases hslash : d = '/'
  · subst hslash
    refine .transform (f := fun tr => .variable v [] (some tr)) hu fun whole n => ?_
    rw [braced, if_neg hdigit, if_pos hstart, hname]
    rfl
  · refine .malformed fun whole n => ?_
    rw [braced, if_neg hdigit, if_pos hstart, hname]
    simp [hclose, hcolon, hslash]

theorem braced_step (t : Text) : BracedStep t := by
  cases t with
  | nil => exact .malformed fun whole n => by rw [braced]
  | cons c t =>
    by_cases hdigit : c.isDigit
    · exact braced_step_of_digit hdigit t
    by_cases hstart : isNameStart c
    · exact braced_step_of_name hdigit hstart t
    · refine .malformed fun whole n => ?_
      rw [braced, if_neg hdigit, if_neg hstart]

theorem eq_error_of_map_eq_error {ε β γ : Type} {f : β → γ} {x : Except ε β} {err : ε}
    (h : x.map f = .error err) : x = .error err := by
  cases x with
  | error _ =>
    cases h
    rfl
  | ok _ => cases h

/-- In at most `n` rounds every reader leaves the end of what it was given. -/
structure Suffixes (n : Nat) : Prop where
  elements {nested : Bool} {t rest : Text} {es : List Element}
    (h : elements nested n t = .ok (es, rest)) : rest <:+ t
  construct {t rest : Text} {e : Element} (h : construct n t = .ok (some (e, rest))) : rest <:+ t
  braced {whole t rest : Text} {e : Element} (h : braced whole n t = .ok (e, rest)) : rest <:+ t
  content {whole t rest : Text} {es : List Element} (h : content whole n t = .ok (es, rest)) :
    rest <:+ t

namespace Suffixes

theorem elements_zero (h : Template.elements nested 0 t = .ok (es, rest)) : rest <:+ t := by
  cases t with
  | nil =>
    cases h
    exact List.suffix_rfl
  | cons c t => cases h

theorem elements_succ (ih : Suffixes n) (h : Template.elements nested (n + 1) t = .ok (es, rest)) :
    rest <:+ t := by
  cases t with
  | nil =>
    cases h
    exact List.suffix_rfl
  | cons c t =>
    cases elements_step nested n c t fun _ _ => ih.construct with
    | close hstep =>
      rw [hstep] at h
      cases h
      exact List.suffix_rfl
    | fault _ _ hstep =>
      rw [hstep n rfl] at h
      cases h
    | next hu hstep =>
      rw [hstep n rfl] at h
      obtain ⟨_, hrest, heq⟩ := eq_ok_of_map_eq_ok h
      cases heq
      exact (ih.elements hrest).trans (hu.trans (List.suffix_cons c t))

theorem construct_succ (ih : Suffixes n) (h : Template.construct (n + 1) t = .ok (some (e, rest))) :
    rest <:+ t := by
  cases construct_step t with
  | brace ht hstep =>
    rw [hstep] at h
    obtain ⟨_, hbraced, heq⟩ := eq_ok_of_map_eq_ok h
    cases heq
    rw [ht]
    exact (ih.braced hbraced).trans (List.suffix_cons _ _)
  | plain hr hstep =>
    rw [hstep] at h
    cases h
    exact hr _ _ rfl

theorem braced_succ (ih : Suffixes n) (h : Template.braced whole (n + 1) t = .ok (e, rest)) :
    rest <:+ t := by
  cases braced_step t with
  | malformed hstep =>
    rw [hstep] at h
    cases h
  | closed hrest hstep =>
    rw [hstep] at h
    cases h
    exact hrest
  | content hu _ hstep =>
    rw [hstep] at h
    obtain ⟨_, hcontent, heq⟩ := eq_ok_of_map_eq_ok h
    cases heq
    exact (ih.content hcontent).trans hu
  | transform hu hstep =>
    rw [hstep] at h
    obtain ⟨_, htransform, heq⟩ := eq_ok_of_map_eq_ok h
    cases heq
    exact (suffix_of_transform htransform).trans hu

theorem content_succ (ih : Suffixes n) (h : Template.content whole (n + 1) t = .ok (es, rest)) :
    rest <:+ t := by
  rw [Template.content] at h
  split at h
  · cases h
  · rename_i helements
    cases h
    exact (List.suffix_cons _ _).trans (ih.elements helements)
  · cases h

end Suffixes

theorem suffixes (n : Nat) : Suffixes n := by
  induction n with
  | zero => exact ⟨Suffixes.elements_zero, nofun, nofun, nofun⟩
  | succ n ih => exact ⟨ih.elements_succ, ih.construct_succ, ih.braced_succ, ih.content_succ⟩

/-- With more rounds than characters left, one round more makes no difference. -/
structure Steady (n : Nat) : Prop where
  elements {nested : Bool} {t : Text} (hn : t.length < n) :
    elements nested (n + 1) t = elements nested n t
  construct {t : Text} (hn : t.length < n) : construct (n + 1) t = construct n t
  braced {whole t : Text} (hn : t.length < n) : braced whole (n + 1) t = braced whole n t
  content {whole t : Text} (hn : t.length + 1 < n) : content whole (n + 1) t = content whole n t

namespace Steady

theorem elements_succ (ih : Steady n) (hn : t.length < n + 1) :
    Template.elements nested (n + 1 + 1) t = Template.elements nested (n + 1) t := by
  cases t with
  | nil => rw [Template.elements, Template.elements]
  | cons c t =>
    have hlen : t.length < n := Nat.lt_of_succ_lt_succ hn
    have hconstruct := ih.construct hlen
    cases elements_step nested n c t fun _ _ => (suffixes n).construct with
    | close hstep => rw [hstep, hstep]
    | fault _ _ hstep => rw [hstep (n + 1) hconstruct, hstep n rfl]
    | next hu hstep =>
      rw [hstep (n + 1) hconstruct, hstep n rfl,
        ih.elements (Nat.lt_of_le_of_lt hu.length_le hlen)]

theorem construct_succ (ih : Steady n) (hn : t.length < n + 1) :
    Template.construct (n + 1 + 1) t = Template.construct (n + 1) t := by
  cases construct_step t with
  | brace ht hstep =>
    subst ht
    rw [hstep, hstep, ih.braced (Nat.lt_of_succ_lt_succ hn)]
  | plain _ hstep => rw [hstep, hstep]

theorem braced_succ (ih : Steady n) (hn : t.length < n + 1) :
    Template.braced whole (n + 1 + 1) t = Template.braced whole (n + 1) t := by
  cases braced_step t with
  | malformed hstep => rw [hstep, hstep]
  | closed _ hstep => rw [hstep, hstep]
  | content _ hlen hstep => rw [hstep, hstep, ih.content (by omega)]
  | transform _ hstep => rw [hstep, hstep]

theorem content_succ (ih : Steady n) (hn : t.length + 1 < n + 1) :
    Template.content whole (n + 1 + 1) t = Template.content whole (n + 1) t := by
  rw [Template.content, Template.content, ih.elements (Nat.lt_of_succ_lt_succ hn)]

end Steady

theorem steady (n : Nat) : Steady n := by
  induction n with
  | zero => exact ⟨nofun, nofun, nofun, nofun⟩
  | succ n ih => exact ⟨ih.elements_succ, ih.construct_succ, ih.braced_succ, ih.content_succ⟩

theorem braced_of_le (hn : t.length < n) (hnm : n ≤ m) : braced whole m t = braced whole n t := by
  induction m, hnm using Nat.le_induction with
  | base => rfl
  | succ m hnm ih => rw [(steady m).braced (Nat.lt_of_lt_of_le hn hnm), ih]

/-- Whether a text holds a construct in braces that is at fault by itself. If it is a construct that
is not complete, it is this one. -/
inductive Faulty (t : Text) (fault : Fault) : Prop
  | intro {u : Text} {n : Nat} (hu : '$' :: '\x7b' :: u <:+ t) (hn : u.length < n)
    (h : braced ('$' :: '\x7b' :: u) n u = .error fault)
    (hplace : ∀ w, fault = .malformed w → w = '$' :: '\x7b' :: u)

theorem Faulty.of_suffix (h : Faulty u fault) (hu : u <:+ t) : Faulty t fault := by
  obtain ⟨hv, hn, hbraced, hplace⟩ := h
  exact .intro (hv.trans hu) hn hbraced hplace

/-- With enough rounds the readers report only what is at fault by itself. Content that is not
closed is the fault of the construct around it. -/
structure Blames (n : Nat) : Prop where
  elements {nested : Bool} {t : Text} {fault : Fault} (hn : t.length < n)
    (h : elements nested n t = .error fault) : Faulty t fault
  construct {t : Text} {fault : Fault} (hn : t.length < n) (h : construct n t = .error fault) :
    Faulty ('$' :: t) fault
  braced {t : Text} {fault : Fault} (hn : t.length < n)
    (h : braced ('$' :: '\x7b' :: t) n t = .error fault) : Faulty ('$' :: '\x7b' :: t) fault
  content {whole t : Text} {fault : Fault} (hn : t.length + 1 < n)
    (h : content whole n t = .error fault) : fault = .malformed whole ∨ Faulty t fault

namespace Blames

theorem elements_succ (ih : Blames n) (hn : t.length < n + 1)
    (h : Template.elements nested (n + 1) t = .error fault) : Faulty t fault := by
  cases t with
  | nil => cases h
  | cons c t =>
    have hlen : t.length < n := Nat.lt_of_succ_lt_succ hn
    cases elements_step nested n c t fun _ _ => (suffixes n).construct with
    | close hstep =>
      rw [hstep] at h
      cases h
    | fault hc hconstruct hstep =>
      rw [hstep n rfl] at h
      cases h
      rw [hc]
      exact ih.construct hlen hconstruct
    | next hu hstep =>
      rw [hstep n rfl] at h
      have hfault := ih.elements (Nat.lt_of_le_of_lt hu.length_le hlen) (eq_error_of_map_eq_error h)
      exact hfault.of_suffix (hu.trans (List.suffix_cons c t))

theorem construct_succ (ih : Blames n) (hn : t.length < n + 1)
    (h : Template.construct (n + 1) t = .error fault) : Faulty ('$' :: t) fault := by
  cases construct_step t with
  | brace ht hstep =>
    subst ht
    rw [hstep] at h
    exact ih.braced (Nat.lt_of_succ_lt_succ hn) (eq_error_of_map_eq_error h)
  | plain _ hstep =>
    rw [hstep] at h
    cases h

theorem braced_succ (ih : Blames n) (hn : t.length < n + 1)
    (h : Template.braced ('$' :: '\x7b' :: t) (n + 1) t = .error fault) :
    Faulty ('$' :: '\x7b' :: t) fault := by
  have hown (hplace : ∀ w, fault = .malformed w → w = '$' :: '\x7b' :: t) :
      Faulty ('$' :: '\x7b' :: t) fault := .intro List.suffix_rfl hn h hplace
  cases braced_step t with
  | malformed hstep =>
    rw [hstep] at h
    cases h
    apply hown
    rintro _ ⟨⟩
    rfl
  | closed _ hstep =>
    rw [hstep] at h
    cases h
  | content hu hlen hstep =>
    rw [hstep] at h
    rcases ih.content (by omega) (eq_error_of_map_eq_error h) with rfl | hfault
    · apply hown
      rintro _ ⟨⟩
      rfl
    · exact hfault.of_suffix (hu.trans (List.suffix_append ['$', '\x7b'] t))
  | transform _ hstep =>
    rw [hstep] at h
    apply hown
    rintro w rfl
    exact eq_of_transform_malformed (eq_error_of_map_eq_error h)

theorem content_succ (ih : Blames n) (hn : t.length + 1 < n + 1)
    (h : Template.content whole (n + 1) t = .error fault) :
    fault = .malformed whole ∨ Faulty t fault := by
  rw [Template.content] at h
  split at h
  · rename_i helements
    cases h
    exact .inr (ih.elements (Nat.lt_of_succ_lt_succ hn) helements)
  · cases h
  · cases h
    exact .inl rfl

end Blames

theorem blames (n : Nat) : Blames n := by
  induction n with
  | zero => exact ⟨nofun, nofun, nofun, nofun⟩
  | succ n ih => exact ⟨ih.elements_succ, ih.construct_succ, ih.braced_succ, ih.content_succ⟩

end Template

open Template

namespace Snippet

variable {t u : Text} {fault : Fault} {n : Nat}

theorem faulty_of_parse {error : SnippetError} (h : parse t = .error error) :
    ∃ fault, error = fault.toError t.length ∧ Faulty t fault := by
  unfold parse at h
  split at h
  · cases h
  · rename_i fault hfault
    cases h
    exact ⟨fault, rfl, (blames _).elements (by omega) hfault⟩

/-- A construct that is at fault by itself is so at the start of a template. -/
theorem parse_braced (hn : u.length < n) (h : braced ('$' :: '\x7b' :: u) n u = .error fault) :
    parse ('$' :: '\x7b' :: u) = .error (fault.toError ('$' :: '\x7b' :: u).length) := by
  have hrounds : 2 * ('$' :: '\x7b' :: u).length + 2 = 2 * u.length + 4 + 1 + 1 := by
    simp only [List.length_cons]
    omega
  have hbraced : braced ('$' :: '\x7b' :: u) (2 * u.length + 4) u = .error fault := by
    rw [← h]
    rcases Nat.le_total n (2 * u.length + 4) with hle | hle
    · exact braced_of_le hn hle
    · exact (braced_of_le (by omega) hle).symm
  have hconstruct : construct (2 * u.length + 4 + 1) ('\x7b' :: u) = .error fault := by
    rw [construct, hbraced]
    rfl
  rw [parse, hrounds, Template.elements.eq_def]
  simp [hconstruct]

/-- The construct that is reported as malformed begins with a dollar sign and a brace, and is
malformed without what stands in front of it. A template without such a pair can be read. -/
theorem parse_malformed (t : Text) :
    (∀ offset, parse t = .error (.malformed offset) →
      t[offset]? = some '$' ∧ t[offset + 1]? = some '\x7b' ∧
        parse (t.drop offset) = .error (.malformed 0)) ∧
      (¬['$', '\x7b'] <:+: t → ∃ s, parse t = .ok s) := by
  constructor
  · intro offset h
    obtain ⟨fault, herror, hfaulty⟩ := faulty_of_parse h
    obtain @⟨u, n, hu, hn, hbraced, hplace⟩ := hfaulty
    cases fault with
    | invalidRegex _ => cases herror
    | unknownFlag _ => cases herror
    | malformed w =>
      obtain rfl := hplace w rfl
      cases herror
      obtain ⟨before, rfl⟩ := hu
      have hoffset : (before ++ '$' :: '\x7b' :: u).length - ('$' :: '\x7b' :: u).length =
          before.length := by
        rw [List.length_append, Nat.add_sub_cancel]
      rw [hoffset, List.drop_left]
      refine ⟨by simp, by simp, ?_⟩
      rw [parse_braced hn hbraced, Fault.toError, Nat.sub_self]
  · intro hnone
    cases h : parse t with
    | ok s => exact ⟨s, rfl⟩
    | error error =>
      obtain ⟨_, _, hfaulty⟩ := faulty_of_parse h
      obtain @⟨u, _, hu, _, _, _⟩ := hfaulty
      have hpair : ['$', '\x7b'] <+: '$' :: '\x7b' :: u := List.prefix_append ['$', '\x7b'] u
      exact absurd (hpair.isInfix.trans hu.isInfix) hnone

/-- In `a${1:b${x` it is the inner construct that is not closed first. -/
theorem parse_malformed_nested :
    let t : Text := ['a', '$', '\x7b', '1', ':', 'b', '$', '\x7b', 'x']
    let plain : Text := ['$', 'a', '\x7b']
    (parse t = .error (.malformed 6) ∧ t[6]? = some '$' ∧ t[6 + 1]? = some '\x7b' ∧
        parse (t.drop 6) = .error (.malformed 0)) ∧
      ¬['$', '\x7b'] <:+: plain ∧ ∃ s, parse plain = .ok s := by
  intro t plain
  have ht : parse t = .error (.malformed 6) := rfl
  have hplain : ¬['$', '\x7b'] <:+: plain := by decide
  exact ⟨⟨ht, (parse_malformed t).1 6 ht⟩, hplain, (parse_malformed plain).2 hplain⟩

end Snippet

end TagSpacing
