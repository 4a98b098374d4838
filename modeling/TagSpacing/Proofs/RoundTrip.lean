import TagSpacing.Proofs.Scanner
import TagSpacing.Proofs.Template

/-! Templates and snippets: a snippet that is written down is read back, and whatever is read can be
written down. -/
namespace TagSpacing

namespace Template

variable {nested : Bool} {c : Char} {n index : Nat} {s t u v head rest whole : Text} {e : Element}
  {es : List Element} {tr : Transform} {make : List Element → Element}

theorem elements_escaped (h : c ∈ ['$', '\x7d', '\\']) :
    elements nested (n + 1) ('\\' :: c :: u) =
      (elements nested n u).map fun (es, rest) => (consChar c es, rest) := by
  have hc : c = '$' ∨ c = '\x7d' ∨ c = '\\' := by simpa using h
  rw [elements]
  simp [hc]

theorem elements_plain (h : c ∉ ['$', '\x7d', '\\']) :
    elements nested (n + 1) (c :: u) =
      (elements nested n u).map fun (es, rest) => (consChar c es, rest) := by
  have hc : c ≠ '$' ∧ c ≠ '\x7d' ∧ c ≠ '\\' := by simpa using h
  rw [elements.eq_def]
  simp [hc]

theorem elements_escape (s u : Text) (n : Nat) :
    elements nested (s.length + n) (escape ['$', '\x7d', '\\'] s ++ u) =
      (elements nested n u).map fun (es, rest) => (s.foldr consChar es, rest) := by
  induction s with
  | nil =>
    rw [List.length_nil, Nat.zero_add]
    cases h : elements nested n u <;> simp [escape, h, Except.map]
  | cons c s ih =>
    rw [List.length_cons, Nat.succ_add]
    by_cases hc : c ∈ ['$', '\x7d', '\\']
    · rw [escape_cons_of_mem hc, List.cons_append, List.cons_append, elements_escaped hc, ih]
      cases elements nested n u <;> rfl
    · rw [escape_cons_of_not_mem hc, List.cons_append, elements_plain hc, ih]
      cases elements nested n u <;> rfl

theorem elements_construct (h : construct n t = .ok (some (e, u))) :
    elements nested (n + 1) ('$' :: t) =
      (elements nested n u).map fun (es, rest) => (e :: es, rest) := by
  rw [elements.eq_def]
  simp [h]

/-- What may stand behind some elements: nothing or, in a construct, the brace that closes it. -/
inductive Closing : Bool → Text → Prop
  | eof {nested : Bool} : Closing nested []
  | brace (rest : Text) : Closing true ('\x7d' :: rest)

theorem elements_closing (h : Closing nested rest) :
    elements nested (n + 1) rest = .ok ([], rest) := by
  cases h with
  | eof => rw [elements]
  | brace rest =>
    rw [elements.eq_def]
    simp

/-- A construct that the parser reads back, whatever follows it. -/
def ReadBack (e : Element) : Prop :=
  ∃ t, e.print = '$' :: t ∧ ∀ n rest, t.length < n → construct n (t ++ rest) = .ok (some (e, rest))

section Content

variable (hp : Parted Element.text? es) (hread : ∀ e ∈ es, e.text? = none → ReadBack e)
include hp hread

/-- Elements are read back if the constructs among them are. There is a round for each character at
most, and one more sees where the elements end. -/
theorem elements_printAll (hn : (Element.printAll es).length < n) (hrest : Closing nested rest) :
    elements nested n (Element.printAll es ++ rest) = .ok (es, rest) := by
  induction es generalizing n with
  | nil =>
    obtain ⟨m, rfl⟩ := Nat.exists_eq_add_of_lt hn
    rw [Element.printAll, List.nil_append]
    exact elements_closing hrest
  | cons e es ih =>
    obtain ⟨-, -, hes⟩ := parted_cons_iff.mp hp
    have hread' : ∀ e ∈ es, e.text? = none → ReadBack e :=
      fun e' hmem => hread e' (List.mem_cons_of_mem e hmem)
    rw [Element.printAll, List.length_append] at hn
    rw [Element.printAll, List.append_assoc]
    cases htext : e.text? with
    | some s =>
      obtain rfl := (joins_consChar.text?_eq_some_iff e s).mp htext
      have hlen := length_le_length_escape ['$', '\x7d', '\\'] s
      rw [Element.print] at hn ⊢
      obtain ⟨m, rfl⟩ := Nat.exists_eq_add_of_le (show s.length ≤ n by omega)
      rw [elements_escape, ih hes hread' (by omega)]
      have hjoined := joins_consChar.foldr_eq_of_parted hp
      exact congrArg (fun es => Except.ok (es, rest)) hjoined
    | none =>
      obtain ⟨t, hprint, ht⟩ := hread e List.mem_cons_self htext
      rw [hprint, List.length_cons] at hn
      obtain ⟨m, rfl⟩ := Nat.exists_eq_add_of_le' (show 1 ≤ n by omega)
      have he := ht m (Element.printAll es ++ rest) (by omega)
      rw [hprint, List.cons_append, elements_construct he, ih hes hread' (by omega)]
      rfl

theorem content_printAll (hn : (Element.printAll es).length < n) :
    content whole (n + 1) (Element.printAll es ++ '\x7d' :: rest) = .ok (es, rest) := by
  rw [content, elements_printAll hp hread hn (.brace rest)]
  rfl

/-- A construct without a transform closes behind its head, or has a colon there and elements behind
that. -/
theorem braced_printContent
    (hclosed : ∀ n rest, braced whole (n + 1) (head ++ '\x7d' :: rest) = .ok (make [], rest))
    (hopen : ∀ n rest, braced whole (n + 1) (head ++ ':' :: rest) =
      (content whole n rest).map fun (es, rest) => (make es, rest))
    (hn : (Element.printContent es).length < n) :
    braced whole (n + 1) (head ++ (Element.printContent es ++ '\x7d' :: rest)) =
      .ok (make es, rest) := by
  cases es with
  | nil => exact hclosed n rest
  | cons e es =>
    rw [Element.printContent_cons, List.length_cons] at hn
    obtain ⟨m, rfl⟩ := Nat.exists_eq_add_of_le' (show 1 ≤ n by omega)
    rw [Element.printContent_cons, List.cons_append, hopen,
      content_printAll hp hread (show (Element.printAll (e :: es)).length < m by omega)]
    rfl

end Content

/-- A construct in braces is read back if what stands behind its opening brace is. -/
theorem readBack_of_braced (hprint : e.print = '$' :: '\x7b' :: t)
    (h : ∀ whole n rest, t.length ≤ n + 1 → braced whole (n + 1) (t ++ rest) = .ok (e, rest)) :
    ReadBack e := by
  refine ⟨'\x7b' :: t, hprint, ?_⟩
  intro n rest hn
  rw [List.length_cons] at hn
  obtain ⟨m, rfl⟩ := Nat.exists_eq_add_of_le' (show 2 ≤ n by omega)
  rw [List.cons_append, construct, h _ m rest (by omega)]
  rfl

theorem readBack_of_head (make : List Element → Element) (hhead : head ≠ [])
    (hprint : (make es).print =
      '$' :: '\x7b' :: (head ++ (Element.printContent es ++ ['\x7d'])))
    (hclosed : ∀ whole n rest,
      braced whole (n + 1) (head ++ '\x7d' :: rest) = .ok (make [], rest))
    (hopen : ∀ whole n rest, braced whole (n + 1) (head ++ ':' :: rest) =
      (content whole n rest).map fun (es, rest) => (make es, rest))
    (hp : Parted Element.text? es) (hread : ∀ e ∈ es, e.text? = none → ReadBack e) :
    ReadBack (make es) := by
  apply readBack_of_braced hprint
  intro whole n rest hn
  have hlen := List.length_pos_iff.mpr hhead
  simp only [List.length_append, List.length_singleton] at hn
  simp only [List.append_assoc, List.singleton_append]
  exact braced_printContent hp hread (hclosed whole) (hopen whole) (by omega)

theorem readBack_tabstop (hindex : index < UInt64.size) (hp : Parted Element.text? es)
    (hread : ∀ e ∈ es, e.text? = none → ReadBack e) : ReadBack (.tabstop index es) := by
  obtain ⟨d, ds, hds, hd, hnumber⟩ := exists_digits_eq_cons hindex
  apply readBack_of_head (.tabstop index) (List.cons_ne_nil d ds) _ _ _ hp hread
  · rw [Element.print, hds]
  · intro whole n rest
    rw [List.cons_append, braced, if_pos hd, hnumber '\x7d' rest (by decide)]
    rfl
  · intro whole n rest
    rw [List.cons_append, braced, if_pos hd, hnumber ':' rest (by decide)]
    rfl

theorem readBack_plain (hv : IsName v) (hp : Parted Element.text? es)
    (hread : ∀ e ∈ es, e.text? = none → ReadBack e) : ReadBack (.variable v es none) := by
  obtain ⟨d, ds, hds, hdigit, hd, hname⟩ := exists_name_eq_cons hv
  apply readBack_of_head (.variable v · none) (List.cons_ne_nil d ds) _ _ _ hp hread
  · rw [Element.print, hds]
  · intro whole n rest
    rw [List.cons_append, braced, if_neg hdigit, if_pos hd, hname '\x7d' rest (by decide)]
    rfl
  · intro whole n rest
    rw [List.cons_append, braced, if_neg hdigit, if_pos hd, hname ':' rest (by decide)]
    rfl

theorem readBack_transformed (hv : IsName v) (htr : tr.WellFormed) :
    ReadBack (.variable v [] (some tr)) := by
  obtain ⟨d, ds, rfl, hdigit, hd, hname⟩ := exists_name_eq_cons hv
  refine readBack_of_braced (by rw [Element.print]) ?_
  intro whole n rest _
  rw [List.append_assoc, List.cons_append, List.cons_append, List.append_assoc,
    List.singleton_append, braced, if_neg hdigit, if_pos hd, hname '/' _ (by decide)]
  exact congrArg (Except.map _) (transform_print htr)

theorem readBack_of_wellFormed (h : e.WellFormed) (htext : e.text? = none) : ReadBack e := by
  induction h with
  | text => cases htext
  | tabstop hindex hp _ ih => exact readBack_tabstop hindex hp ih
  | plain hname hp _ ih => exact readBack_plain hname hp ih
  | transformed hname htr => exact readBack_transformed hname htr

theorem eq_ok_of_map_eq_ok {ε β γ : Type} {f : β → γ} {x : Except ε β} {b : γ}
    (h : x.map f = .ok b) : ∃ a, x = .ok a ∧ f a = b := by
  cases x with
  | error _ => cases h
  | ok a => exact ⟨a, rfl, Except.ok.inj h⟩

/-- All that a round of the reader of elements can do. -/
inductive ElementsRound (nested : Bool) (n : Nat) (rest : Text) : List Element → Prop
  | done : ElementsRound nested n rest []
  | char {c : Char} {u : Text} {es : List Element} (h : elements nested n u = .ok (es, rest)) :
    ElementsRound nested n rest (consChar c es)
  | construct {t u : Text} {e : Element} {es : List Element}
    (hconstruct : construct n t = .ok (some (e, u))) (h : elements nested n u = .ok (es, rest)) :
    ElementsRound nested n rest (e :: es)

theorem elements_cases (h : elements nested (n + 1) t = .ok (es, rest)) :
    ElementsRound nested n rest es := by
  have hchar {c : Char} {u : Text} (h : (elements nested n u).map (fun (es, rest) =>
      (consChar c es, rest)) = .ok (es, rest)) : ElementsRound nested n rest es := by
    obtain ⟨_, hu, heq⟩ := eq_ok_of_map_eq_ok h
    cases heq
    exact .char hu
  cases t with
  | nil =>
    cases h
    exact .done
  | cons c t =>
    rw [elements.eq_def] at h
    dsimp only at h
    split at h
    · cases h
      exact .done
    · split at h
      · split at h
        · split at h
          · exact hchar h
          · exact hchar h
        · exact hchar h
      · split at h
        · split at h
          · cases h
          · exact hchar h
          · rename_i hconstruct
            obtain ⟨_, hu, heq⟩ := eq_ok_of_map_eq_ok h
            cases heq
            exact .construct hconstruct hu
        · exact hchar h

/-- What is read in at most `n` rounds can be written down, and what is read as a construct is not a
text. -/
structure Sound (n : Nat) : Prop where
  elements {nested : Bool} {t rest : Text} {es : List Element}
    (h : elements nested n t = .ok (es, rest)) : Snippet.WellFormed ⟨es⟩
  construct {t rest : Text} {e : Element} (h : construct n t = .ok (some (e, rest))) :
    e.text? = none ∧ e.WellFormed
  braced {whole t rest : Text} {e : Element} (h : braced whole n t = .ok (e, rest)) :
    e.text? = none ∧ e.WellFormed
  content {whole t rest : Text} {es : List Element} (h : content whole n t = .ok (es, rest)) :
    Snippet.WellFormed ⟨es⟩

theorem wellFormed_nil : Snippet.WellFormed ⟨[]⟩ := ⟨parted_nil, nofun⟩

theorem wellFormed_consChar (c : Char) (h : Snippet.WellFormed ⟨es⟩) :
    Snippet.WellFormed ⟨consChar c es⟩ := by
  refine ⟨joins_consChar.parted h.parted c, ?_⟩
  intro e he
  rcases joins_consChar.mem he with ⟨t, rfl⟩ | hmem
  · exact .text
  · exact h.elements e hmem

theorem wellFormed_cons (htext : e.text? = none) (he : e.WellFormed)
    (h : Snippet.WellFormed ⟨es⟩) : Snippet.WellFormed ⟨e :: es⟩ := by
  constructor
  · refine parted_cons_iff.mpr ⟨?_, fun _ _ => .inl htext, h.parted⟩
    rw [htext]
    exact nofun
  · intro e' hmem
    rcases List.mem_cons.mp hmem with rfl | hmem
    · exact he
    · exact h.elements e' hmem

namespace Sound

theorem elements_zero (h : Template.elements nested 0 t = .ok (es, rest)) :
    Snippet.WellFormed ⟨es⟩ := by
  cases t with
  | nil =>
    cases h
    exact wellFormed_nil
  | cons c t => cases h

theorem elements_succ (ih : Sound n) (h : Template.elements nested (n + 1) t = .ok (es, rest)) :
    Snippet.WellFormed ⟨es⟩ := by
  cases elements_cases h with
  | done => exact wellFormed_nil
  | char hu => exact wellFormed_consChar _ (ih.elements hu)
  | construct hconstruct hu =>
    obtain ⟨htext, he⟩ := ih.construct hconstruct
    exact wellFormed_cons htext he (ih.elements hu)

theorem construct_succ (ih : Sound n) (h : Template.construct (n + 1) t = .ok (some (e, rest))) :
    e.text? = none ∧ e.WellFormed := by
  have hnil := wellFormed_nil
  rw [Template.construct.eq_def] at h
  dsimp only at h
  split at h
  · cases h
  · obtain ⟨_, hbraced, heq⟩ := eq_ok_of_map_eq_ok h
    cases heq
    exact ih.braced hbraced
  · split at h
    · cases h
      exact ⟨rfl, .tabstop (lt_of_number rfl) hnil.parted hnil.elements⟩
    · split at h
      · rename_i hstart
        cases h
        exact ⟨rfl, .plain (isName_of_name hstart rfl) hnil.parted hnil.elements⟩
      · cases h

theorem braced_succ (ih : Sound n) (h : Template.braced whole (n + 1) t = .ok (e, rest)) :
    e.text? = none ∧ e.WellFormed := by
  have hnil := wellFormed_nil
  rw [Template.braced.eq_def] at h
  dsimp only at h
  split at h
  · cases h
  · split at h
    · split at h
      · rename_i hnumber
        cases h
        exact ⟨rfl, .tabstop (lt_of_number hnumber) hnil.parted hnil.elements⟩
      · rename_i hnumber
        obtain ⟨_, hcontent, heq⟩ := eq_ok_of_map_eq_ok h
        have hes := ih.content hcontent
        cases heq
        exact ⟨rfl, .tabstop (lt_of_number hnumber) hes.parted hes.elements⟩
      · cases h
    · split at h
      · rename_i hstart
        split at h
        · rename_i hname
          cases h
          exact ⟨rfl, .plain (isName_of_name hstart hname) hnil.parted hnil.elements⟩
        · rename_i hname
          obtain ⟨_, hcontent, heq⟩ := eq_ok_of_map_eq_ok h
          have hes := ih.content hcontent
          cases heq
          exact ⟨rfl, .plain (isName_of_name hstart hname) hes.parted hes.elements⟩
        · rename_i hname
          obtain ⟨_, htransform, heq⟩ := eq_ok_of_map_eq_ok h
          have htr := wellFormed_of_transform htransform
          cases heq
          exact ⟨rfl, .transformed (isName_of_name hstart hname) htr⟩
        · cases h
      · cases h

theorem content_succ (ih : Sound n) (h : Template.content whole (n + 1) t = .ok (es, rest)) :
    Snippet.WellFormed ⟨es⟩ := by
  rw [Template.content] at h
  split at h
  · cases h
  · rename_i helements
    cases h
    exact ih.elements helements
  · cases h

end Sound

theorem sound (n : Nat) : Sound n := by
  induction n with
  | zero => exact ⟨Sound.elements_zero, nofun, nofun, nofun⟩
  | succ n ih => exact ⟨ih.elements_succ, ih.construct_succ, ih.braced_succ, ih.content_succ⟩

end Template

open Template

namespace Snippet

variable {t : Text} {s : Snippet}

theorem parse_print (h : s.WellFormed) : parse s.print = .ok s := by
  have hread : ∀ e ∈ s.elements, e.text? = none → ReadBack e :=
    fun e he => readBack_of_wellFormed (h.elements e he)
  have hlen : s.print.length < 2 * s.print.length + 2 := by omega
  have helements : Template.elements false (2 * s.print.length + 2) (s.print ++ []) =
      .ok (s.elements, []) := elements_printAll h.parted hread hlen .eof
  rw [List.append_nil] at helements
  rw [parse, helements]

theorem wellFormed_of_parse (h : parse t = .ok s) : s.WellFormed := by
  rw [parse] at h
  split at h
  · rename_i helements
    cases h
    exact (sound _).elements helements
  · cases h

/-- Reading takes back writing, and a template that can be read says a snippet that can be written
down, so that there is one template for it that is made by writing. -/
theorem parse_inverts_print :
    (∀ s : Snippet, s.WellFormed → parse s.print = .ok s) ∧
      ∀ (t : Text) (s : Snippet), parse t = .ok s → s.WellFormed ∧ parse s.print = .ok s := by
  constructor
  · intro s h
    exact parse_print h
  · intro t s h
    have hs := wellFormed_of_parse h
    exact ⟨hs, parse_print hs⟩

theorem parse_inverts_print_nested :
    let e : Element := .variable ['v'] [.tabstop 2 [], .text ['\x7d']] none
    let s : Snippet := ⟨[.text ['\\'], .tabstop 1 [e]]⟩
    (s.WellFormed ∧ String.ofList s.print = "\\\\$\x7b1:$\x7bv:$\x7b2\x7d\\\x7d\x7d\x7d" ∧
        parse s.print = .ok s) ∧
      parse Tag.comment.template.toList = .ok Tag.comment.snippet ∧
      Tag.comment.snippet.WellFormed ∧
      parse Tag.comment.snippet.print = .ok Tag.comment.snippet := by
  intro e s
  have hname : IsName ['v'] := by
    refine ⟨by decide, ?_, List.forall_mem_singleton.mpr (by decide)⟩
    rintro c ⟨⟩
    rfl
  have hfallback : ∀ e ∈ [.tabstop 2 [], .text ['\x7d']], Element.WellFormed e :=
    List.forall_mem_cons.mpr
      ⟨.tabstop (by decide) parted_nil nofun, List.forall_mem_singleton.mpr .text⟩
  have he : e.WellFormed := .plain hname ⟨by decide, by decide⟩ hfallback
  have htab : (Element.tabstop 1 [e]).WellFormed :=
    .tabstop (by decide) ⟨by decide, .singleton e⟩ (List.forall_mem_singleton.mpr he)
  have hs : s.WellFormed :=
    ⟨⟨by decide, by decide⟩, List.forall_mem_cons.mpr ⟨.text, List.forall_mem_singleton.mpr htab⟩⟩
  have hcomment := Tag.parse_template .comment
  exact ⟨⟨hs, by decide, parse_inverts_print.1 s hs⟩, hcomment,
    parse_inverts_print.2 _ _ hcomment⟩

end Snippet

end TagSpacing
