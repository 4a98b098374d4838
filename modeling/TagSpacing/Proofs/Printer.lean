import Mathlib.Data.List.Chain
import TagSpacing.Snippet.Parser

/-! Writing snippets down as templates, each in one way: braces around every construct, and
backslashes in front of what would be taken for something else. -/
namespace TagSpacing

namespace Template

/-- A text with a backslash in front of its special characters. -/
def escape (special : List Char) (t : Text) : Text :=
  t.flatMap fun c => if c ∈ special then ['\\', c] else [c]

def digits (n : Nat) : Text := Nat.toDigits 10 n

/-- A name is made of letters, digits and underscores, and does not start with a digit. -/
structure IsName (t : Text) : Prop where
  nonempty : t ≠ []
  start : ∀ c ∈ t.head?, c.isDigit = false
  chars : ∀ c ∈ t, c = '_' ∨ c.isAlphanum

/-- Of the members of a list that are texts, none is empty and none stands next to another. -/
structure Parted {α : Type} (text? : α → Option Text) (l : List α) : Prop where
  nonempty : ∀ a ∈ l, text? a ≠ some []
  apart : l.IsChain fun a b => text? a = none ∨ text? b = none

end Template

open Template

namespace FormatItem

def text? : FormatItem → Option Text
  | .text t => some t
  | .group _ => none

def print : FormatItem → Text
  | .text t => escape ['/', '$', '\\'] t
  | .group index => '$' :: '\x7b' :: (digits index ++ ['\x7d'])

end FormatItem

namespace Transform

def flags (tr : Transform) : Text :=
  (if tr.isGlobal then ['g'] else []) ++ (if tr.ignoreCase then ['i'] else []) ++
    (if tr.multiLine then ['m'] else [])

/-- Pattern, format and flags, with slashes between them. -/
def print (tr : Transform) : Text :=
  escape ['/'] tr.pattern ++ '/' :: (tr.format.flatMap FormatItem.print ++ '/' :: tr.flags)

/-- A transform that can be written down. That its pattern compiles is known already. A backslash at
the end of the pattern would take the slash behind it into the pattern. -/
structure WellFormed (tr : Transform) : Prop where
  pattern : tr.pattern.getLast? ≠ some '\\'
  parted : Parted FormatItem.text? tr.format
  groups : ∀ index, .group index ∈ tr.format → index < UInt64.size

end Transform

namespace Element

def text? : Element → Option Text
  | .text t => some t
  | _ => none

mutual

def print : Element → Text
  | .text t => escape ['$', '\x7d', '\\'] t
  | .tabstop index content => '$' :: '\x7b' :: (digits index ++ (printContent content ++ ['\x7d']))
  | .variable name fallback none => '$' :: '\x7b' :: (name ++ (printContent fallback ++ ['\x7d']))
  | .variable name _ (some tr) => '$' :: '\x7b' :: (name ++ '/' :: (tr.print ++ ['\x7d']))

/-- The elements in a construct, behind a colon if there are any. -/
def printContent : List Element → Text
  | [] => []
  | e :: es => ':' :: (print e ++ printAll es)

def printAll : List Element → Text
  | [] => []
  | e :: es => print e ++ printAll es

end

/-- An element that can be written down. -/
inductive WellFormed : Element → Prop
  | text {t : Text} : WellFormed (.text t)
  | tabstop {index : Nat} {content : List Element} (hindex : index < UInt64.size)
    (hparted : Parted text? content) (hcontent : ∀ e ∈ content, WellFormed e) :
    WellFormed (.tabstop index content)
  | plain {name : Text} {fallback : List Element} (hname : IsName name)
    (hparted : Parted text? fallback) (hfallback : ∀ e ∈ fallback, WellFormed e) :
    WellFormed (.variable name fallback none)
  | transformed {name : Text} {tr : Transform} (hname : IsName name) (htr : tr.WellFormed) :
    WellFormed (.variable name [] (some tr))

theorem printContent_cons (e : Element) (es : List Element) :
    printContent (e :: es) = ':' :: printAll (e :: es) := by
  rw [printContent, printAll]

end Element

namespace Snippet

/-- The template that says a snippet. -/
def print (s : Snippet) : Text := Element.printAll s.elements

/-- A snippet that can be written down. -/
structure WellFormed (s : Snippet) : Prop where
  parted : Parted Element.text? s.elements
  elements : ∀ e ∈ s.elements, e.WellFormed

end Snippet

namespace Template

variable {α : Type} {text? : α → Option Text} {text : Text → α} {cons : Char → List α → List α}
  {a : α} {l : List α} {c : Char} {special : List Char} {s t u : Text}

theorem escape_cons_of_mem (h : c ∈ special) :
    escape special (c :: t) = '\\' :: c :: escape special t := by
  simp [escape, h]

theorem escape_cons_of_not_mem (h : c ∉ special) :
    escape special (c :: t) = c :: escape special t := by
  simp [escape, h]

theorem length_le_length_escape (special : List Char) (t : Text) :
    t.length ≤ (escape special t).length := by
  induction t with
  | nil => exact Nat.le_refl 0
  | cons c t ih =>
    by_cases hc : c ∈ special
    · rw [escape_cons_of_mem hc]
      exact Nat.le_succ_of_le (Nat.succ_le_succ ih)
    · rw [escape_cons_of_not_mem hc]
      exact Nat.succ_le_succ ih

/-- A special character other than the backslash never begins a text that is written down. -/
theorem head?_escape_append_ne (h : c ∈ special) (hc : c ≠ '\\') (ht : t ≠ []) :
    (escape special t ++ u).head? ≠ some c := by
  intro hhead
  cases t with
  | nil => exact ht rfl
  | cons d t =>
    by_cases hd : d ∈ special
    · rw [escape_cons_of_mem hd] at hhead
      exact hc (Option.some.inj hhead).symm
    · rw [escape_cons_of_not_mem hd] at hhead
      exact hd (Option.some.inj hhead ▸ h)

theorem parted_nil : Parted text? [] := ⟨nofun, .nil⟩

theorem parted_cons_iff : Parted text? (a :: l) ↔
    text? a ≠ some [] ∧ (∀ b ∈ l.head?, text? a = none ∨ text? b = none) ∧ Parted text? l := by
  constructor
  · intro h
    have hapart := List.isChain_cons.mp h.apart
    have hl : ∀ b ∈ l, text? b ≠ some [] := fun b hb => h.nonempty b (List.mem_cons_of_mem a hb)
    exact ⟨h.nonempty a List.mem_cons_self, hapart.1, hl, hapart.2⟩
  · rintro ⟨ha, hb, hl⟩
    refine ⟨?_, List.isChain_cons.mpr ⟨hb, hl.apart⟩⟩
    intro b hmem
    rcases List.mem_cons.mp hmem with rfl | hmem
    · exact ha
    · exact hl.nonempty b hmem

/-- How characters come in front of a list: into a text at its head, or else as a text of their
own. -/
structure Joins (text? : α → Option Text) (text : Text → α) (cons : Char → List α → List α) :
    Prop where
  text?_eq_some_iff : ∀ a t, text? a = some t ↔ a = text t
  cons_text : ∀ c t l, cons c (text t :: l) = text (c :: t) :: l
  cons_other : ∀ c l, (∀ a ∈ l.head?, text? a = none) → cons c l = text [c] :: l

theorem joins_consFormatChar : Joins FormatItem.text? .text consFormatChar where
  text?_eq_some_iff i t := by cases i <;> simp [FormatItem.text?]
  cons_text c t items := rfl
  cons_other c items h := by
    cases items with
    | nil => rfl
    | cons i items =>
      cases i with
      | text t => cases h (.text t) rfl
      | group _ => rfl

theorem joins_consChar : Joins Element.text? .text consChar where
  text?_eq_some_iff e t := by cases e <;> simp [Element.text?]
  cons_text c t es := rfl
  cons_other c es h := by
    cases es with
    | nil => rfl
    | cons e es =>
      cases e with
      | text t => cases h (.text t) rfl
      | tabstop _ _ => rfl
      | «variable» _ _ _ => rfl

namespace Joins

theorem text?_text (h : Joins text? text cons) (t : Text) : text? (text t) = some t :=
  (h.text?_eq_some_iff (text t) t).mpr rfl

/-- Characters in a row are put together to one text. -/
theorem foldr_eq (h : Joins text? text cons) (hl : ∀ a ∈ l.head?, text? a = none) (hs : s ≠ []) :
    s.foldr cons l = text s :: l := by
  induction s with
  | nil => exact absurd rfl hs
  | cons c s ih =>
    rw [List.foldr_cons]
    cases s with
    | nil => exact h.cons_other c l hl
    | cons d s => rw [ih (List.cons_ne_nil d s), h.cons_text]

theorem foldr_eq_of_parted (h : Joins text? text cons) (hp : Parted text? (text s :: l)) :
    s.foldr cons l = text s :: l := by
  obtain ⟨hs, hnext, -⟩ := parted_cons_iff.mp hp
  rw [h.text?_text] at hs hnext
  refine h.foldr_eq (fun a ha => ?_) (fun heq => hs (congrArg some heq))
  exact (hnext a ha).resolve_left (Option.some_ne_none s)

theorem cases (h : Joins text? text cons) (c : Char) (l : List α) :
    (∃ t l', l = text t :: l' ∧ cons c l = text (c :: t) :: l') ∨
      (∀ a ∈ l.head?, text? a = none) ∧ cons c l = text [c] :: l := by
  by_cases hhead : ∀ a ∈ l.head?, text? a = none
  · exact .inr ⟨hhead, h.cons_other c l hhead⟩
  · left
    cases l with
    | nil => exact absurd nofun hhead
    | cons a l =>
      cases ha : text? a with
      | none =>
        refine absurd (fun b hb => ?_) hhead
        cases hb
        exact ha
      | some t =>
        obtain rfl := (h.text?_eq_some_iff a t).mp ha
        exact ⟨t, l, rfl, h.cons_text c t l⟩

theorem parted (h : Joins text? text cons) (hl : Parted text? l) (c : Char) :
    Parted text? (cons c l) := by
  have hne (t : Text) : text? (text (c :: t)) ≠ some [] := by
    rw [h.text?_text]
    exact nofun
  rcases h.cases c l with ⟨t, l, rfl, heq⟩ | ⟨hhead, heq⟩
  · obtain ⟨-, hnext, hl⟩ := parted_cons_iff.mp hl
    rw [h.text?_text] at hnext
    have hhead (b : α) (hb : b ∈ l.head?) : text? b = none :=
      (hnext b hb).resolve_left (Option.some_ne_none t)
    rw [heq]
    exact parted_cons_iff.mpr ⟨hne t, fun b hb => .inr (hhead b hb), hl⟩
  · rw [heq]
    exact parted_cons_iff.mpr ⟨hne [], fun b hb => .inr (hhead b hb), hl⟩

/-- Only texts are new in a list that a character comes in front of. -/
theorem mem (h : Joins text? text cons) (hmem : a ∈ cons c l) : (∃ t, a = text t) ∨ a ∈ l := by
  rcases h.cases c l with ⟨t, l, rfl, heq⟩ | ⟨-, heq⟩
  · rw [heq] at hmem
    rcases List.mem_cons.mp hmem with rfl | hmem
    · exact .inl ⟨c :: t, rfl⟩
    · exact .inr (List.mem_cons_of_mem (text t) hmem)
  · rw [heq] at hmem
    rcases List.mem_cons.mp hmem with rfl | hmem
    · exact .inl ⟨[c], rfl⟩
    · exact .inr hmem

end Joins

end Template

end TagSpacing
