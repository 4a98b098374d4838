import TagSpacing.Regex.Compile

/-! Snippets: text with tabstops and variables. -/
namespace TagSpacing

/-- A part of what replaces a match. -/
inductive FormatItem
  | text (t : Text)
  /-- What a group of the match captured. -/
  | group (index : Nat)
deriving DecidableEq

/-- What is done with the matches of a regular expression: each becomes the format. -/
structure Transform where
  pattern : Text
  format : List FormatItem
  /-- Whether every match is replaced, not only the first. -/
  isGlobal : Bool
  ignoreCase : Bool
  multiLine : Bool
  program : Regex.Program
  compile_pattern : Regex.compile? { ignoreCase, multiLine } pattern = some program

/-- A part of a snippet. -/
inductive Element
  | text (t : Text)
  /-- A place for the cursor, number 0 being the last, and the text that stands there at first. -/
  | tabstop (index : Nat) (content : List Element)
  /-- A variable, what stands in for it, and what is done with its value. -/
  | variable (name : Text) (fallback : List Element) (transform : Option Transform)

structure Snippet where
  elements : List Element

/-- What is wrong with a template. -/
inductive SnippetError
  /-- The construct whose dollar sign stands at the offset is not complete. -/
  | malformed (offset : Nat)
  | invalidRegex (pattern : Text)
  | unknownFlag (flag : Char)
deriving DecidableEq

def SnippetError.message : SnippetError → String
  | malformed offset => s!"malformed placeholder at offset {offset}"
  | invalidRegex pattern => s!"invalid transform regex '{String.ofList pattern}'"
  | unknownFlag flag => s!"unknown transform flag '{flag}'"

/-- Two transforms count as equal if pattern, format and range of use are; case and lines make no
difference. -/
def Transform.same (a b : Transform) : Bool :=
  a.pattern = b.pattern ∧ a.format = b.format ∧ a.isGlobal = b.isGlobal

mutual

/-- Equality of elements, as far as their transforms count as equal. -/
def Element.same : Element → Element → Bool
  | .text s, .text t => s = t
  | .tabstop i c, .tabstop j d => i = j && Element.sameAll c d
  | .variable m c s, .variable n d t =>
    m = n && Element.sameAll c d &&
      match s, t with
      | none, none => true
      | some s, some t => s.same t
      | _, _ => false
  | _, _ => false

def Element.sameAll : List Element → List Element → Bool
  | [], [] => true
  | a :: as, b :: bs => Element.same a b && Element.sameAll as bs
  | _, _ => false

end

def Snippet.same (a b : Snippet) : Bool := Element.sameAll a.elements b.elements

instance : BEq Snippet := ⟨Snippet.same⟩

end TagSpacing
