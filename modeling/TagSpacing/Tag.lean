/-! The four template tags. -/
namespace TagSpacing

/-- A kind of template tag. -/
inductive Tag
  /-- Two braces, spaced as `{{ x }}`. -/
  | double
  /-- Three braces, spaced as `{{{ x }}}`. -/
  | triple
  /-- Unescaped output, spaced as `{!! x !!}`. -/
  | unescaped
  /-- A comment, spaced as `{{-- x --}}`. -/
  | comment
deriving DecidableEq

/-- A tag name that names no tag. -/
structure UnknownTag where
  name : String
deriving DecidableEq

def UnknownTag.message (e : UnknownTag) : String := s!"unknown tag type '{e.name}'"

namespace Tag

def all : List Tag := [double, triple, unescaped, comment]

def name : Tag → String
  | double => "double"
  | triple => "triple"
  | unescaped => "unescaped"
  | comment => "comment"

instance : ToString Tag := ⟨name⟩

/-- The tag with a name, exactly as `name` writes it. -/
def ofName (s : String) : Except UnknownTag Tag :=
  match all.find? (·.name = s) with
  | some tag => .ok tag
  | none => .error ⟨s⟩

end Tag

end TagSpacing
