import TagSpacing.Text

/-! Edits of a text at several places at once. A change set walks over the whole text and retains,
deletes or inserts as it goes; the offsets of a list of edits all refer to the text before any of
them. -/
namespace TagSpacing

/-- A step of a walk over a text. -/
inductive Operation
  | retain (n : Nat)
  | delete (n : Nat)
  | insert (text : Text)
deriving DecidableEq

/-- Why an edit is refused. -/
inductive EditError
  | lengthMismatch (expected actual : Nat)
  | invalidRange (start stop : Nat)
  | outOfBounds (start stop length : Nat)
  | overlapping (previousStop start stop : Nat)
deriving DecidableEq

def EditError.message : EditError → String
  | lengthMismatch expected actual =>
    s!"changeset length mismatch: expected {expected}, got {actual}"
  | invalidRange start stop => s!"invalid change range: start {start} is after end {stop}"
  | outOfBounds start stop length =>
    s!"change range {start}..{stop} is out of bounds for document length {length}"
  | overlapping previousStop start stop =>
    s!"change range {start}..{stop} overlaps previous end {previousStop}"

/-- A walk over a text of a certain length. -/
structure ChangeSet where
  /-- The steps, the last one first. -/
  reversed : List Operation
  /-- Length of the texts that the walk fits. -/
  length : Nat
  /-- Length of the text that it leaves. -/
  lengthAfter : Nat
deriving DecidableEq

namespace ChangeSet

def empty : ChangeSet := ⟨[], 0, 0⟩

/-- The steps in the order in which they are taken. -/
def operations (cs : ChangeSet) : List Operation := cs.reversed.reverse

/-- Whether the walk leaves every text as it is. -/
def isEmpty (cs : ChangeSet) : Bool := cs.reversed = [] ∨ cs.reversed = [.retain cs.length]

/-- The walk continued over `n` characters that stay. -/
def retain (cs : ChangeSet) (n : Nat) : ChangeSet :=
  if n = 0 then cs
  else
    { length := cs.length + n
      lengthAfter := cs.lengthAfter + n
      reversed :=
        match cs.reversed with
        | .retain m :: rest => .retain (m + n) :: rest
        | ops => .retain n :: ops }

/-- The walk continued over `n` characters that go. -/
def delete (cs : ChangeSet) (n : Nat) : ChangeSet :=
  if n = 0 then cs
  else
    { cs with
      length := cs.length + n
      reversed :=
        match cs.reversed with
        | .delete m :: rest => .delete (m + n) :: rest
        | ops => .delete n :: ops }

/-- The walk continued by new text. It goes in front of a deletion that it would follow, and joins an
insertion next to it. -/
def insert (cs : ChangeSet) (t : Text) : ChangeSet :=
  if t = [] then cs
  else
    { cs with
      lengthAfter := cs.lengthAfter + t.length
      reversed :=
        match cs.reversed with
        | .insert s :: rest => .insert (s ++ t) :: rest
        | .delete n :: .insert s :: rest => .delete n :: .insert (s ++ t) :: rest
        | .delete n :: rest => .delete n :: .insert t :: rest
        | ops => .insert t :: ops }

/-- Takes steps over a text; what they do not reach stays. -/
def run : List Operation → Text → Text
  | [], t => t
  | .retain n :: ops, t => t.take n ++ run ops (t.drop n)
  | .delete n :: ops, t => run ops (t.drop n)
  | .insert s :: ops, t => s ++ run ops t

/-- The text that the walk makes of `t`, which must have the length that it was built for. -/
def apply (cs : ChangeSet) (t : Text) : Except EditError Text :=
  if t.length = cs.length then .ok (run cs.operations t)
  else .error (.lengthMismatch cs.length t.length)

end ChangeSet

/-- The replacement of the characters between two offsets, by nothing if there is no text. -/
structure Edit where
  start : Nat
  stop : Nat
  text : Option Text
deriving DecidableEq

namespace Edit

/-- Why an edit may not follow edits up to offset `last` in a text of the given length. -/
def fault? (e : Edit) (length last : Nat) : Option EditError :=
  if e.start > e.stop then some (.invalidRange e.start e.stop)
  else if e.stop > length then some (.outOfBounds e.start e.stop length)
  else if e.start < last then some (.overlapping last e.start e.stop)
  else none

end Edit

namespace ChangeSet

/-- Continues a walk that stands at offset `last` by some edits, up to the end of the text. -/
def addEdits (length : Nat) (cs : ChangeSet) (last : Nat) : List Edit → Except EditError ChangeSet
  | [] => .ok (cs.retain (length - last))
  | e :: es =>
    match e.fault? length last with
    | some fault => .error fault
    | none =>
      let cs := ((cs.retain (e.start - last)).insert (e.text.getD [])).delete (e.stop - e.start)
      addEdits length cs e.stop es

/-- The walk over a text of the given length that makes all of some edits, which must be sorted and
must not overlap. -/
def ofEdits (length : Nat) (edits : List Edit) : Except EditError ChangeSet :=
  addEdits length .empty 0 edits

end ChangeSet

/-- The text after some edits. -/
def Text.edit (t : Text) (edits : List Edit) : Except EditError Text := do
  (← ChangeSet.ofEdits t.length edits).apply t

end TagSpacing
