import TagSpacing.Plan
import TagSpacing.Trigger
import TagSpacing.ChangeSet
import TagSpacing.Snippet.Basic

/-! Editors that the expansion runs in, and its run after a change. -/
namespace TagSpacing

/-- Why an editor refuses an insertion. -/
inductive InsertError
  | snippet (e : SnippetError)
  | edit (e : EditError)
deriving DecidableEq

def InsertError.message : InsertError → String
  | snippet e => s!"invalid snippet template: {e.message}"
  | edit e => s!"failed to apply edit: {e.message}"

/-- What the expansion needs of an editor. -/
class Editor (ε : Type) where
  /-- The text as it is now. -/
  text : ε → Text
  selections : ε → List Selection
  /-- Replaces all ranges of a request by its template, in one edit. -/
  insert : ε → Request → Except InsertError ε

/-- Where editors live, at most one of them with focus. -/
class Host (η : Type) (ε : outParam Type) where
  /-- The editor with focus. -/
  active? : η → Option ε
  /-- Puts another state of the editor with focus in its place. -/
  setActive : η → ε → η

/-- How a run of the expansion ended. -/
inductive Outcome
  /-- There was nothing to insert. -/
  | idle
  | expanded
  /-- The editor refused; this is reported and otherwise passed over. -/
  | refused (tag : Tag) (e : InsertError)
deriving DecidableEq

variable {ε η : Type} [Editor ε] [Host η ε]

/-- Expands the tags around the selections of the editor with focus. -/
def Config.space (config : Config) (host : η) : η × Outcome :=
  match Host.active? host with
  | none => (host, .idle)
  | some editor =>
    match config.plan (Editor.text editor) (Editor.selections editor) with
    | none => (host, .idle)
    | some request =>
      match Editor.insert editor request with
      | .ok editor => (Host.setActive host editor, .expanded)
      | .error e => (host, .refused request.tag e)

/-- Runs the expansion some times in a row, each run on what the one before left. -/
def Config.spaceTimes (config : Config) (host : η) : Nat → η × List Outcome
  | 0 => (host, [])
  | n + 1 =>
    let (host, outcome) := config.space host
    let (host, outcomes) := config.spaceTimes host n
    (host, outcome :: outcomes)

/-- Reacts to changes that were reported together: the expansion runs once for every one that wakes
it. -/
def Config.notify (config : Config) (host : η) (changes : List Change) : η × List Outcome :=
  config.spaceTimes host (changes.countP config.matches)

end TagSpacing
