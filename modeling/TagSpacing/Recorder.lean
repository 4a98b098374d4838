import TagSpacing.Editor

/-! An editor that only records what it is asked to insert. -/
namespace TagSpacing

structure Recorder where
  text : Text
  selections : List Selection
  /-- Every insertion is refused for this reason, if there is one. -/
  refusal : Option InsertError := none
  /-- What was inserted, the latest first. -/
  recorded : List Request := []

instance : Editor Recorder where
  text := Recorder.text
  selections := Recorder.selections
  insert r request :=
    match r.refusal with
    | some e => .error e
    | none => .ok { r with recorded := request :: r.recorded }

/-- A place for one editor, which may be missing. -/
instance {ε : Type} : Host (Option ε) ε where
  active? := id
  setActive _ e := some e

end TagSpacing
