import TagSpacing.Config
import TagSpacing.Toml.Parser
import TagSpacing.Numeral.Shortest
import TagSpacing.Text.Quoted

/-! Configurations as TOML documents. A document is read as a whole first; then its keys are looked at
in alphabetical order, and the first that does not fit is reported. -/
namespace TagSpacing

/-- Why a configuration cannot be read. -/
inductive ConfigError
  /-- The text is no TOML document. -/
  | malformed
  /-- A number has no machine representation. -/
  | numberOverflow
  | unknownField (name : Text) (known : List String)
  | invalidType (found expected : String)
deriving DecidableEq

/-- The wording of what is wrong with a field; malformed text has none. -/
def ConfigError.message? : ConfigError → Option String
  | malformed | numberOverflow => none
  | unknownField name known =>
    let known := String.intercalate " or " (known.map fun k => "\x60" ++ k ++ "\x60")
    some ("unknown field \x60" ++ String.ofList name ++ "\x60, expected " ++ known)
  | invalidType found expected => some s!"invalid type: {found}, expected {expected}"

namespace Toml

/-- The text of a number with a point: digits without an exponent. A number that is too large has
none. -/
def FloatLiteral.text? : FloatLiteral → Option String
  | nan => some "NaN"
  | infinite negative => some (if negative then "-inf" else "inf")
  | finite negative digits exponent =>
    let signed (t : String) : String := if negative then "-" ++ t else t
    let magnitude : Int := (toString digits).length + exponent
    if digits = 0 ∨ magnitude < -400 then some (signed "0.0")
    else if magnitude > 400 then none
    else
      let (s, t) := Numeral.powerOfTen exponent
      (Numeral.Binary.nearest? (digits * s) t).map fun x =>
        if x.mantissa = 0 then signed "0.0" else signed x.shortest.positional

/-- What a value is, as reports name it. Integers beyond 64 bits say how wide they are, and those
beyond 128 bits are not numbers of the machine. -/
def Value.describe : Value → Except ConfigError String
  | .scalar (.string t) => .ok ("string " ++ String.ofList t.quoted)
  | .scalar (.integer n) =>
    let text := "integer \x60" ++ toString n ++ "\x60"
    if -Int.pow 2 63 ≤ n ∧ n < Int.pow 2 64 then .ok text
    else if -Int.pow 2 127 ≤ n ∧ n < Int.pow 2 127 then .ok (text ++ " as i128")
    else if 0 ≤ n ∧ n < Int.pow 2 128 then .ok (text ++ " as u128")
    else .error .numberOverflow
  | .scalar (.float f) =>
    match f.text? with
    | some text => .ok ("floating point \x60" ++ text ++ "\x60")
    | none => .error .numberOverflow
  | .scalar (.boolean b) => .ok ("boolean \x60" ++ toString b ++ "\x60")
  | .scalar .datetime | .table _ _ => .ok "map"
  | .array _ | .tables _ => .ok "sequence"

/-- Entries in alphabetical order of their keys. -/
def Entries.sorted (entries : Entries) : Entries :=
  entries.foldr (fun e sorted =>
    sorted.takeWhile (fun f => String.ofList f.1 < String.ofList e.1) ++
      e :: sorted.dropWhile (fun f => String.ofList f.1 < String.ofList e.1)) []

end Toml

namespace Config

/-- The report on a value of the wrong kind. -/
def mismatch {α : Type} (v : Toml.Value) (expected : String) : Except ConfigError α := do
  throw (.invalidType (← v.describe) expected)

def boolean : Toml.Value → Except ConfigError Bool
  | .scalar (.boolean b) => .ok b
  | v => mismatch v "a boolean"

/-- A setting of how tags are inserted. -/
def setInsert (config : Config) (key : Text) (v : Toml.Value) : Except ConfigError Config := do
  if key = "undo-stop-before".toList then return { config with undoStopBefore := ← boolean v }
  else throw (.unknownField key ["undo-stop-before"])

/-- The settings of how tags are inserted: a table, or the values in an array in their order. A date is
taken for a table with a key of its own. -/
def insertSettings (config : Config) : Toml.Value → Except ConfigError Config
  | .table _ entries =>
    (Toml.Entries.sorted entries).foldlM (fun config (key, v) => config.setInsert key v) config
  | .array items | .tables items =>
    match items with
    | [] => .ok config
    | v :: _ => config.setInsert "undo-stop-before".toList v
  | .scalar .datetime => config.setInsert "$__toml_private_datetime".toList (.scalar .datetime)
  | v => mismatch v "struct InsertConfig"

/-- A setting at the top of a document. -/
def set (config : Config) (key : Text) (v : Toml.Value) : Except ConfigError Config := do
  if key = "enabled".toList then return { config with enabled := ← boolean v }
  else if key = "insert".toList then config.insertSettings v
  else throw (.unknownField key ["enabled", "insert"])

/-- The configuration that a TOML document writes. Settings that it leaves out keep their defaults. -/
def ofToml (t : Text) : Except ConfigError Config :=
  match Toml.parse t with
  | none => .error .malformed
  | some entries => entries.sorted.foldlM (fun config (key, v) => config.set key v) {}

end Config

end TagSpacing
