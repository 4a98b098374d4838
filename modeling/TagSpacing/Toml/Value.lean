import TagSpacing.Text

/-! The values of a TOML document, and tables that are put together from several places of it. -/
namespace TagSpacing.Toml

/-- A number with a point or an exponent, as it is written. -/
inductive FloatLiteral
  | nan
  | infinite (negative : Bool)
  /-- The number `digits * 10 ^ exponent`. -/
  | finite (negative : Bool) (digits : Nat) (exponent : Int)
deriving DecidableEq

inductive Scalar
  | string (t : Text)
  | integer (n : Int)
  | float (f : FloatLiteral)
  | boolean (b : Bool)
  /-- A date, a time or both. -/
  | datetime
deriving DecidableEq

/-- How a table came about, which decides what may be added to it. -/
inductive TableKind
  /-- By a header, or the document itself. -/
  | defined
  /-- As a part of the path in a header. -/
  | implied
  /-- As a part of a dotted key. -/
  | dotted
  /-- In braces; nothing may be added to it. -/
  | inlined
deriving DecidableEq

inductive Value
  | scalar (s : Scalar)
  | array (items : List Value)
  /-- Tables under headers in double brackets; never empty. -/
  | tables (items : List Value)
  | table (kind : TableKind) (entries : List (Text × Value))

/-- The keys and values of a table, in the order in which they are written. -/
abbrev Entries := List (Text × Value)

/-- Changes the value of a key, or adds it if there is none. -/
def Entries.update (key : Text) (f : Option Value → Option Value) : Entries → Option Entries
  | [] => (f none).map fun v => [(key, v)]
  | (k, v) :: rest =>
    if k = key then (f (some v)).map fun v => (k, v) :: rest
    else (update key f rest).map fun rest => (k, v) :: rest

/-- Adds a key that is not there yet. -/
def Entries.add (key : Text) (value : Value) (entries : Entries) : Option Entries :=
  Entries.update key (fun old => if old.isSome then none else some value) entries

/-- Changes the table at the end of a path of keys, making tables of the given kind where there are
none. The path leads to the last one of several tables under one key. Dotted keys must not reach into
tables that are defined elsewhere, and nothing may reach into a table in braces. -/
def Value.change (kind : TableKind) (f : TableKind → Entries → Option Entries) :
    List Text → Value → Option Value
  | [], .table k entries => (f k entries).map (.table k)
  | key :: path, .table k entries =>
    let step : Option Value → Option Value
      | none => Value.change kind f path (.table kind [])
      | some (.table k entries) =>
        if k = .inlined ∨ (kind = .dotted ∧ k = .defined) then none
        else Value.change kind f path (.table k entries)
      | some (.tables items) =>
        items.getLast?.bind fun item =>
          (Value.change kind f path item).map fun item => .tables (items.dropLast ++ [item])
      | some _ => none
    (Entries.update key step entries).map (.table k)
  | _, _ => none

/-- Adds a value under a dotted key, the last part of which is given apart. The tables on the way are
of dotted keys only. -/
def Value.addDotted (table : Value) (path : List Text) (key : Text) (value : Value) : Option Value :=
  Value.change .dotted (fun kind entries =>
    if path ≠ [] ∧ kind ≠ .dotted then none else Entries.add key value entries) path table

/-- Opens the table of a header, the last part of whose path is given apart. -/
def Value.openTable (document : Value) (path : List Text) (key : Text) : Option Value :=
  let opened : Option Value → Option Value
    | none => some (.table .defined [])
    | some (.table .implied entries) => some (.table .defined entries)
    | some _ => none
  Value.change .implied (fun _ entries => Entries.update key opened entries) path document

/-- Opens one more table under a header in double brackets. -/
def Value.openItem (document : Value) (path : List Text) (key : Text) : Option Value :=
  let opened : Option Value → Option Value
    | none => some (.tables [.table .defined []])
    | some (.tables items) => some (.tables (items ++ [.table .defined []]))
    | some _ => none
  Value.change .implied (fun _ entries => Entries.update key opened entries) path document

/-- Adds a value under a dotted key to the table at the end of a path of keys. -/
def Value.addAt (document : Value) (place path : List Text) (key : Text) (value : Value) :
    Option Value :=
  Value.change .implied (fun kind entries =>
    match (Value.table kind entries).addDotted path key value with
    | some (.table _ entries) => some entries
    | _ => none) place document

end TagSpacing.Toml
