import TagSpacing.Toml.Lexical

/-! Reading TOML documents. There is no account of what is wrong with one that cannot be read. -/
namespace TagSpacing.Toml

/-- Arrays and tables in braces may be nested only so deeply. -/
def nestingBound : Nat := 80

/-- A list without its last item, and that item. -/
def splitLast : List Text → Option (List Text × Text)
  | [] => none
  | [key] => some ([], key)
  | key :: rest => (splitLast rest).map fun (keys, last) => (key :: keys, last)

/-- A key and what follows its equals sign and blanks behind that. -/
def keyEquals (t : Text) : Option (List Text × Text × Text) := do
  let (keys, rest) ← dottedKey (t.length + 1) t
  let (path, key) ← splitLast keys
  return (path, key, skipBlanks (← expect '=' rest))

mutual

/-- The value at the front of a text. Every call of the three consumes a character, and `depth` counts
the brackets and braces that are still allowed around values. -/
def value : Nat → Nat → Text → Option (Value × Text)
  | 0, _, _ => none
  | n + 1, depth, t =>
    match t, depth with
    | '[' :: _, 0 | '\x7b' :: _, 0 => none
    | '[' :: rest, depth + 1 =>
      (items n depth (skipLines rest.length rest)).map fun (vs, rest) => (.array vs, rest)
    | '\x7b' :: rest, depth + 1 =>
      (entries n depth (.table .inlined []) (skipLines rest.length rest)).bind fun
        | (.table _ es, rest) => some (.table .inlined es, rest)
        | _ => none
    | c :: rest, _ =>
      if c = '"' ∨ c = '\'' then
        (string (c :: rest)).map fun (s, rest) => (.scalar (.string s), rest)
      else (bareScalar (c :: rest)).map fun (s, rest) => (.scalar s, rest)
    | [], _ => none

/-- The items of an array up to its closing bracket, which is consumed. -/
def items : Nat → Nat → Text → Option (List Value × Text)
  | 0, _, _ => none
  | _ + 1, _, ']' :: rest => some ([], rest)
  | n + 1, depth, t =>
    match value n depth t with
    | none => none
    | some (v, rest) =>
      match skipLines rest.length rest with
      | ',' :: rest => (items n depth (skipLines rest.length rest)).map fun (vs, rest) => (v :: vs, rest)
      | ']' :: rest => some ([v], rest)
      | _ => none

/-- The entries of a table in braces up to the closing one, which is consumed. -/
def entries : Nat → Nat → Value → Text → Option (Value × Text)
  | 0, _, _, _ => none
  | _ + 1, _, table, '\x7d' :: rest => some (table, rest)
  | n + 1, depth, table, t =>
    match keyEquals t with
    | none => none
    | some (path, key, rest) =>
      match value n depth rest with
      | none => none
      | some (v, rest) =>
        match table.addDotted path key v with
        | none => none
        | some table =>
          match skipLines rest.length rest with
          | ',' :: rest => entries n depth table (skipLines rest.length rest)
          | '\x7d' :: rest => some (table, rest)
          | _ => none

end

/-- What follows the end of a line, on which only blanks and a comment may be left. -/
def endOfLine (t : Text) : Option Text :=
  let rest :=
    match skipBlanks t with
    | '#' :: rest => rest.dropWhile isPlain
    | rest => rest
  if rest = [] then some [] else newline? rest

/-- A header in single brackets (the first of which is consumed) or double ones, if `double`. -/
def header (double : Bool) (t : Text) : Option (List Text × Text × Text) := do
  let (keys, rest) ← dottedKey (t.length + 1) t
  let (path, key) ← splitLast keys
  let rest ← expect ']' rest
  let rest ← if double then expect ']' rest else pure rest
  return (path, key, ← endOfLine rest)

/-- Reads the lines of a document one by one into `document`, the keys going to the table at the end
of the path `table`. Every round consumes a character. -/
def lines : Nat → List Text → Value → Text → Option Value
  | 0, _, _, _ => none
  | n + 1, table, document, t =>
    match skipBlanks t with
    | [] => some document
    | '[' :: '[' :: rest => do
      let (path, key, rest) ← header true rest
      lines n (path ++ [key]) (← document.openItem path key) rest
    | '[' :: rest => do
      let (path, key, rest) ← header false rest
      lines n (path ++ [key]) (← document.openTable path key) rest
    | '#' :: rest => do lines n table document (← endOfLine ('#' :: rest))
    | t =>
      match newline? t with
      | some rest => lines n table document rest
      | none => do
        let (path, key, rest) ← keyEquals t
        let (v, rest) ← value (t.length + 1) nestingBound rest
        let document ← document.addAt table path key v
        lines n table document (← endOfLine rest)

/-- The entries of the document that a text writes, which may begin with a byte order mark. -/
def parse (t : Text) : Option Entries :=
  let t :=
    match t with
    | '\ufeff' :: rest => rest
    | t => t
  match lines (t.length + 1) [] (.table .defined []) t with
  | some (.table _ entries) => some entries
  | _ => none

end TagSpacing.Toml
