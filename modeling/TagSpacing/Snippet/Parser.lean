import TagSpacing.Snippet.Basic

/-! Reading templates: `$1`, `${1:content}`, `$NAME`, `${NAME:fallback}` and
`${NAME/pattern/format/flags}`, with backslashes in front of `$`, `}` and backslashes that stand for
themselves. A dollar sign that begins none of these stands for itself. -/
namespace TagSpacing

namespace Template

/-- Why a template cannot be read. Offsets are not known yet: the text that begins with the
construct's dollar sign stands for its place. -/
inductive Fault
  | malformed (construct : Text)
  | invalidRegex (pattern : Text)
  | unknownFlag (flag : Char)

def Fault.toError (length : Nat) : Fault → SnippetError
  | malformed construct => .malformed (length - construct.length)
  | invalidRegex pattern => .invalidRegex pattern
  | unknownFlag flag => .unknownFlag flag

/-- Numbers are 64-bit words; larger ones become the largest word. -/
def largestNumber : Nat := (1 <<< 64) - 1

def numberValue (digits : Text) : Nat :=
  digits.foldl (fun n c => min (10 * n + (c.toNat - '0'.toNat)) largestNumber) 0

/-- The number at the front of a text. -/
def number (t : Text) : Nat × Text := (numberValue (t.takeWhile Char.isDigit), t.dropWhile Char.isDigit)

def isNameStart (c : Char) : Bool := c = '_' || c.isAlpha

def isNameChar (c : Char) : Bool := c = '_' || c.isAlphanum

/-- The name at the front of a text. -/
def name (t : Text) : Text × Text := (t.takeWhile isNameChar, t.dropWhile isNameChar)

/-- Elements with a character in front; characters in a row are one text. -/
def consChar (c : Char) : List Element → List Element
  | .text t :: es => .text (c :: t) :: es
  | es => .text [c] :: es

/-- The same for the items of a format. -/
def consFormatChar (c : Char) : List FormatItem → List FormatItem
  | .text t :: items => .text (c :: t) :: items
  | items => .text [c] :: items

/-- The pattern up to the next slash and what follows that. A backslash in front of a slash makes it
part of the pattern. -/
def patternSource : Text → Option (Text × Text)
  | [] => none
  | '/' :: rest => some ([], rest)
  | '\\' :: '/' :: rest => (patternSource rest).map fun (p, rest) => ('/' :: p, rest)
  | c :: rest => (patternSource rest).map fun (p, rest) => (c :: p, rest)

/-- The format up to the next slash and what follows that. Every round consumes a character, so the
length of the text bounds the rounds. -/
def format : Nat → Text → Option (List FormatItem × Text)
  | 0, _ => none
  | _ + 1, [] => none
  | n + 1, c :: rest =>
    let char (c : Char) (rest : Text) : Option (List FormatItem × Text) :=
      (format n rest).map fun (items, rest) => (consFormatChar c items, rest)
    let group (g : Nat) (rest : Text) : Option (List FormatItem × Text) :=
      (format n rest).map fun (items, rest) => (.group g :: items, rest)
    match c, rest with
    | '/', rest => some ([], rest)
    | '\\', e :: rest => if e = '/' ∨ e = '$' ∨ e = '\\' then char e rest else char '\\' (e :: rest)
    | '$', d :: rest =>
      if d.isDigit then
        let (g, rest) := number (d :: rest)
        group g rest
      else
        match d, rest with
        | '\x7b', e :: rest =>
          if e.isDigit then
            let (g, rest) := number (e :: rest)
            match rest with
            | '\x7d' :: rest => group g rest
            | _ => none
          else char '$' (d :: e :: rest)
        | _, _ => char '$' (d :: rest)
    | c, rest => char c rest

/-- The flags of a transform. -/
structure TransformFlags where
  isGlobal : Bool := false
  ignoreCase : Bool := false
  multiLine : Bool := false

/-- Flags up to the closing brace and what follows that. -/
def transformFlags (construct : Text) (f : TransformFlags) : Text → Except Fault (TransformFlags × Text)
  | [] => .error (.malformed construct)
  | '\x7d' :: rest => .ok (f, rest)
  | 'g' :: rest => transformFlags construct { f with isGlobal := true } rest
  | 'i' :: rest => transformFlags construct { f with ignoreCase := true } rest
  | 'm' :: rest => transformFlags construct { f with multiLine := true } rest
  | c :: _ => .error (.unknownFlag c)

/-- The transform behind the first slash, up to the closing brace, and what follows that. -/
def transform (construct : Text) (t : Text) : Except Fault (Transform × Text) :=
  match patternSource t with
  | none => .error (.malformed construct)
  | some (pattern, rest) =>
    match format rest.length rest with
    | none => .error (.malformed construct)
    | some (format, rest) =>
      match transformFlags construct {} rest with
      | .error e => .error e
      | .ok (f, rest) =>
        match h : Regex.compile? { ignoreCase := f.ignoreCase, multiLine := f.multiLine } pattern with
        | none => .error (.invalidRegex pattern)
        | some program =>
          .ok (⟨pattern, format, f.isGlobal, f.ignoreCase, f.multiLine, program, h⟩, rest)

mutual

/-- The elements up to the end of a text or, within a construct, up to the brace that closes it, and
what follows them. Every call consumes a character, so the length of the text bounds their depth. -/
def elements (nested : Bool) : Nat → Text → Except Fault (List Element × Text)
  | _, [] => .ok ([], [])
  | 0, t => .error (.malformed t)
  | n + 1, c :: rest =>
    let char (c : Char) (rest : Text) : Except Fault (List Element × Text) :=
      (elements nested n rest).map fun (es, rest) => (consChar c es, rest)
    if c = '\x7d' ∧ nested then .ok ([], c :: rest)
    else if c = '\\' then
      match rest with
      | e :: rest' => if e = '$' ∨ e = '\x7d' ∨ e = '\\' then char e rest' else char c rest
      | [] => char c rest
    else if c = '$' then
      match construct n rest with
      | .error e => .error e
      | .ok none => char c rest
      | .ok (some (e, rest)) => (elements nested n rest).map fun (es, rest) => (e :: es, rest)
    else char c rest

/-- The tabstop or variable whose dollar sign stands in front of a text, if there is one, and what
follows it. -/
def construct : Nat → Text → Except Fault (Option (Element × Text))
  | 0, t => .error (.malformed t)
  | n + 1, t =>
    match t with
    | [] => .ok none
    | '\x7b' :: rest => (braced ('$' :: t) n rest).map some
    | c :: _ =>
      if c.isDigit then
        let (i, rest) := number t
        .ok (some (.tabstop i [], rest))
      else if isNameStart c then
        let (v, rest) := name t
        .ok (some (.variable v [] none, rest))
      else .ok none

/-- The construct whose opening brace stands in front of a text, and what follows it. -/
def braced (whole : Text) : Nat → Text → Except Fault (Element × Text)
  | 0, _ => .error (.malformed whole)
  | n + 1, t =>
    match t with
    | [] => .error (.malformed whole)
    | c :: _ =>
      if c.isDigit then
        match number t with
        | (i, '\x7d' :: rest) => .ok (.tabstop i [], rest)
        | (i, ':' :: rest) => (content whole n rest).map fun (es, rest) => (.tabstop i es, rest)
        | _ => .error (.malformed whole)
      else if isNameStart c then
        match name t with
        | (v, '\x7d' :: rest) => .ok (.variable v [] none, rest)
        | (v, ':' :: rest) => (content whole n rest).map fun (es, rest) => (.variable v es none, rest)
        | (v, '/' :: rest) =>
          (transform whole rest).map fun (tr, rest) => (.variable v [] (some tr), rest)
        | _ => .error (.malformed whole)
      else .error (.malformed whole)

/-- The elements up to the closing brace, which is consumed. -/
def content (whole : Text) : Nat → Text → Except Fault (List Element × Text)
  | 0, _ => .error (.malformed whole)
  | n + 1, t =>
    match elements true n t with
    | .error e => .error e
    | .ok (es, '\x7d' :: rest) => .ok (es, rest)
    | .ok _ => .error (.malformed whole)

end

end Template

/-- The snippet that a template writes. -/
def Snippet.parse (template : Text) : Except SnippetError Snippet :=
  match Template.elements false (2 * template.length + 2) template with
  | .ok (es, _) => .ok ⟨es⟩
  | .error fault => .error (fault.toError template.length)

end TagSpacing
