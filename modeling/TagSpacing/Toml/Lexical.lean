import TagSpacing.Toml.Value
import TagSpacing.Unicode.RunTable

/-! Strings, numbers, dates and keys of a TOML document. -/
namespace TagSpacing.Toml

def isBlank (c : Char) : Bool := c = ' ' || c = '\t'

def skipBlanks (t : Text) : Text := t.dropWhile isBlank

/-- What follows a line feed, or a carriage return with a line feed, at the front of a text. -/
def newline? : Text → Option Text
  | '\n' :: rest => some rest
  | '\r' :: '\n' :: rest => some rest
  | _ => none

/-- Control characters other than the tab must not stand in strings and comments. -/
def isPlain (c : Char) : Bool := c = '\t' || (0x20 ≤ c.toNat && c.toNat ≠ 0x7f)

/-- What follows blanks, line breaks and comments. Every round consumes a character. -/
def skipLines : Nat → Text → Text
  | 0, t => t
  | n + 1, t =>
    match skipBlanks t with
    | '#' :: rest => skipLines n (rest.dropWhile isPlain)
    | t =>
      match newline? t with
      | some rest => skipLines n rest
      | none => t

def isHexDigit (c : Char) : Bool :=
  c.isDigit || ('a' ≤ c && c ≤ 'f') || ('A' ≤ c && c ≤ 'F')

/-- The character with a code point of so many hexadecimal digits at the front of a text. -/
def codePoint (width : Nat) (t : Text) : Option (Char × Text) :=
  let digits := t.take width
  let n := Unicode.hexValue digits
  if digits.length = width ∧ digits.all isHexDigit ∧ n.isValidChar then
    some (Char.ofNat n, t.drop width)
  else none

/-- The character that an escape stands for, its backslash being consumed. -/
def escape : Text → Option (Char × Text)
  | 'b' :: rest => some ('\x08', rest)
  | 't' :: rest => some ('\t', rest)
  | 'n' :: rest => some ('\n', rest)
  | 'f' :: rest => some ('\x0c', rest)
  | 'r' :: rest => some ('\r', rest)
  | 'e' :: rest => some ('\x1b', rest)
  | '"' :: rest => some ('"', rest)
  | '\\' :: rest => some ('\\', rest)
  | 'x' :: rest => codePoint 2 rest
  | 'u' :: rest => codePoint 4 rest
  | 'U' :: rest => codePoint 8 rest
  | _ => none

/-- A string up to a double quote. Every round consumes a character. -/
def basicString : Nat → Text → Option (Text × Text)
  | 0, _ => none
  | _ + 1, [] => none
  | n + 1, c :: rest =>
    if c = '"' then some ([], rest)
    else if c = '\\' then do
      let (e, rest) ← escape rest
      let (t, rest) ← basicString n rest
      return (e :: t, rest)
    else if isPlain c then (basicString n rest).map fun (t, rest) => (c :: t, rest)
    else none

/-- A string up to a single quote. -/
def literalString (t : Text) : Option (Text × Text) :=
  match t.dropWhile fun c => isPlain c && c != '\'' with
  | '\'' :: rest => some (t.takeWhile (fun c => isPlain c && c != '\''), rest)
  | _ => none

/-- A string up to three of the quotes it is in. Two more may belong to it at its end. A backslash at
the end of a line joins the next word to the one before, unless the string is literal. Every round
consumes a character. -/
def longString (quote : Char) : Nat → Text → Option (Text × Text)
  | 0, _ => none
  | _ + 1, [] => none
  | n + 1, c :: rest =>
    let more (c : Char) (rest : Text) : Option (Text × Text) :=
      (longString quote n rest).map fun (t, rest) => (c :: t, rest)
    if c = quote then
      match rest with
      | d :: e :: rest' =>
        if d = quote ∧ e = quote then
          let extra := (rest'.take 2).takeWhile (· == quote)
          some (extra, rest'.drop extra.length)
        else more c rest
      | _ => more c rest
    else if c = '\\' ∧ quote = '"' then
      match newline? (skipBlanks rest) with
      | some rest =>
        longString quote n (rest.dropWhile fun c => isBlank c || c == '\n' || c == '\r')
      | none =>
        match escape rest with
        | some (e, rest) => more e rest
        | none => none
    else
      match newline? (c :: rest) with
      | some rest => more '\n' rest
      | none => if isPlain c then more c rest else none

/-- A string at the front of a text, in quotes of any kind. -/
def string (t : Text) : Option (Text × Text) :=
  let long (quote : Char) (rest : Text) : Option (Text × Text) :=
    longString quote (rest.length + 1) ((newline? rest).getD rest)
  match t with
  | '"' :: '"' :: '"' :: rest => long '"' rest
  | '"' :: rest => basicString (rest.length + 1) rest
  | '\'' :: '\'' :: '\'' :: rest => long '\'' rest
  | '\'' :: rest => literalString rest
  | _ => none

def isBareKeyChar (c : Char) : Bool := c.isAlphanum || c = '_' || c = '-'

/-- One part of a key at the front of a text. -/
def keyPart (t : Text) : Option (Text × Text) :=
  match t with
  | '"' :: rest => basicString (rest.length + 1) rest
  | '\'' :: rest => literalString rest
  | t =>
    match t.takeWhile isBareKeyChar with
    | [] => none
    | key => some (key, t.dropWhile isBareKeyChar)

/-- The parts of a dotted key at the front of a text, and what follows blanks behind it. Every round
consumes a character. -/
def dottedKey : Nat → Text → Option (List Text × Text)
  | 0, _ => none
  | n + 1, t =>
    match keyPart (skipBlanks t) with
    | none => none
    | some (key, rest) =>
      match skipBlanks rest with
      | '.' :: rest => (dottedKey n rest).map fun (keys, rest) => (key :: keys, rest)
      | rest => some ([key], rest)

/-- Digits without the underscores, each of which stands between two digits. -/
def groupedDigits (isDigit : Char → Bool) (t : Text) : Option Text :=
  let parts := Unicode.splitOnChar '_' t
  if parts.all fun p => !p.isEmpty && p.all isDigit then some parts.flatten else none

def digitsValue (base : Nat) (digits : Text) : Nat :=
  digits.foldl (fun n c => base * n + Unicode.hexDigitValue c) 0

/-- A sign at the front of a text, which is negative or not, and what follows it. -/
def sign (t : Text) : Bool × Text :=
  match t with
  | '-' :: rest => (true, rest)
  | '+' :: rest => (false, rest)
  | t => (false, t)

/-- Decimal digits of a number, which begins with zero only if it is zero. -/
def wholeDigits (t : Text) : Option Text :=
  (groupedDigits Char.isDigit t).filter fun
    | '0' :: _ :: _ => false
    | _ => true

def integer (t : Text) : Option Int :=
  match t with
  | '0' :: 'x' :: rest => (groupedDigits isHexDigit rest).map fun ds => digitsValue 16 ds
  | '0' :: 'o' :: rest => (groupedDigits (fun c => '0' ≤ c && c ≤ '7') rest).map fun ds => digitsValue 8 ds
  | '0' :: 'b' :: rest => (groupedDigits (fun c => c = '0' || c = '1') rest).map fun ds => digitsValue 2 ds
  | t =>
    let (negative, t) := sign t
    (wholeDigits t).map fun ds => if negative then -digitsValue 10 ds else digitsValue 10 ds

def float (t : Text) : Option FloatLiteral :=
  let (negative, t) := sign t
  if t = ['i', 'n', 'f'] then some (.infinite negative)
  else if t = ['n', 'a', 'n'] then some .nan
  else do
    let isExponent (c : Char) : Bool := c == 'e' || c == 'E'
    let number := t.takeWhile (!isExponent ·)
    let exponent ←
      match t.dropWhile (!isExponent ·) with
      | [] => pure 0
      | _ :: rest =>
        let (negative, rest) := sign rest
        let ds ← groupedDigits Char.isDigit rest
        pure (if negative then -(digitsValue 10 ds : Int) else digitsValue 10 ds)
    let whole ← wholeDigits (number.takeWhile (· != '.'))
    let fraction ←
      match number.dropWhile (· != '.') with
      | [] => if number.length = t.length then none else pure []
      | _ :: rest => groupedDigits Char.isDigit rest
    return .finite negative (digitsValue 10 (whole ++ fraction)) (exponent - fraction.length)

/-- A number of so many digits at the front of a text. -/
def fixedDigits (width : Nat) (t : Text) : Option (Nat × Text) :=
  let digits := t.take width
  if digits.length = width ∧ digits.all Char.isDigit then some (digitsValue 10 digits, t.drop width)
  else none

/-- What follows a certain character. -/
def expect (c : Char) : Text → Option Text
  | d :: rest => if c = d then some rest else none
  | [] => none

/-- What follows a condition that has to hold. -/
def require (condition : Bool) : Option Unit := if condition then some () else none

def daysInMonth (year month : Nat) : Nat :=
  if month = 2 then
    if year % 4 = 0 ∧ (year % 100 ≠ 0 ∨ year % 400 = 0) then 29 else 28
  else if month = 4 ∨ month = 6 ∨ month = 9 ∨ month = 11 then 30 else 31

/-- What follows a date at the front of a text. -/
def date (t : Text) : Option Text := do
  let (year, t) ← fixedDigits 4 t
  let (month, t) ← fixedDigits 2 (← expect '-' t)
  let (day, t) ← fixedDigits 2 (← expect '-' t)
  require (1 ≤ month && month ≤ 12 && 1 ≤ day && day ≤ daysInMonth year month)
  return t

/-- What follows hours and minutes. -/
def hourMinute (t : Text) : Option Text := do
  let (hour, t) ← fixedDigits 2 t
  let (minute, t) ← fixedDigits 2 (← expect ':' t)
  require (hour ≤ 23 && minute ≤ 59)
  return t

/-- What follows a time of day; seconds and parts of them may be missing. -/
def time (t : Text) : Option Text := do
  let t ← hourMinute t
  match t with
  | ':' :: t =>
    let (second, t) ← fixedDigits 2 t
    require (second ≤ 60)
    match t with
    | '.' :: t =>
      require (t.head?.any Char.isDigit)
      return t.dropWhile Char.isDigit
    | t => return t
  | t => return t

/-- What follows the distance from universal time, if one is given. -/
def zone (t : Text) : Option Text :=
  match t with
  | 'Z' :: t | 'z' :: t => some t
  | '+' :: t | '-' :: t => hourMinute t
  | t => some t

/-- Whether a text is a date, a time or both. -/
def isDatetime (t : Text) : Bool :=
  time t = some [] ||
    match date t with
    | some [] => true
    | some (c :: rest) => (c = 'T' || c = 't' || c = ' ') && (time rest).bind zone = some []
    | none => false

/-- The value of a word without quotes. -/
def word (t : Text) : Option Scalar :=
  if t = ['t', 'r', 'u', 'e'] then some (.boolean true)
  else if t = ['f', 'a', 'l', 's', 'e'] then some (.boolean false)
  else if isDatetime t then some .datetime
  else (integer t).map .integer <|> (float t).map .float

def endsWord (c : Char) : Bool :=
  isBlank c || c == '\n' || c == '\r' || c == ',' || c == ']' || c == '\x7d' || c == '#' ||
    c == '[' || c == '\x7b' || c == '='

/-- The value of the word at the front of a text. A date and a time may have a space between them. -/
def bareScalar (t : Text) : Option (Scalar × Text) :=
  let first := t.takeWhile (!endsWord ·)
  let rest := t.dropWhile (!endsWord ·)
  let (all, rest) :=
    match date first, rest with
    | some [], ' ' :: d :: more =>
      if d.isDigit then
        (first ++ ' ' :: (d :: more).takeWhile (!endsWord ·), (d :: more).dropWhile (!endsWord ·))
      else (first, rest)
    | _, _ => (first, rest)
  (word all).map fun s => (s, rest)

end TagSpacing.Toml
