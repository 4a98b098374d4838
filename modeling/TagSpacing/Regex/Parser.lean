import TagSpacing.Text
import TagSpacing.Regex.Pattern

/-! Reading regular expressions. Flags that a pattern sets are worked into the pattern at once. There is
no account of what is wrong with a pattern that cannot be read. -/
namespace TagSpacing.Regex

/-- Switches that change how a pattern is read. -/
structure Flags where
  /-- Flag `i`: the case of letters makes no difference. -/
  ignoreCase : Bool := false
  /-- Flag `m`: line feeds delimit what `^` and `$` look for. -/
  multiLine : Bool := false
  /-- Flag `s`: a dot also stands for a line feed. -/
  dotAll : Bool := false
  /-- Flag `U`: repetitions are lazy, and `?` behind them makes them greedy. -/
  swapGreed : Bool := false
  /-- Flag `u`: classes hold all of Unicode, not only ASCII characters. -/
  unicode : Bool := true
  /-- Flag `R`: a carriage return ends lines too. -/
  crlf : Bool := false
  /-- Flag `x`: blanks and comments in the pattern are skipped. -/
  verbose : Bool := false
deriving DecidableEq

namespace Flags

/-- Turns a flag on or off by its letter. -/
def set? (f : Flags) (letter : Char) (on : Bool) : Option Flags :=
  match letter with
  | 'i' => some { f with ignoreCase := on }
  | 'm' => some { f with multiLine := on }
  | 's' => some { f with dotAll := on }
  | 'U' => some { f with swapGreed := on }
  | 'u' => some { f with unicode := on }
  | 'R' => some { f with crlf := on }
  | 'x' => some { f with verbose := on }
  | _ => none

end Flags

/-- What is left of a pattern, and what was met so far. -/
structure ReadState where
  rest : Text
  flags : Flags
  /-- Number of capturing groups. -/
  groups : Nat := 0
  /-- Names of groups. -/
  names : List Text := []

/-- A reader of a part of a pattern. -/
abbrev Reader := StateT ReadState Option

namespace Reader

/-- What follows blanks and comments, which run from `#` to the end of the line. -/
def dropBlanks (inComment : Bool) : Text → Text
  | [] => []
  | c :: rest =>
    if inComment then dropBlanks (c != '\n') rest
    else if Unicode.isBlank c then dropBlanks false rest
    else if c = '#' then dropBlanks true rest
    else c :: rest

def rest : Reader Text := return (← get).rest

def flags : Reader Flags := return (← get).flags

def setRest (t : Text) : Reader Unit := modify fun s => { s with rest := t }

def setFlags (f : Flags) : Reader Unit := modify fun s => { s with flags := f }

def require (condition : Bool) : Reader Unit := if condition then pure () else failure

/-- Skips blanks if the flags say so. -/
def skipBlanks : Reader Unit :=
  modify fun s => if s.flags.verbose then { s with rest := dropBlanks false s.rest } else s

/-- The next character, which is consumed. -/
def next : Reader Char := do
  match ← rest with
  | c :: t =>
    setRest t
    return c
  | [] => failure

/-- Consumes one certain character. -/
def expect (c : Char) : Reader Unit := do require ((← next) == c)

/-- Consumes a text if the rest begins with it. -/
def accept? (t : Text) : Reader Bool := do
  let r ← rest
  if t.isPrefixOf r then
    setRest (r.drop t.length)
    return true
  else return false

/-- Consumes the digits of a number, between which blanks may be skipped. -/
def digits (isDigit : Char → Bool) : Nat → Reader Text
  | 0 => return []
  | n + 1 => do
    match ← rest with
    | c :: t =>
      if isDigit c then
        setRest t
        skipBlanks
        return c :: (← digits isDigit n)
      else return []
    | [] => return []

/-- A decimal number of a counted repetition, with any blanks around it. -/
def count : Reader Nat := do
  setRest ((← rest).dropWhile Unicode.isBlank)
  let ds ← digits Char.isDigit (← rest).length
  setRest ((← rest).dropWhile Unicode.isBlank)
  skipBlanks
  require (!ds.isEmpty)
  let n := ds.foldl (fun n c => 10 * n + (c.toNat - '0'.toNat)) 0
  require (n < 1 <<< 32)
  return n

def isHexDigit (c : Char) : Bool :=
  c.isDigit || ('a' ≤ c && c ≤ 'f') || ('A' ≤ c && c ≤ 'F')

/-- The character with a code point in hexadecimal: of a fixed number of digits, or in braces. -/
def hexChar (width : Nat) : Reader Char := do
  skipBlanks
  let ds ←
    if ← accept? ['\x7b'] then
      skipBlanks
      let ds ← digits isHexDigit (← rest).length
      expect '\x7d'
      pure ds
    else
      let ds ← digits isHexDigit width
      require (ds.length = width)
      pure ds
  skipBlanks
  require (!ds.isEmpty)
  let n := Unicode.hexValue ds
  require (n.isValidChar)
  return Char.ofNat n

end Reader

/-- What a single character, an escape or a sign stands for. -/
inductive Primitive
  | literal (c : Char)
  | set (s : CharSet)
  | look (look : Look)

namespace Reader

/-- A set with the flags worked in: case first, then negation. Without Unicode no set may reach
beyond ASCII. -/
def finishSet (s : CharSet) (negated : Bool) : Reader CharSet := do
  let f ← flags
  let s := if f.ignoreCase then s.ignoringCase else s
  require (f.unicode || !negated)
  let s := if f.unicode then s else s.intersection (.range '\x00' '\x7f')
  return if negated then s.complement else s

/-- A class of digits, blanks or word characters. -/
def letterClass (letter : Char) : Reader CharSet := do
  let f ← flags
  let (wide, ascii) :=
    if letter = 'd' ∨ letter = 'D' then (Unicode.Property.digit, CharSet.asciiDigit)
    else if letter = 's' ∨ letter = 'S' then (.blank, .asciiSpace)
    else (.word, .asciiWord)
  let s := if f.unicode then .property wide else ascii
  if letter.isUpper then
    require f.unicode
    return s.complement
  else return s

/-- The characters up to a closing brace, which is consumed. -/
def nameInBraces : Nat → Reader Text
  | 0 => failure
  | n + 1 => do
    skipBlanks
    let c ← next
    if c = '\x7d' then return [] else return c :: (← nameInBraces n)

/-- The two sides of the first occurrence of a separator. -/
def splitAt? (separator : Text) : Text → Option (Text × Text)
  | [] => none
  | c :: t =>
    if separator.isPrefixOf (c :: t) then some ([], (c :: t).drop separator.length)
    else (splitAt? separator t).map fun (a, b) => (c :: a, b)

/-- The class of the characters with a property, behind `\p` or `\P`. -/
def propertyClass (negated : Bool) : Reader CharSet := do
  require (← flags).unicode
  skipBlanks
  let (property?, negated) ←
    if ← accept? ['\x7b'] then
      let name ← nameInBraces ((← rest).length + 1)
      pure <|
        match splitAt? ['!', '='] name with
        | some (name, value) => (Unicode.Property.ofNameValue? name value, !negated)
        | none =>
          match splitAt? [':'] name <|> splitAt? ['='] name with
          | some (name, value) => (Unicode.Property.ofNameValue? name value, negated)
          | none => (Unicode.Property.ofName? name, negated)
    else
      let c ← next
      require (c != '\\')
      skipBlanks
      pure (Unicode.Property.ofName? [c], negated)
  match property? with
  | some p => finishSet (.property p) negated
  | none => failure

/-- The kind of word boundary in `\b{...}`, if what follows the brace is a name. -/
def boundaryName? : Reader (Option Look) := do
  let start ← rest
  expect '\x7b'
  skipBlanks
  let isNameChar (c : Char) : Bool := c.isAlpha || c == '-'
  match ← rest with
  | [] => failure
  | c :: _ =>
    if isNameChar c then
      let name ← digits isNameChar start.length
      expect '\x7d'
      match String.ofList name with
      | "start" => return some .wordStart
      | "end" => return some .wordStop
      | "start-half" => return some .wordStartHalf
      | "end-half" => return some .wordStopHalf
      | _ => failure
    else
      setRest start
      return none

/-- What an escape stands for, its backslash being consumed. ASCII characters other than letters,
digits and angle brackets stand for themselves. -/
def escape : Reader Primitive := do
  let c ← next
  match c with
  | 'x' => return .literal (← hexChar 2)
  | 'u' => return .literal (← hexChar 4)
  | 'U' => return .literal (← hexChar 8)
  | 'p' => return .set (← propertyClass false)
  | 'P' => return .set (← propertyClass true)
  | 'd' | 's' | 'w' | 'D' | 'S' | 'W' => return .set (← letterClass c)
  | 'a' => return .literal '\x07'
  | 'f' => return .literal '\x0c'
  | 't' => return .literal '\t'
  | 'n' => return .literal '\n'
  | 'r' => return .literal '\r'
  | 'v' => return .literal '\x0b'
  | 'A' => return .look .textStart
  | 'z' => return .look .textStop
  | 'B' => return .look .notWordBoundary
  | '<' => return .look .wordStart
  | '>' => return .look .wordStop
  | 'b' =>
    match ← rest with
    | '\x7b' :: _ => return .look ((← boundaryName?).getD .wordBoundary)
    | _ => return .look .wordBoundary
  | _ =>
    require (c.toNat < 0x80 && !c.isAlphanum)
    return .literal c

/-- Whether the rest begins with `-` that is no range sign: one before the end of the class or
before another. -/
def atPlainHyphen : Reader Bool := do
  match ← rest with
  | '-' :: t =>
    let t := if (← flags).verbose then dropBlanks false t else t
    return t.head? = some ']' || t.head? = some '-'
  | _ => return false

/-- A character or an escape in a class. -/
def classPrimitive : Reader Primitive := do
  match ← next with
  | '\\' => escape
  | c => return .literal c

def classLiteral : Primitive → Reader Char
  | .literal c => do
    require ((← flags).unicode || c.toNat < 0x80)
    return c
  | _ => failure

/-- A range, a single character or an escape in a class. -/
def classItem : Reader CharSet := do
  let first ← classPrimitive
  skipBlanks
  let r ← rest
  require (!r.isEmpty)
  if r.head? ≠ some '-' || (← atPlainHyphen) then
    match first with
    | .set s => return s
    | _ => return .single (← classLiteral first)
  else
    expect '-'
    skipBlanks
    let low ← classLiteral first
    let high ← classLiteral (← classPrimitive)
    require (low ≤ high)
    return .range low high

/-- An ASCII class such as `[:alpha:]`, if the rest begins with one. -/
def asciiClass? : Reader (Option CharSet) := do
  let start ← rest
  match start with
  | '[' :: ':' :: t =>
    let (negated, t) :=
      match t with
      | '^' :: t => (true, t)
      | _ => (false, t)
    match CharSet.ascii? (t.takeWhile (· != ':')), t.dropWhile (· != ':') with
    | some s, ':' :: ']' :: t =>
      setRest t
      return some (← finishSet s negated)
    | _, _ => return none
  | _ => return none

end Reader

/-- A set that is being read, and how deeply its parts are nested. -/
structure SetNode where
  set : CharSet
  depth : Nat

namespace SetNode

/-- The union of the items of a class, the last one given first. -/
def ofReversed : List SetNode → SetNode
  | [] => ⟨.none, 0⟩
  | [n] => n
  | items => ⟨.unions (items.reverse.map (·.set)), items.foldl (fun d n => max d n.depth) 0 + 1⟩

end SetNode

/-- The operations on sets in a class. -/
inductive SetOperator
  | intersection
  | difference
  | symmetricDifference

namespace SetOperator

def apply : SetOperator → CharSet → CharSet → CharSet
  | intersection => .intersection
  | difference => .difference
  | symmetricDifference => .symmetricDifference

end SetOperator

namespace Reader

/-- The value of a class so far: the operation that is pending, if any, applied to the items that
followed it. Under flag `i` both operands ignore case. -/
def operate (pending : Option (SetNode × SetOperator)) (items : List SetNode) : Reader SetNode := do
  let right := SetNode.ofReversed items
  match pending with
  | none => return right
  | some (left, op) =>
    let f ← flags
    let ignoring (s : CharSet) : CharSet := if f.ignoreCase then s.ignoringCase else s
    return ⟨op.apply (ignoring left.set) (ignoring right.set), max left.depth right.depth + 1⟩

/-- Hyphens at the start of a class, which stand for themselves. -/
def leadingHyphens : Nat → Reader (List SetNode)
  | 0 => return []
  | n + 1 => do
    if ← accept? ['-'] then
      skipBlanks
      return ⟨.single '-', 0⟩ :: (← leadingHyphens n)
    else return []

mutual

/-- A class in brackets, whose opening bracket comes next. -/
def bracketed : Nat → Reader SetNode
  | 0 => failure
  | n + 1 => do
    expect '['
    skipBlanks
    let negated ← accept? ['^']
    skipBlanks
    let items ← leadingHyphens (← rest).length
    let items ←
      if items.isEmpty then
        if ← accept? [']'] then
          skipBlanks
          pure [⟨.single ']', 0⟩]
        else pure []
      else pure items
    let node ← classBody n none items
    return ⟨← finishSet node.set negated, node.depth + 1⟩

/-- The rest of a class up to its closing bracket, which is consumed. -/
def classBody : Nat → Option (SetNode × SetOperator) → List SetNode → Reader SetNode
  | 0, _, _ => failure
  | n + 1, pending, items => do
    skipBlanks
    match ← rest with
    | [] => failure
    | ']' :: t =>
      setRest t
      operate pending items
    | '[' :: _ =>
      match ← asciiClass? with
      | some s => classBody n pending (⟨s, 0⟩ :: items)
      | none => classBody n pending ((← bracketed n) :: items)
    | '&' :: '&' :: t =>
      setRest t
      classBody n (some (← operate pending items, .intersection)) []
    | '-' :: '-' :: t =>
      setRest t
      classBody n (some (← operate pending items, .difference)) []
    | '~' :: '~' :: t =>
      setRest t
      classBody n (some (← operate pending items, .symmetricDifference)) []
    | _ => classBody n pending (⟨← classItem, 0⟩ :: items)

end

end Reader

/-- A pattern that is being read, and how deeply its parts are nested. -/
structure Node where
  pattern : Pattern
  depth : Nat

/-- A part of a sequence. -/
inductive Item
  | node (n : Node)
  /-- A change of flags; it matches nothing and cannot be repeated. -/
  | flags

namespace Node

/-- Nodes joined, the last one given first: one alone stays as it is. -/
def join (combine : List Pattern → Pattern) : List Node → Node
  | [] => ⟨.empty, 0⟩
  | [n] => n
  | ns => ⟨combine (ns.map (·.pattern)), ns.foldl (fun d n => max d n.depth) 0 + 1⟩

/-- The sequence of some items, the last one given first. -/
def ofItems (items : List Item) : Node :=
  join .ofReversed <| items.map fun
    | .node n => n
    | .flags => ⟨.empty, 0⟩

end Node

/-- What an opening parenthesis begins. -/
inductive GroupHead
  /-- A change of flags for the rest of the group around. -/
  | setFlags (f : Flags)
  /-- A group with flags of its own, capturing if it has a number. -/
  | group (f : Flags) (index : Option Nat)

namespace Reader

/-- Flag letters up to `:` or `)`, with those read before, the last one first. Behind `-` flags are
turned off. -/
def flagLetters (f : Flags) (on : Bool) (seen : List Char) : Text → Option (Flags × List Char × Text)
  | [] => none
  | c :: t =>
    if c = ':' ∨ c = ')' then if seen.head? = some '-' then none else some (f, seen, c :: t)
    else if seen.contains c then none
    else if c = '-' then flagLetters f false (c :: seen) t
    else (f.set? c on).bind fun f => flagLetters f on (c :: seen) t

def newGroup : Reader Nat := do
  modify fun s => { s with groups := s.groups + 1 }
  return (← get).groups

/-- The name of a group up to `>`, which is consumed. -/
def groupName : Reader Unit := do
  let name := (← rest).takeWhile (· != '>')
  let isNameChar (c : Char) : Bool :=
    c == '_' || c == '.' || c == '[' || c == ']' || Unicode.isAlphanumeric c
  let startsWell : Bool :=
    match name with
    | c :: _ => c == '_' || Unicode.isAlphabetic c
    | [] => false
  require (startsWell && name.all isNameChar && !(← get).names.contains name)
  setRest ((← rest).drop name.length)
  expect '>'
  modify fun s => { s with names := name :: s.names }

/-- What follows an opening parenthesis. -/
def groupHead : Reader GroupHead := do
  skipBlanks
  let f ← flags
  match ← rest with
  | '?' :: '=' :: _ | '?' :: '!' :: _ | '?' :: '<' :: '=' :: _ | '?' :: '<' :: '!' :: _ => failure
  | '?' :: 'P' :: '<' :: t | '?' :: '<' :: t =>
    let index ← newGroup
    setRest t
    groupName
    return .group f index
  | '?' :: t =>
    match flagLetters f true [] t with
    | some (f, seen, c :: t) =>
      setRest t
      if c = ':' then return .group f none
      else
        require (!seen.isEmpty)
        return .setFlags f
    | _ => failure
  | _ => return .group f (← newGroup)

/-- The last item repeated, the operator being consumed up to a `?` that may follow. -/
def repeatLast (items : List Item) (least : Nat) (most : Option Nat) : Reader (List Item) := do
  match items with
  | .node n :: items =>
    let marked ← accept? ['?']
    let greedy := marked == (← flags).swapGreed
    return .node ⟨n.pattern.repeated least most greedy, n.depth + 1⟩ :: items
  | _ => failure

/-- The bounds of a counted repetition, its opening brace being consumed. -/
def bounds : Reader (Nat × Option Nat) := do
  skipBlanks
  let least ← count
  let most ←
    if ← accept? [','] then
      skipBlanks
      match ← rest with
      | '\x7d' :: _ => pure none
      | _ => some <$> count
    else pure (some least)
  expect '\x7d'
  skipBlanks
  require (most.all (least ≤ ·))
  return (least, most)

/-- A character, an escape or a sign outside of classes. -/
def primitive : Reader Pattern := do
  let f ← flags
  let c ← next
  let p ←
    match c with
    | '\\' => escape
    | '.' =>
      require f.unicode
      let excluded := CharSet.ranges (if f.crlf then [('\n', '\n'), ('\r', '\r')] else [('\n', '\n')])
      pure (.set (if f.dotAll then CharSet.none.complement else excluded.complement))
    | '^' =>
      pure (.look (if f.multiLine then if f.crlf then .lineStartCrlf else .lineStart else .textStart))
    | '$' =>
      pure (.look (if f.multiLine then if f.crlf then .lineStopCrlf else .lineStop else .textStop))
    | c => pure (.literal c)
  match p with
  | .literal c =>
    return .set (if f.ignoreCase ∧ (f.unicode ∨ c.toNat < 0x80) then (CharSet.single c).ignoringCase
      else .single c)
  | .set s => return .set s
  | .look l => return .look l (!f.unicode)

/-- A pattern up to the end or to a parenthesis that closes it, which stays. Every round consumes a
character, so the length of the rest bounds the rounds. Alternatives and items that were read before
are given with the last one first. -/
def pattern : Nat → List Node → List Item → Reader Node
  | 0, _, _ => failure
  | n + 1, alternatives, items => do
    skipBlanks
    let stop : Node := Node.join .choices (.ofItems items :: alternatives)
    match ← rest with
    | [] => return stop
    | ')' :: _ => return stop
    | '|' :: t =>
      setRest t
      pattern n (.ofItems items :: alternatives) []
    | '(' :: t =>
      setRest t
      match ← groupHead with
      | .setFlags f =>
        setFlags f
        pattern n alternatives (.flags :: items)
      | .group f index =>
        let outer ← flags
        setFlags f
        let inner ← pattern n [] []
        expect ')'
        setFlags outer
        let p :=
          match index with
          | some i => .group i inner.pattern
          | none => inner.pattern
        pattern n alternatives (.node ⟨p, inner.depth + 1⟩ :: items)
    | '[' :: _ =>
      let node ← bracketed ((← rest).length + 1)
      pattern n alternatives (.node ⟨.set node.set, node.depth⟩ :: items)
    | '?' :: t =>
      setRest t
      pattern n alternatives (← repeatLast items 0 (some 1))
    | '*' :: t =>
      setRest t
      pattern n alternatives (← repeatLast items 0 none)
    | '+' :: t =>
      setRest t
      pattern n alternatives (← repeatLast items 1 none)
    | '\x7b' :: t =>
      setRest t
      let (least, most) ← bounds
      pattern n alternatives (← repeatLast items least most)
    | _ => pattern n alternatives (.node ⟨← primitive, 0⟩ :: items)

end Reader

/-- Patterns may be nested only so deeply. -/
def nestingBound : Nat := 250

/-- The pattern that a text writes under some flags. -/
def Pattern.parse? (flags : Flags) (t : Text) : Option Pattern := do
  let (node, state) ← (Reader.pattern (t.length + 1) [] []).run { rest := t, flags }
  if state.rest.isEmpty ∧ node.depth ≤ nestingBound then some node.pattern else none

end TagSpacing.Regex
