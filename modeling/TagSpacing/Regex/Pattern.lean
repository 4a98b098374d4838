import TagSpacing.Regex.CharSet

/-! Patterns, with all flags already taken into account. -/
namespace TagSpacing.Regex

/-- A condition on the place between two characters. -/
inductive Look
  | textStart
  | textStop
  /-- The start of the text or behind a line feed. -/
  | lineStart
  | lineStop
  /-- Like `lineStart`, where a carriage return, a line feed or both end a line. -/
  | lineStartCrlf
  | lineStopCrlf
  /-- A word character on exactly one side. -/
  | wordBoundary
  | notWordBoundary
  | wordStart
  | wordStop
  /-- No word character in front. -/
  | wordStartHalf
  /-- No word character behind. -/
  | wordStopHalf
deriving DecidableEq

namespace Look

/-- Whether the condition holds between two characters; none stands outside the text. Word characters
are the members of `word`. -/
def holds (word : Char → Bool) (look : Look) (before after : Option Char) : Bool :=
  let wordBefore := before.any word
  let wordAfter := after.any word
  match look with
  | textStart => before.isNone
  | textStop => after.isNone
  | lineStart => before.isNone || before = some '\n'
  | lineStop => after.isNone || after = some '\n'
  | lineStartCrlf =>
    before.isNone || before = some '\n' || (before = some '\r' && after ≠ some '\n')
  | lineStopCrlf =>
    after.isNone || after = some '\r' || (after = some '\n' && before ≠ some '\r')
  | wordBoundary => wordBefore != wordAfter
  | notWordBoundary => wordBefore == wordAfter
  | wordStart => !wordBefore && wordAfter
  | wordStop => wordBefore && !wordAfter
  | wordStartHalf => !wordBefore
  | wordStopHalf => !wordAfter

end Look

/-- What a regular expression matches, and which of several matches it prefers. -/
inductive Pattern
  | empty
  | set (s : CharSet)
  /-- A condition on the place; `ascii` says whether only ASCII characters count as word
  characters. -/
  | look (look : Look) (ascii : Bool)
  /-- A group that captures, by its number. -/
  | group (index : Nat) (p : Pattern)
  | sequence (p q : Pattern)
  /-- Either pattern, rather the first. -/
  | choice (p q : Pattern)
  /-- At least `least` and at most `most` times in a row, rather often if `greedy`, else rather
  seldom. -/
  | times (p : Pattern) (least : Nat) (most : Option Nat) (greedy : Bool)

namespace Pattern

/-- The length of the shortest text that fits, as far as the shape of the pattern tells. -/
def leastLength : Pattern → Nat
  | empty => 0
  | set _ => 1
  | look _ _ => 0
  | group _ p => p.leastLength
  | sequence p q => p.leastLength + q.leastLength
  | choice p q => min p.leastLength q.leastLength
  | times p least _ _ => least * p.leastLength

/-- Whether the pattern fits the empty text alone. -/
def isEmptyOnly : Pattern → Bool
  | empty => true
  | set _ => false
  | look _ _ => true
  | group _ p => p.isEmptyOnly
  | sequence p q => p.isEmptyOnly && q.isEmptyOnly
  | choice p q => p.isEmptyOnly && q.isEmptyOnly
  | times p _ most _ => p.isEmptyOnly || most == some 0

/-- The pattern repeated. Repeating the empty text more than once adds nothing, and repeating a
pattern zero times drops it with its groups. -/
def repeated (p : Pattern) (least : Nat) (most : Option Nat) (greedy : Bool) : Pattern :=
  let (least, most) :=
    if p.isEmptyOnly then (min least 1, some (min (most.getD 1) 1)) else (least, most)
  if most = some 0 then empty
  else if least = 1 ∧ most = some 1 then p
  else times p least most greedy

/-- Patterns one behind the other, the last one given first. -/
def ofReversed : List Pattern → Pattern
  | [] => empty
  | p :: rest => rest.foldl (fun q p => sequence p q) p

/-- Patterns to choose from, the last one given first. -/
def choices : List Pattern → Pattern
  | [] => empty
  | p :: rest => rest.foldl (fun q p => choice p q) p

end Pattern

end TagSpacing.Regex
