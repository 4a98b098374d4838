import TagSpacing.Text
import TagSpacing.Regex.Program

/-! Finding matches: the leftmost one, and of those that start there the one that the pattern
prefers. All ways to match are followed at once, in order of preference. -/
namespace TagSpacing.Regex

/-- A match, with the places that were noted on the way, the latest first. -/
structure Match where
  start : Nat
  stop : Nat
  marks : List (Nat × Nat)
deriving DecidableEq

/-- The span of a group in a match, if the group took part. Group 0 is the whole match. -/
def Match.group? (m : Match) (index : Nat) : Option (Nat × Nat) :=
  if index = 0 then some (m.start, m.stop)
  else
    match m.marks.lookup (2 * index), m.marks.lookup (2 * index + 1) with
    | some start, some stop => some (start, stop)
    | _, _ => none

/-- One way to match: the next step, and what was noted so far. -/
structure Thread where
  step : Nat
  start : Nat
  marks : List (Nat × Nat)

/-- The place between two characters of a text. -/
structure Place where
  offset : Nat
  before : Option Char
  after : Option Char

def wordChar (ascii : Bool) : Char → Bool :=
  if ascii then CharSet.asciiWord.contains else Unicode.isWord

/-- Follows threads to the steps that take a character or accept, in order of preference. A step that
was reached before is not followed again: the earlier way is preferred. Each step adds at most two
threads, so twice the size of the program and the number of threads bound the work. -/
def follow (program : Program) (place : Place) :
    Nat → List Thread → Array Bool → List Thread → List Thread
  | 0, _, _, ready => ready.reverse
  | _ + 1, [], _, ready => ready.reverse
  | n + 1, t :: threads, seen, ready =>
    if seen.getD t.step true then follow program place n threads seen ready
    else
      let seen := seen.setIfInBounds t.step true
      match program[t.step]? with
      | none => follow program place n threads seen ready
      | some (.jump target) => follow program place n ({ t with step := target } :: threads) seen ready
      | some (.branch first second) =>
        follow program place n ({ t with step := first } :: { t with step := second } :: threads) seen
          ready
      | some (.mark slot) =>
        let t := { t with step := t.step + 1, marks := (slot, place.offset) :: t.marks }
        follow program place n (t :: threads) seen ready
      | some (.look look ascii) =>
        if look.holds (wordChar ascii) place.before place.after then
          follow program place n ({ t with step := t.step + 1 } :: threads) seen ready
        else follow program place n threads seen ready
      | some _ => follow program place n threads seen (t :: ready)

/-- Lets threads take the next character, if there is one. A thread that accepts ends the threads
behind it. -/
def advance (program : Program) (place : Place) : List Thread → List Thread × Option Match
  | [] => ([], none)
  | t :: threads =>
    match program[t.step]? with
    | some .accept => ([], some ⟨t.start, place.offset, t.marks⟩)
    | some (.take s) =>
      let (next, found) := advance program place threads
      if place.after.any s.contains then ({ t with step := t.step + 1 } :: next, found)
      else (next, found)
    | _ => advance program place threads

/-- Runs threads over the rest of a text that starts at `offset` behind the character `before`. As long
as no match is known, a new thread starts at every place. -/
def run (program : Program) (offset : Nat) (before : Option Char) (threads : List Thread)
    (best : Option Match) (rest : Text) : Option Match :=
  let place : Place := ⟨offset, before, rest.head?⟩
  let threads := if best.isNone then threads ++ [⟨0, offset, []⟩] else threads
  let bound := threads.length + 2 * program.size + 1
  let ready := follow program place bound threads (Array.replicate program.size false) []
  let (next, found) := advance program place ready
  let best := found <|> best
  match rest with
  | [] => best
  | c :: rest =>
    if next.isEmpty ∧ best.isSome then best
    else run program (offset + 1) (some c) next best rest

/-- The first match in a text that starts at `offset` or later. -/
def find? (program : Program) (t : Text) (offset : Nat) : Option Match :=
  if offset ≤ t.length then
    let before := if offset = 0 then none else t[offset - 1]?
    run program offset before [] none (t.drop offset)
  else none

/-- Successive matches from `offset` on, `previous` being the end of the match before. An empty match
there is passed over. Two searches at most start at each place, which bounds their number. -/
def matchesFrom (program : Program) (t : Text) : Nat → Nat → Option Nat → List Match
  | 0, _, _ => []
  | n + 1, offset, previous =>
    match find? program t offset with
    | none => []
    | some m =>
      if m.start = m.stop ∧ some m.stop = previous then
        matchesFrom program t n (offset + 1) previous
      else m :: matchesFrom program t n m.stop (some m.stop)

/-- The successive matches in a text. -/
def matches? (program : Program) (t : Text) : List Match :=
  matchesFrom program t (2 * t.length + 2) 0 none

end TagSpacing.Regex
