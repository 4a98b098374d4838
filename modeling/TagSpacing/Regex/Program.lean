import TagSpacing.Regex.Pattern

/-! Patterns as programs that try all ways to match at once. -/
namespace TagSpacing.Regex

/-- A step of a program. After a step that names no other place the next one follows. -/
inductive Instruction
  /-- Takes one character of a set. -/
  | take (s : CharSet)
  | look (look : Look) (ascii : Bool)
  /-- Notes the place in a slot. -/
  | mark (slot : Nat)
  /-- Goes on at either place, rather at the first. -/
  | branch (first second : Nat)
  | jump (target : Nat)
  | accept

namespace Pattern

/-- The number of steps of a pattern's program, where each set counts for so many. -/
def measure (set : CharSet → Nat) : Pattern → Nat
  | empty => 0
  | .set s => set s
  | look _ _ => 1
  | group _ p => p.measure set + 2
  | sequence p q => p.measure set + q.measure set
  | choice p q => p.measure set + q.measure set + 2
  | times p 0 none _ => p.measure set + 2
  | times p least none _ => least * p.measure set + 1
  | times p least (some most) _ => least * p.measure set + (most - least) * (p.measure set + 1)

/-- The number of steps of a pattern's program. -/
def size (p : Pattern) : Nat := p.measure fun _ => 1

/-- A branch that tries `again` first if `greedy`, else `out`. -/
def option (greedy : Bool) (again out : Nat) : Instruction :=
  if greedy then .branch again out else .branch out again

/-- The program of a pattern whose first step is step number `start`. A loop around a pattern that
may match nothing is entered by a choice of its own, so that an empty round keeps its priority. -/
def code (start : Nat) : Pattern → List Instruction
  | empty => []
  | set s => [.take s]
  | look l ascii => [.look l ascii]
  | group index p => .mark (2 * index) :: code (start + 1) p ++ [.mark (2 * index + 1)]
  | sequence p q => code start p ++ code (start + p.size) q
  | choice p q =>
    let second := start + p.size + 2
    .branch (start + 1) second :: code (start + 1) p ++ .jump (second + q.size) :: code second q
  | times p 0 none greedy =>
    let stop := start + p.size + 2
    let last := if 0 < p.leastLength then .jump start else option greedy (start + 1) stop
    option greedy (start + 1) stop :: code (start + 1) p ++ [last]
  | times p least none greedy =>
    let copies := (List.range least).flatMap fun i => code (start + i * p.size) p
    let stop := start + least * p.size
    copies ++ [option greedy (stop - p.size) (stop + 1)]
  | times p least (some most) greedy =>
    let required := (List.range least).flatMap fun i => code (start + i * p.size) p
    let optional := start + least * p.size
    let stop := optional + (most - least) * (p.size + 1)
    required ++ (List.range (most - least)).flatMap fun i =>
      let place := optional + i * (p.size + 1)
      option greedy (place + 1) stop :: code (place + 1) p

end Pattern

/-- A program for a whole pattern. -/
abbrev Program := Array Instruction

/-- An estimate of the steps that a set takes when characters are read byte by byte. ASCII is one
step, any other range four, one for each byte that a character can have; a property counts two for
each of its runs, a complement twelve more than its set, and ignoring case nothing. The true number
is not computed: it depends on which bytes the ranges share. -/
def CharSet.weight : CharSet → Nat
  | none => 1
  | range _ high => if high.toNat < 0x80 then 1 else 4
  | property p => 2 * p.runs
  | ignoringCase s => s.weight
  | complement s => s.weight + 12
  | union s t | intersection s t | difference s t | symmetricDifference s t => s.weight + t.weight

/-- The limit on the size of a program: ten mebibytes, which at 32 bytes a step are so many steps.
Since the weights only estimate the steps, a pattern whose size is close to the limit may be judged
either way. -/
def programBound : Nat := 327680

/-- The program of a pattern, unless its estimated size reaches the limit. -/
def Pattern.compile? (p : Pattern) : Option Program :=
  if p.measure CharSet.weight < programBound then some (p.code 0 ++ [Instruction.accept]).toArray
  else none

end TagSpacing.Regex
