import TagSpacing.Unicode.Property
import TagSpacing.Unicode.CaseFolding

/-! Sets of characters as a pattern writes them. -/
namespace TagSpacing.Regex

inductive CharSet
  | none
  /-- The characters from `low` to `high`. -/
  | range (low high : Char)
  | property (p : Unicode.Property)
  /-- The characters that equal one of the set when case is ignored. -/
  | ignoringCase (s : CharSet)
  | complement (s : CharSet)
  | union (s t : CharSet)
  | intersection (s t : CharSet)
  | difference (s t : CharSet)
  | symmetricDifference (s t : CharSet)

namespace CharSet

def contains : CharSet → Char → Bool
  | none, _ => false
  | range low high, c => low ≤ c && c ≤ high
  | property p, c => p.contains c
  | ignoringCase s, c => (Unicode.foldingClass c).any s.contains
  | complement s, c => !s.contains c
  | union s t, c => s.contains c || t.contains c
  | intersection s t, c => s.contains c && t.contains c
  | difference s t, c => s.contains c && !t.contains c
  | symmetricDifference s t, c => s.contains c != t.contains c

def single (c : Char) : CharSet := range c c

/-- The union of some sets. -/
def unions : List CharSet → CharSet
  | [] => none
  | [s] => s
  | s :: rest => union s (unions rest)

def ranges (pairs : List (Char × Char)) : CharSet := unions (pairs.map fun (low, high) => range low high)

def asciiDigit : CharSet := range '0' '9'

def asciiWord : CharSet := ranges [('0', '9'), ('A', 'Z'), ('_', '_'), ('a', 'z')]

def asciiSpace : CharSet := ranges [('\t', '\r'), (' ', ' ')]

/-- The ASCII class that a name in `[:name:]` stands for. -/
def ascii? (name : List Char) : Option CharSet :=
  match String.ofList name with
  | "alnum" => some (ranges [('0', '9'), ('A', 'Z'), ('a', 'z')])
  | "alpha" => some (ranges [('A', 'Z'), ('a', 'z')])
  | "ascii" => some (range '\x00' '\x7f')
  | "blank" => some (ranges [('\t', '\t'), (' ', ' ')])
  | "cntrl" => some (ranges [('\x00', '\x1f'), ('\x7f', '\x7f')])
  | "digit" => some asciiDigit
  | "graph" => some (range '!' '~')
  | "lower" => some (range 'a' 'z')
  | "print" => some (range ' ' '~')
  | "punct" => some (ranges [('!', '/'), (':', '@'), ('[', '\x60'), ('\x7b', '~')])
  | "space" => some asciiSpace
  | "upper" => some (range 'A' 'Z')
  | "word" => some asciiWord
  | "xdigit" => some (ranges [('0', '9'), ('A', 'F'), ('a', 'f')])
  | _ => Option.none

end CharSet

end TagSpacing.Regex
