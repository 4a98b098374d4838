/-! Binary floating-point numbers of 64 bits as fractions, and the nearest one to a fraction. -/
namespace TagSpacing.Numeral

/-- A positive number `mantissa * 2 ^ exponent`. The mantissa has at most 53 bits, and fewer only at
the least exponent. -/
structure Binary where
  mantissa : Nat
  exponent : Int
deriving DecidableEq

def leastExponent : Int := -1074

def greatestExponent : Int := 971

/-- A power of two as a fraction. -/
def powerOfTwo (e : Int) : Nat × Nat := if 0 ≤ e then (1 <<< e.toNat, 1) else (1, 1 <<< (-e).toNat)

/-- A power of ten as a fraction. -/
def powerOfTen (e : Int) : Nat × Nat := if 0 ≤ e then (Nat.pow 10 e.toNat, 1) else (1, Nat.pow 10 (-e).toNat)

/-- A quotient rounded to the nearest number; a half goes to the even neighbour. -/
def roundDiv (n d : Nat) : Nat :=
  let q := n / d
  let r := n % d
  if 2 * r < d then q else if 2 * r > d then q + 1 else if q % 2 = 0 then q else q + 1

/-- The exponent of the power of two that a positive fraction reaches but not its double. -/
def floorLog2 (n d : Nat) : Int :=
  let e : Int := (Nat.log2 n : Int) - Nat.log2 d
  let (a, b) := powerOfTwo e
  if n * b ≥ a * d then e else e - 1

/-- The number nearest to a positive fraction. There is none if the fraction is too large. -/
def Binary.nearest? (n d : Nat) : Option Binary :=
  let e := max (floorLog2 n d - 52) leastExponent
  let (a, b) := powerOfTwo e
  let m := roundDiv (n * b) (d * a)
  let (m, e) := if m = 1 <<< 53 then (1 <<< 52, e + 1) else (m, e)
  if e ≤ greatestExponent then some ⟨m, e⟩ else none

end TagSpacing.Numeral
