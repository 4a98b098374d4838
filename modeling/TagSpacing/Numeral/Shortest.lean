import TagSpacing.Numeral.Binary

/-! The fewest decimal digits that read back as a given binary number, and of those the nearest. -/
namespace TagSpacing.Numeral

/-- The decimal number `digits * 10 ^ exponent`. -/
structure Decimal where
  digits : Nat
  exponent : Int
deriving DecidableEq

/-- The bounds of the numbers that round to `x` and `x` itself, in quarters of its last bit. The next
smaller number is only half as far away if the mantissa is the least one. -/
def Binary.quarters (x : Binary) : Nat × Nat × Nat :=
  let v := 4 * x.mantissa
  (if x.mantissa = 1 <<< 52 ∧ x.exponent > leastExponent then v - 1 else v - 2, v, v + 2)

/-- Whether `d` rounds to `x`. The bounds belong to the even one of two neighbours. -/
def Binary.readsFrom (x : Binary) (d : Decimal) : Bool :=
  let (low, _, high) := x.quarters
  let (a, b) := powerOfTwo (x.exponent - 2)
  let (s, t) := powerOfTen d.exponent
  -- The sides of `low * a / b < digits * s / t < high * a / b`, without denominators.
  let value := d.digits * s * b
  if x.mantissa % 2 = 0 then low * a * t ≤ value && value ≤ high * a * t
  else low * a * t < value && value < high * a * t

/-- The decimal numbers next to `x` among the multiples of a power of ten, the nearer one first. -/
def Binary.neighbours (x : Binary) (exponent : Int) : List Decimal :=
  let (a, b) := powerOfTwo x.exponent
  let (s, t) := powerOfTen exponent
  let n := x.mantissa * a * t
  let d := b * s
  let floor := n / d
  if 2 * (n % d) < d then [⟨floor, exponent⟩, ⟨floor + 1, exponent⟩]
  else [⟨floor + 1, exponent⟩, ⟨floor, exponent⟩]

/-- The exponent of the power of ten that `x` reaches but not ten times it, found from an estimate by
going down at most `fuel` times. -/
def Binary.floorLog10 (x : Binary) : Nat → Int → Int
  | 0, estimate => estimate
  | fuel + 1, estimate =>
    let (a, b) := powerOfTwo x.exponent
    let (s, t) := powerOfTen estimate
    if x.mantissa * a * t ≥ s * b then estimate else x.floorLog10 fuel (estimate - 1)

/-- Tries finer and finer grids, at most `fuel` of them. -/
def Binary.firstHit (x : Binary) : Nat → Int → Option Decimal
  | 0, _ => none
  | fuel + 1, exponent =>
    match (x.neighbours exponent).find? x.readsFrom with
    | some d => some d
    | none => x.firstHit fuel (exponent - 1)

/-- The fewest digits that read back as `x`; 17 always do. -/
def Binary.shortest (x : Binary) : Decimal :=
  let bits : Int := (Nat.log2 x.mantissa : Int) + x.exponent
  let top := x.floorLog10 4 (bits * 30103 / 100000 + 2)
  (x.firstHit 18 top).getD ⟨0, 0⟩

/-- A decimal number without exponent, with at least one digit behind the point. -/
def Decimal.positional (d : Decimal) : String :=
  let digits := (toString d.digits).toList
  if 0 ≤ d.exponent then String.ofList (digits ++ List.replicate d.exponent.toNat '0') ++ ".0"
  else
    let places := (-d.exponent).toNat
    let digits := List.replicate (places + 1 - digits.length) '0' ++ digits
    String.ofList (digits.take (digits.length - places) ++ '.' :: digits.drop (digits.length - places))

end TagSpacing.Numeral
