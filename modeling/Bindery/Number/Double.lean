/-! # Binary floating point numbers and their decimal texts

A `Double` is a 64-bit floating point number given by its bits.  `Double.shortest` finds, in exact
integer arithmetic, the fewest decimal digits that lie closer to the number than to any other, and
`Double.text` writes them: positionally while the point stands within sixteen digits, and with a
signed exponent otherwise.  `Double.scaled?` reads a significand and a power of ten. -/

namespace Bindery

/-- A 64-bit floating point number, as its bits. -/
structure Double where
  /-- Sign, exponent and fraction, from the highest bit down. -/
  bits : UInt64
  deriving DecidableEq

namespace Double

/-! ### Decimal digits of a positive number -/

/-- The number `mantissa * 2 ^ exponent`. -/
structure Binary where
  /-- The integral part of the representation. -/
  mantissa : Nat
  /-- The power of two. -/
  exponent : Int

/-- The decimal number `digits * 10 ^ exponent`. -/
structure Decimal where
  /-- The digits as one number. -/
  digits : Nat
  /-- The power of ten. -/
  exponent : Int

/-- A quotient of two natural numbers times a power of ten, brought to one numerator and one
denominator. -/
def overPower (numerator denominator : Nat) (exponent : Int) : Nat × Nat :=
  (numerator * Nat.pow 10 (-exponent).toNat, denominator * Nat.pow 10 exponent.toNat)

/-- The power of ten of the leading digit of a positive quotient. -/
def leadingPower (numerator denominator : Nat) : Int :=
  let candidates := (List.range 700).map fun (n : Nat) => (n : Int) - 350
  (candidates.find? fun e =>
    let (n, d) := overPower numerator denominator (e + 1)
    n < d).getD 0

/-- The decimal on the grid of a power of ten that is nearest to a positive number, among those that
read back as it. -/
def onGrid? (value : Binary) (even : Bool) (lowerGap : Nat) (grid : Int) : Option Nat :=
  let scale := Nat.pow 2 (value.exponent - 2).toNat
  let den := Nat.pow 2 (2 - value.exponent).toNat
  let (n, d) := overPower (4 * value.mantissa * scale) den grid
  let (low, _) := overPower ((4 * value.mantissa - lowerGap) * scale) den grid
  let (high, _) := overPower ((4 * value.mantissa + 2) * scale) den grid
  let reads := fun x => if even then low ≤ x * d ∧ x * d ≤ high else low < x * d ∧ x * d < high
  let below := n / d
  let above := below + 1
  let nearer := if 2 * n < (below + above) * d then below
    else if (below + above) * d < 2 * n then above
    else if below % 2 = 0 then below else above
  let other := if nearer = below then above else below
  if reads nearer then some nearer else if reads other then some other else none

/-- The shortest decimal that reads back as a positive number. -/
def shortest (value : Binary) (even : Bool) (lowerGap : Nat) : Decimal :=
  let scale := Nat.pow 2 value.exponent.toNat
  let den := Nat.pow 2 (-value.exponent).toNat
  let lead := leadingPower (value.mantissa * scale) den
  let grids := (List.range 17).map fun (n : Nat) => lead - n
  match grids.findSome? fun g => (onGrid? value even lowerGap g).map fun n => ⟨n, g⟩ with
  | some decimal => decimal
  | none => ⟨value.mantissa, 0⟩

/-! ### Writing -/

/-- Whether the number is below zero or the negative zero. -/
def isNegative (x : Double) : Bool :=
  x.bits.toNat / Nat.pow 2 63 = 1

def exponentField (x : Double) : Nat :=
  x.bits.toNat / Nat.pow 2 52 % Nat.pow 2 11

def fraction (x : Double) : Nat :=
  x.bits.toNat % Nat.pow 2 52

/-- Whether the number is neither infinite nor undefined. -/
def isFinite (x : Double) : Bool :=
  x.exponentField ≠ 2047

/-- The absolute value as a mantissa and a power of two. -/
def magnitude (x : Double) : Binary :=
  if x.exponentField = 0 then ⟨x.fraction, -1074⟩
  else ⟨x.fraction + Nat.pow 2 52, (x.exponentField : Int) - 1075⟩

/-- A natural number in decimal digits. -/
def digitsOf (n : Nat) : List Char :=
  Nat.toDigits 10 n

/-- An integer in decimal digits, with a minus sign below zero. -/
def signedDigits (i : Int) : List Char :=
  if i < 0 then '-' :: digitsOf i.natAbs else digitsOf i.natAbs

/-- Removes the trailing zeros of the digits. -/
def stripZeros : Nat → Decimal → Decimal
  | 0, d => d
  | fuel + 1, d =>
    if d.digits % 10 = 0 ∧ d.digits ≠ 0 then stripZeros fuel ⟨d.digits / 10, d.exponent + 1⟩ else d

/-- An exponent, always with a sign. -/
def exponentText (i : Int) : List Char :=
  (if i < 0 then '-' else '+') :: digitsOf i.natAbs

/-- A positive decimal: positional while the point falls within sixteen digits or at most five
places before them, and in scientific form otherwise. -/
def positional (d : Decimal) : List Char :=
  let ds := digitsOf d.digits
  let point : Int := ds.length + d.exponent
  if 0 ≤ d.exponent ∧ point ≤ 16 then
    ds ++ List.replicate d.exponent.toNat '0' ++ ['.', '0']
  else if 0 < point ∧ point ≤ 16 then
    ds.take point.toNat ++ '.' :: ds.drop point.toNat
  else if -5 < point ∧ point ≤ 0 then
    ['0', '.'] ++ List.replicate (-point).toNat '0' ++ ds
  else
    let tail := ds.drop 1
    ds.take 1 ++ (if tail.isEmpty then [] else '.' :: tail) ++ 'e' :: exponentText (point - 1)

/-- The shortest text that reads back as a finite number. -/
def text (x : Double) : List Char :=
  let sign := if x.isNegative then ['-'] else []
  let value := x.magnitude
  if value.mantissa = 0 then sign ++ ['0', '.', '0']
  else
    let lowerGap := if x.fraction = 0 ∧ 1 < x.exponentField then 1 else 2
    let even := value.mantissa % 2 = 0
    sign ++ positional (stripZeros 20 (shortest value even lowerGap))

/-! ### Reading -/

/-- The number nearest to `digits * 10 ^ exponent`. -/
def nearest (negative : Bool) (digits : Nat) (exponent : Int) : Double :=
  let size := Float.ofScientific digits (decide (exponent < 0)) exponent.natAbs
  ⟨(if negative then -size else size).toBits⟩

/-- Scales a number by a power of ten in one step, or by `10 ^ 308` at a time where the power is
smaller than any number; a result beyond the range is refused. -/
def scaleBy? : Nat → Float → Int → Option Float
  | 0, f, _ => some f
  | fuel + 1, f, exponent =>
    if exponent.natAbs ≤ 308 then
      let power := Float.ofScientific 1 false exponent.natAbs
      if 0 ≤ exponent then
        let g := f * power
        if g.isInf then none else some g
      else some (f / power)
    else if f == 0.0 then some f
    else if 0 ≤ exponent then none
    else scaleBy? fuel (f / Float.ofScientific 1 false 308) (exponent + 308)

/-- The significand as a number, multiplied or divided by a power of ten. -/
def scaled? (negative : Bool) (significand : Nat) (exponent : Int) : Option Double :=
  (scaleBy? 8 (Float.ofNat significand) exponent).map fun f =>
    ⟨(if negative then -f else f).toBits⟩

end Double

end Bindery
