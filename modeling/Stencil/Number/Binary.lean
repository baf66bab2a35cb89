/-!
# Binary floating point numbers

A finite number of the 64-bit format is a mantissa times a power of two. `parts` takes a number
apart; `nearest` gives the number closest to a ratio of naturals, an even mantissa winning a tie.
-/

namespace Stencil.Number

/-- A floating point number taken apart; a finite one is `mantissa * 2 ^ exponent`. -/
inductive Parts where
  | nan
  | infinite (negative : Bool)
  | finite (negative : Bool) (mantissa : Nat) (exponent : Int)
  deriving DecidableEq, Repr

def fractionBits : Nat := 52

/-- The place of the leading binary digit of a mantissa, `2 ^ 52`. -/
def leadingUnit : Nat := 4503599627370496

/-- The place of the sign among the bits, `2 ^ 63`. -/
def signUnit : Nat := 9223372036854775808

def leastExponent : Int := -1074

def parts (x : Float) : Parts :=
  let bits := x.toBits.toNat
  let negative := bits / signUnit == 1
  let biased := bits / leadingUnit % 2048
  let fraction := bits % leadingUnit
  if biased == 2047 then
    if fraction == 0 then .infinite negative else .nan
  else if biased == 0 then .finite negative fraction leastExponent
  else .finite negative (fraction + leadingUnit) (biased + leastExponent - 1)

/-- Quotient rounded to the nearest integer, ties to the even one. -/
def roundDiv (n d : Nat) : Nat :=
  let q := n / d
  let r := n % d
  if 2 * r < d then q else if d < 2 * r then q + 1 else q + q % 2

def infiniteBits : Nat := 2047 * leadingUnit

/-- Bits of a mantissa below `2 ^ 53 + 1` with an exponent; too large an exponent gives infinity. -/
def assemble (mantissa : Nat) (exponent : Int) : Nat :=
  if mantissa < leadingUnit then mantissa
  else min infiniteBits ((exponent - leastExponent).toNat * leadingUnit + mantissa)

/-- `n / (d * 2 ^ e)` as a fraction of naturals. -/
def scaled (n d : Nat) (e : Int) : Nat × Nat :=
  if 0 ≤ e then (n, d * Nat.pow 2 e.toNat) else (n * Nat.pow 2 (-e).toNat, d)

/-- Bits of the positive number closest to `n / d`. The first guess at the exponent leaves a quotient
of 53 or 54 bits; one more step makes it 53, unless the number is too small for that. -/
def nearestBits (n d : Nat) : Nat :=
  if n = 0 then 0
  else
    let guess : Int := (Nat.log2 n : Int) - Nat.log2 d - 1 - fractionBits
    let (gn, gd) := scaled n d guess
    let exact := if gn / gd < 2 * leadingUnit then guess else guess + 1
    let e := max leastExponent exact
    let (sn, sd) := scaled n d e
    assemble (roundDiv sn sd) e

def withSign (negative : Bool) (bits : Nat) : Float :=
  Float.ofBits (UInt64.ofNat (if negative then signUnit + bits else bits))

/-- The number closest to `± n / d`. -/
def nearest (negative : Bool) (n d : Nat) : Float :=
  withSign negative (nearestBits n d)

def infiniteNumber (negative : Bool) : Float :=
  withSign negative infiniteBits

def notANumber : Float :=
  withSign false (infiniteBits + leadingUnit / 2)

def Parts.integer? : Parts → Option Int
  | .finite negative m e =>
    let whole : Option Nat :=
      if 0 ≤ e then some (m * Nat.pow 2 e.toNat)
      else if m % Nat.pow 2 (-e).toNat == 0 then some (m / Nat.pow 2 (-e).toNat)
      else none
    whole.map fun n => if negative then -(n : Int) else n
  | _ => none

end Stencil.Number
