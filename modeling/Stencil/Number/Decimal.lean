import Stencil.Number.Binary
import Stencil.Number.Integer

/-!
# Decimal text of floating point numbers

Reading accepts an optional sign and then either digits with an optional point and an optional
exponent, or one of the words `inf`, `infinity` and `nan` in any case; the result is the closest
number. Writing uses the fewest digits that read back to the same number, and of those the closest
to it.
-/

namespace Stencil.Number

/-! ### Reading -/

inductive DecimalFault where
  | empty
  | invalid
  deriving DecidableEq, Repr

def DecimalFault.message : DecimalFault → String
  | .empty => "cannot parse float from empty string"
  | .invalid => "invalid float literal"

/-- A decimal as written, without its sign: `digits * 10 ^ exponent`, or a word. -/
inductive Numeral where
  | digits (digits : Nat) (exponent : Int)
  | infinity
  | nan
  deriving DecidableEq, Repr

def natOfDigits (cs : List Char) : Nat :=
  cs.foldl (fun n c => n * 10 + digitValue c) 0

/-- The exponent after the mantissa, zero if the text ends there. -/
def readExponent : List Char → Option Int
  | [] => some 0
  | e :: rest =>
    if e = 'e' || e = 'E' then
      let (negative, digits) := match rest with
        | '-' :: ds => (true, ds)
        | '+' :: ds => (false, ds)
        | ds => (false, ds)
      if digits.isEmpty || !digits.all Char.isDigit then none
      else some (if negative then -(natOfDigits digits : Int) else natOfDigits digits)
    else none

/-- Digits with an optional point and exponent; at least one digit stands before the exponent. -/
def readPlain (cs : List Char) : Option Numeral :=
  let whole := cs.takeWhile Char.isDigit
  let afterWhole := cs.dropWhile Char.isDigit
  let (fraction, rest) := match afterWhole with
    | '.' :: ds => (ds.takeWhile Char.isDigit, ds.dropWhile Char.isDigit)
    | ds => ([], ds)
  if whole.isEmpty && fraction.isEmpty then none
  else (readExponent rest).map fun e =>
    .digits (natOfDigits (whole ++ fraction)) (e - fraction.length)

def readUnsigned (cs : List Char) : Option Numeral :=
  match readPlain cs with
  | some n => some n
  | none =>
    match String.ofList (cs.map Char.toLower) with
    | "inf" | "infinity" => some .infinity
    | "nan" => some .nan
    | _ => none

def readNumeral : List Char → Except DecimalFault (Bool × Numeral)
  | [] => .error .empty
  | c :: rest =>
    let (negative, body) :=
      if c = '-' then (true, rest) else if c = '+' then (false, rest) else (false, c :: rest)
    match readUnsigned body with
    | some n => .ok (negative, n)
    | none => .error .invalid

/-- The number closest to `digits * 10 ^ exponent`. Exponents far outside the range of the format are
settled without computing the power. -/
def nearestDecimal (negative : Bool) (digits : Nat) (exponent : Int) : Float :=
  if digits = 0 then withSign negative 0
  else if 400 < exponent then infiniteNumber negative
  else if exponent + (Nat.log2 digits / 3 + 1 : Nat) < -400 then withSign negative 0
  else if 0 ≤ exponent then nearest negative (digits * Nat.pow 10 exponent.toNat) 1
  else nearest negative digits (Nat.pow 10 (-exponent).toNat)

def Numeral.value (negative : Bool) : Numeral → Float
  | .digits d e => nearestDecimal negative d e
  | .infinity => infiniteNumber negative
  | .nan => notANumber

def decimal? (text : String) : Except DecimalFault Float :=
  (readNumeral (Text.trim text.toList)).map fun (negative, n) => n.value negative

/-! ### Fewest digits -/

/-- Decimal digits of a positive number: `0.d₁d₂… * 10 ^ point`. -/
structure Digits where
  digits : List Char
  point : Int
  deriving DecidableEq, Repr

/-- The grid point of `10 ^ p` that reads back as `m * 2 ^ q`, nearest first and the upper one on a
tie. All quantities are in units of `2 ^ (q - 2)`, where the number itself is `4 * m` and the numbers
that round to it lie between `4 * m - below` and `4 * m + 2`, both included when `m` is even. -/
def gridPoint? (m : Nat) (q p : Int) : Option Nat :=
  let below := if m = leadingUnit && leastExponent < q then 1 else 2
  let (un, ud) := scaled 1 1 (2 - q)
  let (gn, gd) := if 0 ≤ p then (Nat.pow 10 p.toNat, 1) else (1, Nat.pow 10 (-p).toNat)
  -- a grid point `c` is `c * grid` and `k` units are `k * unit`, over one denominator
  let unit := un * gd
  let grid := gn * ud
  let inside := fun c =>
    if m % 2 = 0 then (4 * m - below) * unit ≤ c * grid && c * grid ≤ (4 * m + 2) * unit
    else (4 * m - below) * unit < c * grid && c * grid < (4 * m + 2) * unit
  let low := 4 * m * unit / grid
  let rest := 4 * m * unit % grid
  match inside low, inside (low + 1) with
  | true, true => some (if 2 * rest < grid then low else low + 1)
  | true, false => some low
  | false, true => some (low + 1)
  | false, false => none

def coarsest (m : Nat) (q : Int) : (tries : Nat) → (p : Int) → Nat × Int
  | 0, p => (0, p)
  | k + 1, p =>
    match gridPoint? m q p with
    | some c => (c, p)
    | none => coarsest m q k (p - 1)

/-- The fewest digits that read back as `m * 2 ^ q`, for positive `m`. The search starts one or more
places above the first digit, and seventeen digits always suffice. -/
def shortest (m : Nat) (q : Int) : Digits :=
  let top := ((Nat.log2 m : Int) + q) * 3 / 10 + 3
  let (c, p) := coarsest m q 28 top
  let ds := Nat.toDigits 10 c
  let kept := (ds.reverse.dropWhile (· = '0')).reverse
  ⟨kept, p + ds.length⟩

/-! ### Writing -/

/-- Positional notation, with a point only before a fraction. -/
def Digits.positional (d : Digits) : List Char :=
  if d.point ≤ 0 then
    ['0', '.'] ++ List.replicate (-d.point).toNat '0' ++ d.digits
  else
    let whole := d.digits.take d.point.toNat
    let fraction := d.digits.drop d.point.toNat
    let zeros := List.replicate (d.point.toNat - d.digits.length) '0'
    whole ++ zeros ++ (if fraction.isEmpty then [] else '.' :: fraction)

def signed (negative : Bool) (cs : List Char) : String :=
  String.ofList (if negative then '-' :: cs else cs)

/-- Numbers below this bound are written as integers when they have no fraction. -/
def integerBound : Nat := 9007199254740992

/-- The text of a number in a template: an integer where there is no fraction, else the fewest digits,
always in positional notation. -/
def decimalText (x : Float) : String :=
  let p := parts x
  match p with
  | .nan => "NaN"
  | .infinite negative => signed negative "inf".toList
  | .finite negative m e =>
    match p.integer? with
    | some n => if n.natAbs < integerBound then toString n else signed negative (shortest m e).positional
    | none => signed negative (shortest m e).positional

end Stencil.Number
