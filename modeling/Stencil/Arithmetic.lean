import Stencil.Fault

/-!
# Arithmetic on texts

An operator has names, a least number of operands and a kind of operands, which it takes from their
places. `apply` checks the number of operands, reads all of them, and only then runs the operator. No
place that it looks at is empty by then, and no step leaves 64 bits without being checked for it.
-/

namespace Stencil.Arithmetic

/-! ### Operators -/

inductive Operator where
  | add
  | sub
  | mul
  | div
  | idiv
  | mod
  | pow
  | and
  | or
  | xor
  | not
  | max
  | min
  | floor
  | ceil
  | round
  deriving DecidableEq, Repr

inductive OperandKind where
  | float
  | int
  deriving DecidableEq, Repr

def names : List (List String × Operator) :=
  [(["add", "+"], .add), (["sub", "-"], .sub), (["mul", "*"], .mul), (["div", "/", "/f"], .div),
   (["idiv", "//"], .idiv), (["mod", "%"], .mod), (["pow", "**"], .pow), (["and", "&"], .and),
   (["or", "|"], .or), (["xor", "^"], .xor), (["not", "~"], .not), (["max"], .max), (["min"], .min),
   (["floor"], .floor), (["ceil"], .ceil), (["round"], .round)]

/-- The operator with this name or sign, blanks around it aside. -/
def Operator.ofName? (name : String) : Option Operator :=
  let name := Text.trimmed name
  (names.find? (·.1.contains name)).map (·.2)

def Operator.arity : Operator → Nat
  | .not | .floor | .ceil | .round => 1
  | _ => 2

def Operator.operandKind : Operator → OperandKind
  | .idiv | .mod | .and | .or | .xor | .not => .int
  | _ => .float

/-! ### Floating point numbers -/

/-- The greater of two numbers; one that is not a number loses. -/
def greater (a b : Float) : Float :=
  if a.isNaN then b else if b.isNaN then a else if a < b then b else a

/-- The lesser of two numbers; one that is not a number loses. -/
def lesser (a b : Float) : Float :=
  if a.isNaN then b else if b.isNaN then a else if b < a then b else a

def roundEven (x : Float) : Float :=
  match Number.parts x with
  | .finite negative m e =>
    if 0 ≤ e then x else Number.nearest negative (Number.roundDiv m (Nat.pow 2 (-e).toNat)) 1
  | _ => x

/-- Runs an operator on floating point numbers, each taken from its place. There is no outcome where a
place is empty, nor for an operator on integers. -/
def Operator.runFloats? (op : Operator) (values : List Float) : Option (Except Fault Float) := do
  let a ← values[0]?
  let rest := values.drop 1
  match op with
  | .add => return .ok (rest.foldl (· + ·) a)
  | .mul => return .ok (rest.foldl (· * ·) a)
  | .sub => return .ok (a - (← rest[0]?))
  | .div =>
    let b ← rest[0]?
    return if b == 0 then .error (Fault.ofKind .divideByZero) else .ok (a / b)
  | .pow => return .ok (Float.pow a (← rest[0]?))
  | .max => return .ok (rest.foldl greater a)
  | .min => return .ok (rest.foldl lesser a)
  | .floor => return .ok a.floor
  | .ceil => return .ok a.ceil
  | .round => return .ok (roundEven a)
  | .idiv | .mod | .and | .or | .xor | .not => none

/-- The text of a result; one that is infinite or not a number is a fault. -/
def finiteText (x : Float) : Except Fault String :=
  match Number.parts x with
  | .nan => .error (Fault.ofKind .notANumber)
  | .infinite false => .error (Fault.ofKind .overflow)
  | .infinite true => .error (Fault.ofKind .underflow)
  | .finite .. => .ok (Number.decimalText x)

/-! ### Integers -/

/-- Quotient of 64 bits, rounded toward zero. -/
def quotient? (a b : Int) : Option Int :=
  if b = 0 then none else Number.signed64.fit? (Int.tdiv a b)

/-- Remainder with the sign of the dividend. There is none where there is no quotient. -/
def remainder? (a b : Int) : Option Int :=
  (quotient? a b).map fun _ => Int.tmod a b

def signsDiffer (a b : Int) : Bool :=
  decide (a < 0) != decide (b < 0)

/-- Quotient rounded down: the one rounded toward zero, lowered where it was rounded up. There is no outcome
if a step leaves 64 bits without being checked for it. -/
def floorDiv? (a b : Int) : Option (Except Fault Int) :=
  if b = 0 then some (.error (Fault.ofKind .divideByZero))
  else
    match quotient? a b with
    | none => some (.error (Fault.ofKind .overflow))
    | some q => do
      let r ← remainder? a b
      if r ≠ 0 && signsDiffer a b then (Number.signed64.fit? (q - 1)).map .ok else some (.ok q)

/-- Remainder with the sign of the divisor, which is added where the sign is the other one. Outcomes are as in
`floorDiv?`; the remainder itself is defined for every divisor but zero. -/
def floorMod? (a b : Int) : Option (Except Fault Int) :=
  if b = 0 then some (.error (Fault.ofKind .divideByZero))
  else
    let r := Int.tmod a b
    if r ≠ 0 && signsDiffer r b then (Number.signed64.fit? (r + b)).map .ok else some (.ok r)

def bitwise (op : BitVec 64 → BitVec 64 → BitVec 64) (a b : Int) : Int :=
  (op (BitVec.ofInt 64 a) (BitVec.ofInt 64 b)).toInt

/-- Like `runFloats?`, on integers; there is no outcome either where a division has none. -/
def Operator.runInts? (op : Operator) (values : List Int) : Option (Except Fault Int) := do
  let a ← values[0]?
  let rest := values.drop 1
  match op with
  | .idiv => floorDiv? a (← rest[0]?)
  | .mod => floorMod? a (← rest[0]?)
  | .and => return .ok (rest.foldl (bitwise (· &&& ·)) a)
  | .or => return .ok (rest.foldl (bitwise (· ||| ·)) a)
  | .xor => return .ok (bitwise (· ^^^ ·) a (← rest[0]?))
  | .not => return .ok (-a - 1)
  | .add | .sub | .mul | .div | .pow | .max | .min | .floor | .ceil | .round => none

/-! ### Operands -/

/-- Reads operands from left to right, the first of them having this number. -/
def readAll {α : Type} (read : String → Nat → Except Fault α) :
    (number : Nat) → List String → Except Fault (List α)
  | _, [] => .ok []
  | n, text :: rest => do
    let a ← read text n
    return a :: (← readAll read (n + 1) rest)

def floatOperand (text : String) (number : Nat) : Except Fault Float :=
  floatArg text .nonFloatArgument ("non-float arg " ++ toString number)

def intOperand (text : String) (number : Nat) : Except Fault Int :=
  intArg text .nonIntArgument ("non-int arg " ++ toString number)

def arityFault (message : String) : Fault :=
  { kind := .invalidArguments, message }

def Operator.compute? (op : Operator) (operands : List String) : Option (Except Fault String) :=
  match op.operandKind with
  | .float =>
    match readAll floatOperand 1 operands with
    | .ok values => (op.runFloats? values).map (· >>= finiteText)
    | .error e => some (.error e)
  | .int =>
    match readAll intOperand 1 operands with
    | .ok values => (op.runInts? values).map (·.map toString)
    | .error e => some (.error e)

/-- Applies an operator to written operands. The outer `none` stands for a run without an outcome. -/
def Operator.outcome? (op : Operator) (operands : List String) : Option (Except Fault String) :=
  if operands.isEmpty then some (.error (arityFault "no args"))
  else if operands.length < op.arity then
    some (.error (arityFault ("needs at least " ++ toString op.arity ++ " args")))
  else op.compute? operands

/-! ### Every run has an outcome -/

section

variable {α : Type} {read : String → Nat → Except Fault α} {k : Nat} {texts : List String} {values : List α}

theorem readAll_cons_eq_ok {text : String} (h : readAll read k (text :: texts) = .ok values) :
    ∃ a rest, read text k = .ok a ∧ readAll read (k + 1) texts = .ok rest ∧ values = a :: rest := by
  rw [readAll] at h
  obtain ⟨a, ha, hrest⟩ := exists_ok_of_bind h
  obtain ⟨rest, hrest, hvalues⟩ := exists_ok_of_bind hrest
  exact ⟨a, rest, ha, hrest, (Except.ok.inj hvalues).symm⟩

theorem length_of_readAll (h : readAll read k texts = .ok values) : values.length = texts.length := by
  induction texts generalizing k values with
  | nil =>
    cases h
    rfl
  | cons text texts ih =>
    obtain ⟨a, rest, -, hrest, rfl⟩ := readAll_cons_eq_ok h
    rw [List.length_cons, List.length_cons, ih hrest]

theorem forall_of_readAll {P : α → Prop} (hread : ∀ text k a, read text k = .ok a → P a)
    (h : readAll read k texts = .ok values) : ∀ a ∈ values, P a := by
  induction texts generalizing k values with
  | nil =>
    cases h
    simp
  | cons text texts ih =>
    obtain ⟨a, rest, ha, hrest, rfl⟩ := readAll_cons_eq_ok h
    exact List.forall_mem_cons.2 ⟨hread text k a ha, ih hrest⟩

end

variable {a b : Int}

open Number (signed64)

/- The remainder is smaller than the divisor and on the side of the dividend. -/
theorem tmod_bounds (a : Int) (hb : b ≠ 0) :
    (Int.tmod a b).natAbs < b.natAbs ∧ (0 ≤ a → 0 ≤ Int.tmod a b) ∧ (a ≤ 0 → Int.tmod a b ≤ 0) := by
  refine ⟨?_, Int.tmod_nonneg b, fun ha => ?_⟩
  · rw [Int.natAbs_tmod]
    exact Nat.mod_lt _ (Int.natAbs_pos.2 hb)
  · have hneg := Int.tmod_nonneg b (Int.neg_nonneg_of_nonpos ha)
    rw [Int.neg_tmod] at hneg
    omega

/- A divisor that leaves a remainder is at least two away from zero, so the quotient is far from the limits. -/
theorem tdiv_bounds_of_tmod (ha : signed64.holds a) (hb : b ≠ 0) (hr : Int.tmod a b ≠ 0) :
    -4611686018427387904 ≤ Int.tdiv a b ∧ Int.tdiv a b ≤ 4611686018427387904 := by
  have hlimits := Number.holds_signed64_iff.1 ha
  have hlt := (tmod_bounds a hb).1
  have hhalf : (Int.tdiv a b).natAbs ≤ a.natAbs / 2 := by
    rw [Int.natAbs_tdiv]
    exact Nat.div_le_div_left (by omega) (by decide)
  omega

theorem signsDiffer_iff : signsDiffer a b = true ↔ (a < 0 ∧ 0 ≤ b ∨ 0 ≤ a ∧ b < 0) := by
  unfold signsDiffer
  by_cases ha : a < 0 <;> by_cases hb : b < 0 <;> simp [ha, hb] <;> omega

theorem holds_tdiv_pred (ha : signed64.holds a) (hb : b ≠ 0) (hr : Int.tmod a b ≠ 0) :
    signed64.holds (Int.tdiv a b - 1) := by
  have hbounds := tdiv_bounds_of_tmod ha hb hr
  rw [Number.holds_signed64_iff]
  omega

theorem holds_tmod_add (hb : b ≠ 0) (hfits : signed64.holds b) (hsigns : signsDiffer (Int.tmod a b) b = true) :
    signed64.holds (Int.tmod a b + b) := by
  have hlimits := Number.holds_signed64_iff.1 hfits
  have hlt := (tmod_bounds a hb).1
  rw [signsDiffer_iff] at hsigns
  rw [Number.holds_signed64_iff]
  omega

theorem floorDiv?_of_holds (ha : signed64.holds a) (hb : b ≠ 0) (h : signed64.holds (Int.tdiv a b)) :
    floorDiv? a b = some (.ok (if Int.tmod a b ≠ 0 ∧ signsDiffer a b = true then Int.tdiv a b - 1
      else Int.tdiv a b)) := by
  have hquotient : quotient? a b = some (Int.tdiv a b) := by
    rw [quotient?, if_neg hb, Number.fit?_of_holds h]
  have hremainder : remainder? a b = some (Int.tmod a b) := by
    rw [remainder?, hquotient]
    rfl
  rw [floorDiv?, if_neg hb]
  simp only [hquotient, hremainder, Option.bind_eq_bind, Option.bind_some]
  by_cases hrounded : Int.tmod a b ≠ 0 ∧ signsDiffer a b = true
  · rw [if_pos (by simpa using hrounded), if_pos hrounded,
      Number.fit?_of_holds (holds_tdiv_pred ha hb hrounded.1)]
    rfl
  · rw [if_neg (by simpa using hrounded), if_neg hrounded]

theorem floorDiv?_of_not_holds (hb : b ≠ 0) (h : ¬ signed64.holds (Int.tdiv a b)) :
    floorDiv? a b = some (.error (Fault.ofKind .overflow)) := by
  have hquotient : quotient? a b = none := by
    rw [quotient?, if_neg hb, Number.fit?_of_not_holds h]
  rw [floorDiv?, if_neg hb]
  simp only [hquotient]

theorem floorMod?_of_holds (hb : b ≠ 0) (hfits : signed64.holds b) :
    floorMod? a b = some (.ok (if Int.tmod a b ≠ 0 ∧ signsDiffer (Int.tmod a b) b = true then Int.tmod a b + b
      else Int.tmod a b)) := by
  simp only [floorMod?, if_neg hb]
  by_cases hrounded : Int.tmod a b ≠ 0 ∧ signsDiffer (Int.tmod a b) b = true
  · rw [if_pos (by simpa using hrounded), if_pos hrounded,
      Number.fit?_of_holds (holds_tmod_add hb hfits hrounded.2)]
    rfl
  · rw [if_neg (by simpa using hrounded), if_neg hrounded]

theorem isSome_floorDiv? (ha : signed64.holds a) : (floorDiv? a b).isSome := by
  by_cases hb : b = 0
  · rw [hb]
    rfl
  · by_cases hq : signed64.holds (Int.tdiv a b)
    · rw [floorDiv?_of_holds ha hb hq]
      rfl
    · rw [floorDiv?_of_not_holds hb hq]
      rfl

theorem isSome_floorMod? (hfits : signed64.holds b) : (floorMod? a b).isSome := by
  by_cases hb : b = 0
  · rw [hb]
    rfl
  · rw [floorMod?_of_holds hb hfits]
    rfl

namespace Operator

variable {op : Operator}

theorem arity_pos (op : Operator) : 0 < op.arity := by
  cases op <;> decide

theorem isSome_runFloats? {values : List Float} (hkind : op.operandKind = .float)
    (h : op.arity ≤ values.length) : (op.runFloats? values).isSome := by
  cases values with
  | nil => exact absurd h (Nat.not_le.2 op.arity_pos)
  | cons a rest =>
    cases rest with
    | cons b rest =>
      cases op with
      | idiv | mod | and | or | xor | not => cases hkind
      | _ => rfl
    | nil =>
      have hone : op.arity ≤ 1 := h
      cases op with
      | idiv | mod | and | or | xor | not => cases hkind
      | floor | ceil | round => rfl
      | _ => exact absurd hone (by decide)

theorem isSome_runInts? {values : List Int} (hkind : op.operandKind = .int)
    (h : op.arity ≤ values.length) (hfits : ∀ n ∈ values, signed64.holds n) : (op.runInts? values).isSome := by
  cases values with
  | nil => exact absurd h (Nat.not_le.2 op.arity_pos)
  | cons a rest =>
    cases rest with
    | cons b rest =>
      cases op with
      | idiv => exact isSome_floorDiv? (hfits a (by simp))
      | mod => exact isSome_floorMod? (hfits b (by simp))
      | and | or | xor | not => rfl
      | _ => cases hkind
    | nil =>
      have hone : op.arity ≤ 1 := h
      cases op with
      | not => rfl
      | floor | ceil | round => cases hkind
      | _ => exact absurd hone (by decide)

/- The checks leave as many numbers as the operator takes, of its own kind. -/
theorem isSome_outcome? (op : Operator) (operands : List String) : (op.outcome? operands).isSome := by
  unfold outcome?
  split
  · rfl
  · split
    · rfl
    · rename_i hfew
      unfold compute?
      split
      · rename_i hkind
        split
        · rename_i values hread
          rw [Option.isSome_map]
          exact isSome_runFloats? hkind (length_of_readAll hread ▸ Nat.not_lt.1 hfew)
        · rfl
      · rename_i hkind
        split
        · rename_i values hread
          rw [Option.isSome_map]
          exact isSome_runInts? hkind (length_of_readAll hread ▸ Nat.not_lt.1 hfew)
            (forall_of_readAll (fun text k n => holds_of_intArg) hread)
        · rfl

def apply (op : Operator) (operands : List String) : Except Fault String :=
  (op.outcome? operands).get (op.isSome_outcome? operands)

theorem outcome?_eq (op : Operator) (operands : List String) : op.outcome? operands = some (op.apply operands) :=
  (Option.some_get _).symm

end Operator

end Stencil.Arithmetic
