import Stencil.Text.Trim

/-!
# Integers in text

An integer is an optional sign and decimal digits. It is read from the left within the limits of a
fixed width, and the first character that goes wrong decides the fault.
-/

namespace Stencil.Number

inductive IntegerFault where
  | empty
  | invalidDigit
  | tooLarge
  | tooSmall
  deriving DecidableEq, Repr

def IntegerFault.message : IntegerFault → String
  | .empty => "cannot parse integer from empty string"
  | .invalidDigit => "invalid digit found in string"
  | .tooLarge => "number too large to fit in target type"
  | .tooSmall => "number too small to fit in target type"

/-! ### Widths -/

structure Width where
  least : Int
  greatest : Int
  deriving DecidableEq, Repr

def signed64 : Width := ⟨-9223372036854775808, 9223372036854775807⟩

def unsigned64 : Width := ⟨0, 18446744073709551615⟩

def Width.holds (w : Width) (n : Int) : Bool :=
  w.least ≤ n && n ≤ w.greatest

def Width.fit? (w : Width) (n : Int) : Option Int :=
  if w.holds n then some n else none

theorem holds_signed64_iff {n : Int} :
    signed64.holds n = true ↔ -9223372036854775808 ≤ n ∧ n ≤ 9223372036854775807 := by
  rw [Width.holds, Bool.and_eq_true, decide_eq_true_eq, decide_eq_true_eq]
  rfl

theorem fit?_of_holds {w : Width} {n : Int} (h : w.holds n) : w.fit? n = some n :=
  if_pos h

theorem fit?_of_not_holds {w : Width} {n : Int} (h : ¬ w.holds n) : w.fit? n = none :=
  if_neg h

/-! ### Reading -/

def digitValue (c : Char) : Nat :=
  c.toNat - '0'.toNat

/-- Reads digits onto `acc`, downwards for a negative number. -/
def readDigits (w : Width) (negative : Bool) (acc : Int) : List Char → Except IntegerFault Int
  | [] => .ok acc
  | c :: rest =>
    if c.isDigit then
      let next := if negative then acc * 10 - digitValue c else acc * 10 + digitValue c
      if w.holds next then readDigits w negative next rest
      else .error (if negative then .tooSmall else .tooLarge)
    else .error .invalidDigit

/-- Reads a whole text as an integer. Only a width with negative members knows the minus sign. -/
def readInteger (w : Width) : List Char → Except IntegerFault Int
  | [] => .error .empty
  | ['+'] | ['-'] => .error .invalidDigit
  | '+' :: rest => readDigits w false 0 rest
  | '-' :: rest => if w.least < 0 then readDigits w true 0 rest else .error .invalidDigit
  | cs => readDigits w false 0 cs

/-- The integer of 64 bits that a text denotes, blanks around it aside. -/
def integer? (text : String) : Except IntegerFault Int :=
  readInteger signed64 (Text.trim text.toList)

theorem holds_of_readDigits {w : Width} {negative : Bool} {acc n : Int} {cs : List Char}
    (hacc : w.holds acc) (h : readDigits w negative acc cs = .ok n) : w.holds n := by
  induction cs generalizing acc with
  | nil =>
    cases h
    exact hacc
  | cons c rest ih =>
    simp only [readDigits] at h
    generalize (if negative then acc * 10 - digitValue c else acc * 10 + digitValue c) = next at h
    split at h
    · split at h
      · rename_i hnext
        exact ih hnext h
      · cases h
    · cases h

theorem holds_of_integer? {text : String} {n : Int} (h : integer? text = .ok n) : signed64.holds n := by
  have hzero : signed64.holds 0 := by decide
  unfold integer? readInteger at h
  split at h
  · cases h
  · cases h
  · cases h
  · exact holds_of_readDigits hzero h
  · split at h
    · exact holds_of_readDigits hzero h
    · cases h
  · exact holds_of_readDigits hzero h

end Stencil.Number
