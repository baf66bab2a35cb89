/-!
# Compact tables of code points

Two written forms for tables over code points, with their readers. A *range list* names the members
of a set: `41-5a c0` holds `A` to `Z` and `À`. A *run list* cuts the whole code space into runs, each
a count followed by the code of its class: `20Cc1Zs` says that the first 32 code points are in class
`Cc` and the next one in `Zs`. Numbers are in lower-case hexadecimal; a count of one may be left out.
-/

namespace Stencil.Unicode

def hexValue? (c : Char) : Option Nat :=
  if '0' ≤ c ∧ c ≤ '9' then some (c.toNat - '0'.toNat)
  else if 'a' ≤ c ∧ c ≤ 'f' then some (c.toNat - 'a'.toNat + 10)
  else none

/-! ### Range lists -/

structure Range where
  first : Nat
  last : Nat
  deriving DecidableEq, Repr

def Range.holds (r : Range) (n : Nat) : Bool :=
  r.first ≤ n && n ≤ r.last

/-- Reads a range list; `first` is set while the second number of a range is being read. -/
def readRanges (first : Option Nat) (n : Nat) : List Char → List Range
  | [] => [⟨first.getD n, n⟩]
  | c :: rest =>
    if c = '-' then readRanges (some n) 0 rest
    else if c = ' ' then ⟨first.getD n, n⟩ :: readRanges none 0 rest
    else readRanges first (n * 16 + (hexValue? c).getD 0) rest

def ranges (lines : List String) : List Range :=
  readRanges none 0 (lines.flatMap String.toList)

def inRanges (rs : List Range) (c : Char) : Bool :=
  rs.any (·.holds c.toNat)

/-! ### Run lists -/

/-- Reads a run list whose class codes have `width` characters; `code` holds the characters of the
code that is being read. -/
def readRuns (width : Nat) (count : Option Nat) (code : List Char) :
    List Char → List (Nat × List Char)
  | [] => []
  | c :: rest =>
    match code, hexValue? c with
    | [], some d => readRuns width (some (count.getD 0 * 16 + d)) [] rest
    | _, _ =>
      if code.length + 1 = width then
        (count.getD 1, code ++ [c]) :: readRuns width none [] rest
      else
        readRuns width count (code ++ [c]) rest

/-- The class of the run that holds position `n`, or `other` past the last run. -/
def findRun {α : Type} (other : α) : Nat → List (Nat × α) → α
  | _, [] => other
  | n, (count, a) :: rest => if n < count then a else findRun other (n - count) rest

end Stencil.Unicode
