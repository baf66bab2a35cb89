/-!
# Slices

Positions count from the front when they are not negative and from the end otherwise.
-/

namespace Stencil.Text

/-- The position that an index names in a text of `length` characters, if it is not before the
front. -/
def position? (index : Int) (length : Nat) : Option Nat :=
  if 0 ≤ index then some index.toNat
  else if (-index).toNat ≤ length then some (length - (-index).toNat)
  else none

/-- The position that an index names, moved to the nearest end when it lies outside the text. -/
def clamped (index : Int) (length : Nat) : Nat :=
  min ((position? index length).getD 0) length

/-- Every `step`-th character, after passing over `wait` of them. -/
def everyNth (step : Nat) : (wait : Nat) → List Char → List Char
  | _, [] => []
  | 0, c :: rest => c :: everyNth step (step - 1) rest
  | k + 1, _ :: rest => everyNth step k rest

/-- The characters at positions `first`, `first + step`, … below `last`. -/
def sliced (first last step : Nat) (cs : List Char) : List Char :=
  everyNth step 0 ((cs.take last).drop first)

end Stencil.Text
