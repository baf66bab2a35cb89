/-!
# Offsets in bytes

A text can be cut after a number of bytes, as its encoding counts them, unless the cut falls inside a
character or past the end.
-/

namespace Stencil.Text

def byteCount : List Char → Nat
  | [] => 0
  | c :: rest => c.utf8Size + byteCount rest

/-- The characters of a text with their offsets, the first at this one. -/
def charOffsets : (offset : Nat) → List Char → List (Nat × Char)
  | _, [] => []
  | n, c :: rest => (n, c) :: charOffsets (n + c.utf8Size) rest

def cutAfter? : List Char → (bytes : Nat) → Option (List Char × List Char)
  | cs, 0 => some ([], cs)
  | [], _ + 1 => none
  | c :: rest, n + 1 =>
    if n + 1 < c.utf8Size then none
    else (cutAfter? rest (n + 1 - c.utf8Size)).map fun (before, after) => (c :: before, after)

theorem byteCount_append (before after : List Char) :
    byteCount (before ++ after) = byteCount before + byteCount after := by
  induction before with
  | nil => simp [byteCount]
  | cons c before ih => simp only [List.cons_append, byteCount, ih, Nat.add_assoc]

theorem length_charOffsets (n : Nat) (cs : List Char) : (charOffsets n cs).length = cs.length := by
  induction cs generalizing n with
  | nil => rfl
  | cons c rest ih => simp [charOffsets, ih]

theorem getElem?_charOffsets (n : Nat) (before : List Char) (c : Char) (after : List Char) :
    (charOffsets n (before ++ c :: after))[before.length]? = some (n + byteCount before, c) := by
  induction before generalizing n with
  | nil => simp [charOffsets, byteCount]
  | cons d before ih =>
    simp only [List.cons_append, charOffsets, List.length_cons, List.getElem?_cons_succ, ih]
    simp only [byteCount, Nat.add_assoc]

/- A text is cut where some of its characters end. -/
theorem cutAfter?_byteCount (before after : List Char) :
    cutAfter? (before ++ after) (byteCount before) = some (before, after) := by
  induction before with
  | nil =>
    cases after with
    | nil => rfl
    | cons c rest => rfl
  | cons c before ih =>
    have hpos := c.utf8Size_pos
    have hsize : byteCount (c :: before) = byteCount before + (c.utf8Size - 1) + 1 := by
      simp only [byteCount]
      omega
    have hrest : byteCount before + (c.utf8Size - 1) + 1 - c.utf8Size = byteCount before := by omega
    rw [List.cons_append, hsize, cutAfter?, if_neg (by omega), hrest, ih]
    rfl

end Stencil.Text
