/-!
# Finding, splitting and replacing

Occurrences of a needle are taken leftmost first and never overlap. `split` cuts a text at them and
`replace` puts another text in their place; each scans the text once, skipping the characters of an
occurrence it has found.
-/

namespace Stencil.Text

/-- Does the needle occur in the text? The empty needle occurs everywhere. -/
def occursIn (needle : List Char) : List Char → Bool
  | [] => needle.isEmpty
  | c :: rest => needle.isPrefixOf (c :: rest) || occursIn needle rest

/-- Splits at occurrences of `sep`. `piece` holds the current piece, last character first, and `skip`
counts the characters of an occurrence that are still to be passed over. -/
def splitFrom (sep piece : List Char) : (skip : Nat) → List Char → List (List Char)
  | _, [] => [piece.reverse]
  | k + 1, _ :: rest => splitFrom sep piece k rest
  | 0, c :: rest =>
    if sep.isPrefixOf (c :: rest) then
      piece.reverse :: splitFrom sep [] (sep.length - 1) rest
    else
      splitFrom sep (c :: piece) 0 rest

/-- The pieces between the occurrences of a non-empty separator. -/
def split (sep cs : List Char) : List (List Char) :=
  splitFrom sep [] 0 cs

def splitAt (sep : Char) (cs : List Char) : List (List Char) :=
  split [sep] cs

/-- Replaces occurrences of a non-empty needle; `skip` is as in `splitFrom`. -/
def replaceFrom (needle replacement : List Char) : (skip : Nat) → List Char → List Char
  | _, [] => []
  | k + 1, _ :: rest => replaceFrom needle replacement k rest
  | 0, c :: rest =>
    if needle.isPrefixOf (c :: rest) then
      replacement ++ replaceFrom needle replacement (needle.length - 1) rest
    else
      c :: replaceFrom needle replacement 0 rest

/-- Replaces every occurrence of the needle. The empty needle occurs before every character and at
the end. -/
def replace (needle replacement cs : List Char) : List Char :=
  if needle.isEmpty then
    cs.flatMap (fun c => replacement ++ [c]) ++ replacement
  else
    replaceFrom needle replacement 0 cs

def replaced (needle replacement text : String) : String :=
  String.ofList (replace needle.toList replacement.toList text.toList)

end Stencil.Text
