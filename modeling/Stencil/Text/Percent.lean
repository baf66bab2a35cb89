/-!
# Percent-encoding

Letters, digits and `-`, `.`, `_`, `~` stand for themselves; every byte of any other character is
written as `%` and two upper-case hexadecimal digits.
-/

namespace Stencil.Text

def hexDigit (n : Nat) : Char :=
  if n < 10 then Char.ofNat ('0'.toNat + n) else Char.ofNat ('A'.toNat + (n - 10))

def isUnreserved (c : Char) : Bool :=
  c.isAlphanum || c = '-' || c = '.' || c = '_' || c = '~'

def percentByte (b : UInt8) : List Char :=
  ['%', hexDigit (b.toNat / 16), hexDigit (b.toNat % 16)]

def percentChar (c : Char) : List Char :=
  if isUnreserved c then [c] else (String.utf8EncodeChar c).flatMap percentByte

def percentEncode (text : String) : String :=
  String.ofList (text.toList.flatMap percentChar)

end Stencil.Text
