import Stencil.Unicode.Property

/-!
# Quoted text

A text between double quotes, with escapes for what a reader could not see: quotes and backslashes,
the common control characters, and as `\u` with a hexadecimal number in braces every character
without a visible form of its own.
-/

namespace Stencil.Text

/-- Lower-case hexadecimal digits of a number, without leading zeros. -/
def hexDigits (n : Nat) : List Char :=
  Nat.toDigits 16 n

def quotedChar (c : Char) : List Char :=
  if c = '"' then ['\\', '"']
  else if c = '\\' then ['\\', '\\']
  else if c = '\n' then ['\\', 'n']
  else if c = '\r' then ['\\', 'r']
  else if c = '\t' then ['\\', 't']
  else if c.toNat = 0 then ['\\', '0']
  else if Unicode.isGraphemeExtend c || !Unicode.isPrintable c then
    "\\u\x7b".toList ++ hexDigits c.toNat ++ ['}']
  else [c]

def quoted (text : String) : String :=
  "\"" ++ String.ofList (text.toList.flatMap quotedChar) ++ "\""

end Stencil.Text
