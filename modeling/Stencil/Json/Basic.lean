import Stencil.Number.Decimal
import Stencil.Text.Quoted

/-!
# Reading JSON

Texts are read from left to right, and the first thing wrong decides the fault: the text is not JSON
at all, or it is but does not have the shape that is expected. Readers take the rest of the text and
give what they read with what follows it. A part of the text that nobody asks for is skipped, with
fewer checks than one that is read.
-/

namespace Stencil.Json

inductive Fault where
  | malformed
  | mismatch (message : String)
  deriving DecidableEq, Repr

abbrev Reader (α : Type) := List Char → Except Fault (α × List Char)

def isBlank (c : Char) : Bool :=
  c = ' ' || c = '\n' || c = '\t' || c = '\r'

def skipBlanks (cs : List Char) : List Char :=
  cs.dropWhile isBlank

def readWord (word : List Char) (cs : List Char) : Except Fault (List Char) :=
  if word.isPrefixOf cs then .ok (cs.drop word.length) else .error .malformed

/-- Reads a single character, after blanks. -/
def readMark (c : Char) (cs : List Char) : Except Fault (List Char) :=
  match skipBlanks cs with
  | d :: rest => if d = c then .ok rest else .error .malformed
  | [] => .error .malformed

/-! ### Strings -/

def hexFour? (a b c d : Char) : Option Nat := do
  let w ← Unicode.hexValue? a.toLower
  let x ← Unicode.hexValue? b.toLower
  let y ← Unicode.hexValue? c.toLower
  let z ← Unicode.hexValue? d.toLower
  return ((w * 16 + x) * 16 + y) * 16 + z

def escaped? : Char → Option Char
  | '"' => some '"'
  | '\\' => some '\\'
  | '/' => some '/'
  | 'b' => some (Char.ofNat 8)
  | 'f' => some (Char.ofNat 12)
  | 'n' => some '\n'
  | 'r' => some '\r'
  | 't' => some '\t'
  | _ => none

/-- Is the number the first half of a pair? -/
def isHighHalf (n : Nat) : Bool := 0xd800 ≤ n && n < 0xdc00

/-- Is the number the second half of a pair? -/
def isLowHalf (n : Nat) : Bool := 0xdc00 ≤ n && n < 0xe000

def pairChar (high low : Nat) : Char :=
  Char.ofNat (0x10000 + (high - 0xd800) * 0x400 + (low - 0xdc00))

def prepend (c : Char) (r : Except Fault (List Char × List Char)) :
    Except Fault (List Char × List Char) :=
  r.map fun (body, rest) => (c :: body, rest)

/-- The characters of a string up to its closing quote, which is dropped. Characters beyond 16 bits
are written as a pair, and halves of pairs stand for nothing on their own. -/
def readChars : List Char → Except Fault (List Char × List Char)
  | [] => .error .malformed
  | '"' :: rest => .ok ([], rest)
  | '\\' :: 'u' :: a :: b :: c :: d :: rest =>
    match hexFour? a b c d with
    | none => .error .malformed
    | some n =>
      if isHighHalf n then
        match rest with
        | '\\' :: 'u' :: e :: f :: g :: h :: after =>
          match hexFour? e f g h with
          | some m =>
            if isLowHalf m then prepend (pairChar n m) (readChars after) else .error .malformed
          | none => .error .malformed
        | _ => .error .malformed
      else if isLowHalf n then .error .malformed
      else prepend (Char.ofNat n) (readChars rest)
  | '\\' :: c :: rest =>
    match escaped? c with
    | some d => prepend d (readChars rest)
    | none => .error .malformed
  | c :: rest => if c.toNat < 0x20 then .error .malformed else prepend c (readChars rest)

/-- Skips a string up to its closing quote. Any four hexadecimal digits will do. -/
def skipChars : List Char → Except Fault (List Char)
  | [] => .error .malformed
  | '"' :: rest => .ok rest
  | '\\' :: 'u' :: a :: b :: c :: d :: rest =>
    if (hexFour? a b c d).isSome then skipChars rest else .error .malformed
  | '\\' :: c :: rest => if (escaped? c).isSome then skipChars rest else .error .malformed
  | c :: rest => if c.toNat < 0x20 then .error .malformed else skipChars rest

/-! ### Numbers -/

inductive Number where
  | unsigned (n : Nat)
  | negative (n : Int)
  | float (x : Float)

/-- Significant digits are kept while they make a number of 64 bits. -/
def significandLimit : Nat := 18446744073709551616

/-- Adds digits to a significand while it stays within its limit, and gives the digits left over. -/
def addDigits (n : Nat) : List Char → Nat × List Char
  | [] => (n, [])
  | c :: rest =>
    let m := n * 10 + Stencil.Number.digitValue c
    if m < significandLimit then addDigits m rest else (n, c :: rest)

def powerOfTen (e : Nat) : Float :=
  Stencil.Number.nearestDecimal false 1 e

/-- Scales a significand by a power of ten. Powers beyond the greatest one are taken in steps; a number
that grows too large is refused. -/
def scale : (fuel : Nat) → Float → Int → Except Fault Float
  | 0, x, _ => .ok x
  | k + 1, x, e =>
    if e.natAbs ≤ 308 then
      if 0 ≤ e then
        let y := x * powerOfTen e.natAbs
        if y.isInf then .error .malformed else .ok y
      else .ok (x / powerOfTen e.natAbs)
    else if x == 0 then .ok x
    else if 0 ≤ e then .error .malformed
    else scale k (x / powerOfTen 308) (e + 308)

def makeFloat (positive : Bool) (significand : Nat) (exponent : Int) : Except Fault Number :=
  (scale 16 (Stencil.Number.nearest false significand 1) exponent).map fun x =>
    .float (if positive then x else -x)

def exponentLimit : Nat := 2147483647

def readExponent (positive : Bool) (significand : Nat) (exponent : Int) (cs : List Char) :
    Except Fault (Number × List Char) :=
  let (up, body) := match cs with
    | '+' :: rest => (true, rest)
    | '-' :: rest => (false, rest)
    | rest => (true, rest)
  let digits := body.takeWhile Char.isDigit
  let rest := body.dropWhile Char.isDigit
  let e := Stencil.Number.natOfDigits digits
  if digits.isEmpty then .error .malformed
  else if exponentLimit < e then
    if significand != 0 && up then .error .malformed
    else .ok (.float (if positive then 0 else -0), rest)
  else (makeFloat positive significand (if up then exponent + e else exponent - e)).map (·, rest)

/-- What follows the digits of a number: an exponent or nothing. -/
def readScaled (positive : Bool) (significand : Nat) (exponent : Int) (cs : List Char) :
    Except Fault (Number × List Char) :=
  match cs with
  | 'e' :: rest | 'E' :: rest => readExponent positive significand exponent rest
  | _ => (makeFloat positive significand exponent).map (·, cs)

/-- A number, after its sign. Digits beyond 64 bits make it a floating point number and count only
towards its exponent; so does the zero with a minus sign. -/
def readNumber (positive : Bool) (cs : List Char) : Except Fault (Number × List Char) :=
  let whole := cs.takeWhile Char.isDigit
  let rest := cs.dropWhile Char.isDigit
  let (n, excess) := addDigits 0 whole
  if whole.isEmpty || (whole.head? = some '0' && 1 < whole.length) then .error .malformed
  else
    match rest with
    | '.' :: more =>
      let fraction := more.takeWhile Char.isDigit
      let after := more.dropWhile Char.isDigit
      let (m, unused) := addDigits n fraction
      if fraction.isEmpty then .error .malformed
      else readScaled positive m (excess.length - (fraction.length - unused.length : Nat)) after
    | 'e' :: _ | 'E' :: _ => readScaled positive n excess.length rest
    | _ =>
      if !excess.isEmpty then (makeFloat positive n excess.length).map (·, rest)
      else if positive then .ok (.unsigned n, rest)
      else if n = 0 || 9223372036854775808 < n then (makeFloat positive n 0).map (·, rest)
      else .ok (.negative (-n), rest)

def skipNumber (cs : List Char) : Except Fault (List Char) :=
  let whole := cs.takeWhile Char.isDigit
  let rest := cs.dropWhile Char.isDigit
  if whole.isEmpty || (whole.head? = some '0' && 1 < whole.length) then .error .malformed
  else do
    let afterFraction ← match rest with
      | '.' :: more =>
        if (more.takeWhile Char.isDigit).isEmpty then .error .malformed
        else .ok (more.dropWhile Char.isDigit)
      | _ => .ok rest
    match afterFraction with
    | e :: more =>
      if e = 'e' || e = 'E' then
        let body := match more with
          | '+' :: ds | '-' :: ds => ds
          | ds => ds
        if (body.takeWhile Char.isDigit).isEmpty then .error .malformed
        else .ok (body.dropWhile Char.isDigit)
      else .ok afterFraction
    | [] => .ok []

/-! ### Skipping values -/

/-- What is skipped: a value, or what follows the elements or entries so far, of which there are some
or none. -/
inductive Skipping where
  | value
  | elements (begun : Bool)
  | entries (begun : Bool)

/-- Skips a value or the rest of a list or object; every step takes at least one character. -/
def skip : (fuel : Nat) → Skipping → List Char → Except Fault (List Char)
  | 0, _, _ => .error .malformed
  | k + 1, .value, cs =>
    match skipBlanks cs with
    | 'n' :: rest => readWord "ull".toList rest
    | 't' :: rest => readWord "rue".toList rest
    | 'f' :: rest => readWord "alse".toList rest
    | '-' :: rest => skipNumber rest
    | '"' :: rest => skipChars rest
    | '[' :: rest => skip k (.elements false) rest
    | '{' :: rest => skip k (.entries false) rest
    | rest => skipNumber rest
  | k + 1, .elements begun, cs =>
    match begun, skipBlanks cs with
    | _, ']' :: rest => .ok rest
    | true, ',' :: rest => do skip k (.elements true) (← skip k .value rest)
    | true, _ => .error .malformed
    | false, rest => do skip k (.elements true) (← skip k .value rest)
  | k + 1, .entries begun, cs => do
    let key ← match begun, skipBlanks cs with
      | _, '}' :: rest => return rest
      | true, ',' :: rest => .ok (skipBlanks rest)
      | true, _ => .error .malformed
      | false, rest => .ok rest
    match key with
    | '"' :: rest =>
      let afterKey ← readMark ':' (← skipChars rest)
      skip k (.entries true) (← skip k .value afterKey)
    | _ => .error .malformed

def skipValue (cs : List Char) : Except Fault (List Char) :=
  skip (cs.length + 1) .value cs

/-! ### Values of a type -/

/-- The text of a floating point number in a message: positional with a point for exponents from -5 to
15, else with an exponent. -/
def floatText (x : Float) : String :=
  match Stencil.Number.parts x with
  | .finite negative m e =>
    if m = 0 then (if negative then "-0.0" else "0.0")
    else
      let d := Stencil.Number.shortest m e
      let power := d.point - 1
      let body :=
        if -5 ≤ power && power < 16 then
          d.positional ++ (if (d.digits.length : Int) ≤ d.point then ['.', '0'] else [])
        else
          let tail := d.digits.drop 1
          let exponent := Nat.toDigits 10 power.natAbs
          d.digits.take 1 ++ (if tail.isEmpty then [] else '.' :: tail)
            ++ ['e', if power < 0 then '-' else '+']
            ++ (if exponent.length < 2 then '0' :: exponent else exponent)
      Stencil.Number.signed negative body
  | _ => "null"

def Number.describe : Number → String
  | .unsigned n => "integer `" ++ toString n ++ "`"
  | .negative n => "integer `" ++ toString n ++ "`"
  | .float x => "floating point `" ++ floatText x ++ "`"

def wrongType (found expected : String) : Fault :=
  .mismatch ("invalid type: " ++ found ++ ", expected " ++ expected)

/-- The fault of a value of another type than the expected one. It is read far enough to name it. -/
def unexpected {α : Type} (expected : String) (cs : List Char) : Except Fault α :=
  match cs with
  | 'n' :: rest => do
    let _ ← readWord "ull".toList rest
    .error (wrongType "null" expected)
  | 't' :: rest => do
    let _ ← readWord "rue".toList rest
    .error (wrongType "boolean `true`" expected)
  | 'f' :: rest => do
    let _ ← readWord "alse".toList rest
    .error (wrongType "boolean `false`" expected)
  | '"' :: rest => do
    let (s, _) ← readChars rest
    .error (wrongType ("string " ++ Text.quoted (String.ofList s)) expected)
  | '[' :: _ => .error (wrongType "sequence" expected)
  | '{' :: _ => .error (wrongType "map" expected)
  | '-' :: rest => do
    let (n, _) ← readNumber false rest
    .error (wrongType n.describe expected)
  | c :: _ =>
    if c.isDigit then do
      let (n, _) ← readNumber true cs
      .error (wrongType n.describe expected)
    else .error .malformed
  | [] => .error .malformed

/-- A number of 64 bits without sign. -/
def readUnsigned (expected : String) : Reader UInt64 := fun text =>
  let cs := skipBlanks text
  let accept : Number × List Char → Except Fault (UInt64 × List Char)
    | (.unsigned n, rest) => .ok (UInt64.ofNat n, rest)
    | (.negative n, _) =>
      .error (.mismatch ("invalid value: integer `" ++ toString n ++ "`, expected " ++ expected))
    | (.float x, _) => .error (wrongType (Number.float x).describe expected)
  match cs with
  | '-' :: rest => (readNumber false rest).bind accept
  | c :: _ => if c.isDigit then (readNumber true cs).bind accept else unexpected expected cs
  | [] => .error .malformed

def readString (expected : String) : Reader String := fun text =>
  match skipBlanks text with
  | '"' :: rest => (readChars rest).map fun (s, after) => (String.ofList s, after)
  | cs => unexpected expected cs

def readBool : Reader Bool := fun text =>
  match skipBlanks text with
  | 't' :: rest => (readWord "rue".toList rest).map (true, ·)
  | 'f' :: rest => (readWord "alse".toList rest).map (false, ·)
  | cs => unexpected "a boolean" cs

def readOption {α : Type} (read : Reader α) : Reader (Option α) := fun text =>
  match skipBlanks text with
  | 'n' :: rest => (readWord "ull".toList rest).map (none, ·)
  | cs => (read cs).map fun (a, after) => (some a, after)

/-- Is there another element in a list? `begun` says that there was one before. Gives where it begins,
or nothing at the closing bracket, which is left in place. -/
def nextElement (begun : Bool) (cs : List Char) : Except Fault (Option (List Char)) :=
  match skipBlanks cs with
  | ']' :: _ => .ok none
  | ',' :: rest =>
    if begun then
      match skipBlanks rest with
      | ']' :: _ | [] => .error .malformed
      | after => .ok (some after)
    else .ok (some (',' :: rest))
  | [] => .error .malformed
  | rest => if begun then .error .malformed else .ok (some rest)

/-- The elements of a list up to its closing bracket, which is dropped. -/
def readElements {α : Type} (read : Reader α) : (fuel : Nat) → (begun : Bool) → Reader (List α)
  | 0, _, _ => .error .malformed
  | k + 1, begun, cs => do
    match ← nextElement begun cs with
    | none => return ([], ← readMark ']' cs)
    | some body =>
      let (a, rest) ← read body
      let (as, after) ← readElements read k true rest
      return (a :: as, after)

def readList {α : Type} (read : Reader α) : Reader (List α) := fun text =>
  match skipBlanks text with
  | '[' :: rest => readElements read (rest.length + 1) false rest
  | cs => unexpected "a sequence" cs

/-- A whole text: a value and nothing but blanks after it. -/
def readAll {α : Type} (read : Reader α) (text : String) : Except Fault α := do
  let (a, rest) ← read text.toList
  if (skipBlanks rest).isEmpty then return a else .error .malformed

/-! ### Records -/

/-- A field of a record that is read into `σ`: its name, whether it was given, how to read it, and
whether an object or a list of fields has to have it. -/
structure Field (σ : Type) where
  name : String
  given : σ → Bool
  read : σ → Reader σ
  inObject : Bool
  inList : Bool

def fieldFault (what name : String) : Fault :=
  .mismatch (what ++ " field `" ++ name ++ "`")

/-- The first field that an object has to have and has not. -/
def missing? {σ : Type} (fields : List (Field σ)) (s : σ) : Option (Field σ) :=
  fields.find? fun f => f.inObject && !f.given s

/-- The entries of an object up to its closing brace, which is dropped. Unknown names are skipped. A
name that is given again is refused before its value is read. -/
def readEntries {σ : Type} (fields : List (Field σ)) : (fuel : Nat) → (begun : Bool) → σ → Reader σ
  | 0, _, _, _ => .error .malformed
  | k + 1, begun, s, cs => do
    let key ← match begun, skipBlanks cs with
      | _, '}' :: rest =>
        match missing? fields s with
        | some f => .error (fieldFault "missing" f.name)
        | none => return (s, rest)
      | true, ',' :: rest => .ok (skipBlanks rest)
      | true, _ => .error .malformed
      | false, rest => .ok rest
    match key with
    | '"' :: rest =>
      let (name, afterName) ← readChars rest
      match fields.find? (·.name == String.ofList name) with
      | some f =>
        if f.given s then .error (fieldFault "duplicate" f.name)
        else
          let (t, after) ← f.read s (← readMark ':' afterName)
          readEntries fields k true t after
      | none => readEntries fields k true s (← skipValue (← readMark ':' afterName))
    | _ => .error .malformed

/-- The fields of a record written as a list, of which `done` are read. -/
def readInOrder {σ : Type} (title : String) (count : Nat) :
    (done : Nat) → List (Field σ) → σ → Reader σ
  | _, [], s, cs => do return (s, ← readMark ']' cs)
  | done, f :: rest, s, cs => do
    match ← nextElement (0 < done) cs with
    | some body =>
      let (t, after) ← f.read s body
      readInOrder title count (done + 1) rest t after
    | none =>
      if f.inList then
        .error (.mismatch ("invalid length " ++ toString done ++ ", expected " ++ title ++ " with "
          ++ toString count ++ (if count = 1 then " element" else " elements")))
      else readInOrder title count done rest s cs

/-- A record, as an object or as the list of its fields. -/
def readRecord {σ : Type} (title : String) (fields : List (Field σ)) (init : σ) : Reader σ :=
  fun text =>
    match skipBlanks text with
    | '{' :: rest => readEntries fields (rest.length + 1) false init rest
    | '[' :: rest => readInOrder title fields.length 0 fields init rest
    | cs => unexpected title cs

end Stencil.Json
