import Stencil.Pattern.Basic
import Stencil.Text.Trim

/-!
# Reading patterns

The written form of patterns: literals, classes in brackets with set operations, escapes, groups with
names and flags, alternatives, and repetitions. There are no look-around groups and no
back-references. Readers take the rest of the text and give what they read with what follows it; a
text that is not a pattern gives nothing.
-/

namespace Stencil.Pattern

open Unicode (isBlank)

/-! ### Flags -/

structure Flags where
  ignoreCase : Bool := false
  multiLine : Bool := false
  dotAll : Bool := false
  swapGreed : Bool := false
  unicode : Bool := true
  crlf : Bool := false
  verbose : Bool := false
  deriving DecidableEq, Repr

def Flags.set? (f : Flags) (letter : Char) (on : Bool) : Option Flags :=
  match letter with
  | 'i' => some { f with ignoreCase := on }
  | 'm' => some { f with multiLine := on }
  | 's' => some { f with dotAll := on }
  | 'U' => some { f with swapGreed := on }
  | 'u' => some { f with unicode := on }
  | 'R' => some { f with crlf := on }
  | 'x' => some { f with verbose := on }
  | _ => none

/-- Reads flags up to `:` or `)`, which is left in place. Letters after a hyphen are switched off. No
letter stands twice, nor does the hyphen, and it is not last. `seen` holds what was read. -/
def readFlags (f : Flags) (seen : List Char) : List Char → Option (Flags × List Char)
  | [] => none
  | c :: rest =>
    if c = ':' || c = ')' then
      if seen.head? = some '-' then none else some (f, c :: rest)
    else if seen.contains c then none
    else if c = '-' then readFlags f (c :: seen) rest
    else
      match f.set? c (!seen.contains '-') with
      | some g => readFlags g (c :: seen) rest
      | none => none

/-! ### Blanks and comments -/

/-- Drops blanks, and comments from `#` to the end of the line. -/
def dropSpace : (inComment : Bool) → List Char → List Char
  | _, [] => []
  | true, c :: rest => dropSpace (c != '\n') rest
  | false, c :: rest =>
    if isBlank c then dropSpace false rest
    else if c = '#' then dropSpace true rest
    else c :: rest

/-- Blanks and comments count for nothing in verbose patterns. -/
def Flags.skip (f : Flags) (cs : List Char) : List Char :=
  if f.verbose then dropSpace false cs else cs

/-- The next character that counts after a blank run; a `#` and the blanks after it are passed over
once. Used to look ahead within classes of verbose patterns. -/
def peekSpace : (inComment : Bool) → List Char → Option Char
  | _, [] => none
  | inComment, c :: rest =>
    if isBlank c then peekSpace inComment rest
    else if !inComment && c = '#' then peekSpace true rest
    else some c

/-- The character after the next blanks, or the very next one if only blanks follow. -/
def Flags.peek (f : Flags) (cs : List Char) : Option Char :=
  if f.verbose then (peekSpace false cs).or cs.head? else cs.head?

/-! ### Single characters and classes by name -/

inductive Primitive where
  /-- A character; `byte` marks one written as two hexadecimal digits. -/
  | literal (c : Char) (byte : Bool)
  | named (k : CharClass)
  | look (a : Look)

def hexValue? (c : Char) : Option Nat :=
  Unicode.hexValue? c.toLower

def charOf? (n : Nat) : Option Char :=
  if n.isValidChar then some (Char.ofNat n) else none

def readHexDigits (f : Flags) : (n : Nat) → (acc : Nat) → List Char → Option (Nat × List Char)
  | 0, acc, cs => some (acc, cs)
  | n + 1, acc, c :: rest =>
    match hexValue? c with
    | some d => readHexDigits f n (acc * 16 + d) (f.skip rest)
    | none => none
  | _ + 1, _, [] => none

/-- Reads text up to a closing brace, which is dropped; blanks count for nothing in verbose patterns. -/
def readBraced (f : Flags) : (fuel : Nat) → List Char → Option (List Char × List Char)
  | 0, _ => none
  | _ + 1, [] => none
  | n + 1, c :: rest =>
    if c = '}' then some ([], rest)
    else (readBraced f n (f.skip rest)).map fun (body, after) => (c :: body, after)

def hexNumber? (cs : List Char) : Option Nat :=
  if cs.isEmpty then none
  else cs.foldl (fun acc c => acc.bind fun n => (hexValue? c).map (n * 16 + ·)) (some 0)

/-- A character by number, after `\x`, `\u` or `\U`: a fixed count of digits, or any in braces. -/
def readHex (f : Flags) (digits : Nat) (cs : List Char) : Option (Primitive × List Char) :=
  match f.skip cs with
  | '{' :: rest => do
    let (body, after) ← readBraced f (rest.length + 1) (f.skip rest)
    let c ← charOf? (← hexNumber? body)
    return (.literal c false, f.skip after)
  | rest => do
    let (n, after) ← readHexDigits f digits 0 rest
    return (.literal (← charOf? n) (digits == 2), after)

/-- Applies case folding and then negation. Without Unicode no class may leave ASCII, so that a class
outside it, such as any negated one, is refused. -/
def foldNegate (f : Flags) (negated : Bool) (k : CharClass) : Option CharClass :=
  let folded :=
    if !f.ignoreCase then k else if f.unicode then k.folded else k.asciiFolded
  if !negated then some folded else if f.unicode then some folded.compl else none

def cutAt? (sep : List Char) : List Char → Option (List Char × List Char)
  | [] => none
  | c :: rest =>
    if sep.isPrefixOf (c :: rest) then some ([], (c :: rest).drop sep.length)
    else (cutAt? sep rest).map fun (before, after) => (c :: before, after)

def propertyTest? (name : List Char) : Option Unicode.CharTest :=
  match (cutAt? ['!', '='] name).or ((cutAt? [':'] name).or (cutAt? ['='] name)) with
  | some (property, value) => Unicode.valueTest? property value
  | none => Unicode.namedTest? name

/-- A class by property name, after `\p` or `\P`: one letter, or a name in braces. -/
def readProperty (f : Flags) (negated : Bool) (cs : List Char) : Option (Primitive × List Char) := do
  let (name, after) ← match f.skip cs with
    | '{' :: rest => readBraced f (rest.length + 1) (f.skip rest)
    | c :: rest => if c = '\\' then none else some ([c], f.skip rest)
    | [] => none
  let test ← propertyTest? name
  if !f.unicode then none
  let k ← foldNegate f negated ⟨test⟩
  return (.named k, after)

/-- The classes `\d`, `\s`, `\w` and, in upper case, their complements. Without Unicode they are those
of ASCII and have no complement. -/
def shorthandClass? (f : Flags) (c : Char) : Option CharClass := do
  let k : CharClass ← match c.toLower, f.unicode with
    | 'd', true => some ⟨Unicode.known Unicode.isDecimalDigit⟩
    | 's', true => some ⟨isBlank⟩
    | 'w', true => some ⟨Unicode.known Unicode.isWord⟩
    | 'd', false => some ⟨Char.isDigit⟩
    | 's', false => some ⟨fun c => c == ' ' || (9 ≤ c.toNat && c.toNat ≤ 13)⟩
    | 'w', false => some ⟨isAsciiWord⟩
    | _, _ => none
  foldNegate { f with ignoreCase := false } c.isUpper k

def isMeta (c : Char) : Bool :=
  "\\.+*?()|[]\x7b\x7d^$#&-~".toList.contains c

/-- Characters that a backslash turns into themselves: those with a meaning, and all of ASCII that are
neither letters, digits nor angle brackets. -/
def isEscapable (c : Char) : Bool :=
  isMeta c || (c.toNat < 0x80 && !c.isAlphanum && c != '<' && c != '>')

def isLookNameChar (c : Char) : Bool :=
  c.isAlpha || c = '-'

def readLookName (f : Flags) : (fuel : Nat) → List Char → List Char × List Char
  | 0, cs => ([], cs)
  | _ + 1, [] => ([], [])
  | n + 1, c :: rest =>
    if isLookNameChar c then
      let (name, after) := readLookName f n (f.skip rest)
      (c :: name, after)
    else ([], c :: rest)

/-- After `\b`: one of four conditions named in braces. A brace that no letter follows belongs to what
comes next. -/
def readWordLook (f : Flags) (cs : List Char) : Option (Look × List Char) :=
  match cs with
  | '{' :: rest =>
    match f.skip rest with
    | [] => none
    | c :: inner =>
      if !isLookNameChar c then some (.wordBoundary f.unicode, cs)
      else
        match readLookName f (inner.length + 1) (c :: inner) with
        | (name, '}' :: after) =>
          match String.ofList name with
          | "start" => some (.wordStart f.unicode, after)
          | "end" => some (.wordEnd f.unicode, after)
          | "start-half" => some (.wordStartHalf f.unicode, after)
          | "end-half" => some (.wordEndHalf f.unicode, after)
          | _ => none
        | _ => none
  | _ => some (.wordBoundary f.unicode, cs)

def readEscape (f : Flags) : List Char → Option (Primitive × List Char)
  | [] => none
  | c :: rest =>
    match c with
    | 'x' => readHex f 2 rest
    | 'u' => readHex f 4 rest
    | 'U' => readHex f 8 rest
    | 'p' => readProperty f false rest
    | 'P' => readProperty f true rest
    | 'd' | 's' | 'w' | 'D' | 'S' | 'W' => (shorthandClass? f c).map fun k => (.named k, rest)
    | 'a' => some (.literal (Char.ofNat 7) false, rest)
    | 'f' => some (.literal (Char.ofNat 12) false, rest)
    | 't' => some (.literal '\t' false, rest)
    | 'n' => some (.literal '\n' false, rest)
    | 'r' => some (.literal '\r' false, rest)
    | 'v' => some (.literal (Char.ofNat 11) false, rest)
    | 'A' => some (.look .textStart, rest)
    | 'z' => some (.look .textEnd, rest)
    | 'b' => (readWordLook f rest).map fun (a, after) => (.look a, after)
    | 'B' => some (.look (.notWordBoundary f.unicode), rest)
    | '<' => some (.look (.wordStart f.unicode), rest)
    | '>' => some (.look (.wordEnd f.unicode), rest)
    | _ => if isEscapable c then some (.literal c false, rest) else none

/-! ### Classes in brackets -/

/-- A class with the depth of its nesting. -/
structure Nested where
  cls : CharClass
  depth : Nat

/-- All classes of a list together; two or more lie one level deeper. -/
def Nested.unionOf : List Nested → Nested
  | [] => ⟨.none, 0⟩
  | [k] => k
  | ks => ⟨ks.foldl (fun acc k => acc.union k.cls) .none, ks.foldl (fun d k => max d k.depth) 0 + 1⟩

inductive SetOp where
  | inter
  | diff
  | symmDiff
  deriving DecidableEq, Repr

/-- Applies an operation, both sides being folded first. -/
def SetOp.apply (f : Flags) (op : SetOp) (a b : Nested) : Nested :=
  let fold := fun k => (foldNegate f false k).getD k
  let x := fold a.cls
  let y := fold b.cls
  let k := match op with
    | .inter => x.inter y
    | .diff => x.diff y
    | .symmDiff => x.symmDiff y
  ⟨k, max a.depth b.depth + 1⟩

/-- Joins what stands left of an operator, if there is one, to what stands right of it. -/
def joinOp (f : Flags) (left : Option (SetOp × Nested)) (right : Nested) : Nested :=
  match left with
  | some (op, a) => op.apply f a right
  | none => right

def asciiRange (a b : Char) (c : Char) : Bool :=
  a ≤ c && c ≤ b

def asciiClass? : String → Option (Char → Bool)
  | "alnum" => some Char.isAlphanum
  | "alpha" => some Char.isAlpha
  | "ascii" => some fun c => c.toNat < 0x80
  | "blank" => some fun c => c == ' ' || c == '\t'
  | "cntrl" => some fun c => c.toNat < 0x20 || c.toNat == 0x7f
  | "digit" => some Char.isDigit
  | "graph" => some (asciiRange '!' '~')
  | "lower" => some Char.isLower
  | "print" => some (asciiRange ' ' '~')
  | "punct" => some fun c => asciiRange '!' '~' c && !c.isAlphanum
  | "space" => some fun c => c == ' ' || (9 ≤ c.toNat && c.toNat ≤ 13)
  | "upper" => some Char.isUpper
  | "word" => some isAsciiWord
  | "xdigit" => some fun c => c.isDigit || asciiRange 'a' 'f' c.toLower
  | _ => none

/-- A named class `[:name:]` or `[:^name:]`, given what follows its first bracket. -/
def readAscii? (cs : List Char) : Option (Bool × (Char → Bool) × List Char) :=
  match cs with
  | ':' :: rest =>
    let (negated, body) := match rest with
      | '^' :: r => (true, r)
      | r => (false, r)
    match body.dropWhile (· != ':') with
    | ':' :: ']' :: after =>
      (asciiClass? (String.ofList (body.takeWhile (· != ':')))).map fun p => (negated, p, after)
    | _ => none
  | _ => none

def readClassItem (f : Flags) : List Char → Option (Primitive × List Char)
  | [] => none
  | '\\' :: rest => readEscape f rest
  | c :: rest => some (.literal c false, rest)

/-- A character within a class; without Unicode it is one of ASCII. -/
def classLiteral? (f : Flags) : Primitive → Option Char
  | .literal c _ => if f.unicode || c.toNat < 0x80 then some c else none
  | _ => none

/-- A range, a single character or an escaped class. A hyphen before the closing bracket or before
another hyphen is not part of a range. -/
def readClassRange (f : Flags) (cs : List Char) : Option (CharClass × List Char) := do
  let (first, afterFirst) ← readClassItem f cs
  match f.skip afterFirst with
  | [] => none
  | c :: rest =>
    let next := f.peek rest
    if c != '-' || next == some ']' || next == some '-' then
      match first with
      | .named k => return (k, c :: rest)
      | p => return (.single (← classLiteral? f p), c :: rest)
    else
      let (last, after) ← readClassItem f (f.skip rest)
      let a ← classLiteral? f first
      let b ← classLiteral? f last
      if a ≤ b then return (.range a b, after) else none

def readHyphens (f : Flags) : (fuel : Nat) → List Nested → List Char → List Nested × List Char
  | 0, items, cs => (items, cs)
  | n + 1, items, cs =>
    match cs with
    | '-' :: rest => readHyphens f n (items ++ [⟨.single '-', 0⟩]) (f.skip rest)
    | _ => (items, cs)

/-- The front of a class, after its first bracket: the mark of negation, hyphens, or a closing
bracket that stands for itself. -/
def readClassOpen (f : Flags) (cs : List Char) : Bool × List Nested × List Char :=
  let (negated, body) := match f.skip cs with
    | '^' :: rest => (true, f.skip rest)
    | rest => (false, rest)
  let (items, rest) := readHyphens f (body.length + 1) [] body
  match items, rest with
  | [], ']' :: after => (negated, [⟨.single ']', 0⟩], f.skip after)
  | _, _ => (negated, items, rest)

/-- The body of a class up to its closing bracket, which is dropped. `items` were read since the last
operator and `left` stands before it. -/
def readClassBody (f : Flags) :
    (fuel : Nat) → Option (SetOp × Nested) → List Nested → List Char → Option (Nested × List Char)
  | 0, _, _, _ => none
  | n + 1, left, items, cs =>
    let join := joinOp f left (Nested.unionOf items)
    match f.skip cs with
    | [] => none
    | '[' :: rest =>
      match readAscii? rest with
      | some (negated, p, after) => do
        let k ← foldNegate f negated ⟨p⟩
        readClassBody f n left (items ++ [⟨k, 0⟩]) after
      | none => do
        let (negated, inner, body) := readClassOpen f rest
        let (set, after) ← readClassBody f n none inner body
        let k ← foldNegate f negated set.cls
        readClassBody f n left (items ++ [⟨k, set.depth + 1⟩]) after
    | ']' :: rest => some (join, rest)
    | '&' :: '&' :: rest => readClassBody f n (some (.inter, join)) [] rest
    | '-' :: '-' :: rest => readClassBody f n (some (.diff, join)) [] rest
    | '~' :: '~' :: rest => readClassBody f n (some (.symmDiff, join)) [] rest
    | rest => do
      let (k, after) ← readClassRange f rest
      readClassBody f n left (items ++ [⟨k, 0⟩]) after

def readClass (f : Flags) (cs : List Char) : Option (Nested × List Char) := do
  let (negated, items, body) := readClassOpen f cs
  let (set, after) ← readClassBody f (cs.length + 1) none items body
  let k ← foldNegate f negated set.cls
  return (⟨k, set.depth + 1⟩, after)

/-! ### Repetition counts -/

def countLimit : Nat := 4294967295

def readCountDigits (f : Flags) : (fuel : Nat) → List Char → List Char × List Char
  | 0, cs => ([], cs)
  | _ + 1, [] => ([], [])
  | n + 1, c :: rest =>
    if c.isDigit then
      let (digits, after) := readCountDigits f n (f.skip rest)
      (c :: digits, after)
    else ([], c :: rest)

/-- A count, with blanks on both sides. -/
def readCount (f : Flags) (cs : List Char) : Option (Nat × List Char) :=
  let (digits, after) := readCountDigits f (cs.length + 1) (cs.dropWhile isBlank)
  let n := digits.foldl (fun n c => n * 10 + (c.toNat - '0'.toNat)) 0
  if digits.isEmpty || countLimit < n then none else some (n, f.skip (after.dropWhile isBlank))

/-- The counts in braces, after the first brace: one count, a least one, or both. -/
def readCounts (f : Flags) (cs : List Char) : Option (Nat × Option Nat × List Char) := do
  let (least, rest) ← readCount f (f.skip cs)
  match rest with
  | '}' :: after => return (least, some least, after)
  | ',' :: more =>
    match f.skip more with
    | '}' :: after => return (least, none, after)
    | bounded =>
      let (most, rest) ← readCount f bounded
      match rest with
      | '}' :: after => if least ≤ most then return (least, some most, after) else none
      | _ => none
  | _ => none

def dropLazy : List Char → List Char
  | '?' :: rest => rest
  | cs => cs

/-! ### Groups and sequences -/

/-- A part of a sequence, with the depth of its nesting. Flags are a part of their own, which cannot
be repeated. -/
structure Part where
  expr : Option Expr
  depth : Nat

structure State where
  flags : Flags := {}
  names : List (List Char) := []
  rest : List Char

/-- The parts one after another; two or more lie one level deeper. -/
def sequenceOf : List Part → Part
  | [] => ⟨some .empty, 0⟩
  | [p] => ⟨some (p.expr.getD .empty), p.depth⟩
  | ps =>
    ⟨some (ps.foldr (fun p acc => .seq (p.expr.getD .empty) acc) .empty),
     ps.foldl (fun d p => max d p.depth) 0 + 1⟩

/-- The alternatives `earlier`, last one first, and one more. -/
def alternativesOf (earlier : List Part) (final : Part) : Part :=
  if earlier.isEmpty then final
  else
    ⟨some (earlier.foldl (fun acc p => .alt (p.expr.getD .empty) acc) (final.expr.getD .empty)),
     earlier.foldl (fun d p => max d p.depth) final.depth + 1⟩

def repeatLast (parts : List Part) (least : Nat) (most : Option Nat) : Option (List Part) :=
  match parts.reverse with
  | ⟨some e, d⟩ :: before => some (before.reverse ++ [⟨some (.rep e least most), d + 1⟩])
  | _ => none

/-- A literal with the flags applied. A byte beyond ASCII is no character without Unicode. -/
def literalExpr? (f : Flags) (c : Char) (byte : Bool) : Option Expr :=
  if !f.unicode && byte && 0x7f < c.toNat then none
  else if !f.ignoreCase then some (.chars (.single c))
  else if f.unicode then some (.chars (CharClass.single c).folded)
  else if c.isAlpha then some (.chars (CharClass.single c).asciiFolded)
  else some (.chars (.single c))

/-- Any character, or any but those that end a line. Without Unicode it would match single bytes. -/
def dotExpr? (f : Flags) : Option Expr :=
  if !f.unicode then none
  else some (.chars
    (if f.dotAll then ⟨fun _ => true⟩
     else if f.crlf then ⟨fun c => c != '\n' && c != '\r'⟩
     else ⟨fun c => c != '\n'⟩))

/-- A part that is neither a group, a class nor a repetition. -/
def readPrimitive (f : Flags) : List Char → Option (Expr × List Char)
  | [] => none
  | '\\' :: rest => do
    let (p, after) ← readEscape f rest
    match p with
    | .literal c byte => return (← literalExpr? f c byte, after)
    | .named k => return (.chars k, after)
    | .look a => return (.look a, after)
  | '.' :: rest => (dotExpr? f).map fun e => (e, rest)
  | '^' :: rest => some (.look (if f.multiLine then .lineStart f.crlf else .textStart), rest)
  | '$' :: rest => some (.look (if f.multiLine then .lineEnd f.crlf else .textEnd), rest)
  | c :: rest => (literalExpr? f c false).map fun e => (e, rest)

def isNameChar (first : Bool) (c : Char) : Bool :=
  c = '_' || Unicode.isAlphabetic c
    || (!first && (c = '.' || c = '[' || c = ']' || Unicode.isNumeric c))

/-- The name of a group up to `>`, which is dropped. -/
def readGroupName (names : List (List Char)) (cs : List Char) : Option (List Char × List Char) :=
  let name := cs.takeWhile (· != '>')
  match name, cs.dropWhile (· != '>') with
  | c :: more, '>' :: after =>
    if isNameChar true c && more.all (isNameChar false) && !names.contains name
    then some (name, after) else none
  | _, _ => none

/-- What the front of a group asks for: flags from here on, or a group. -/
inductive GroupOpen where
  | setFlags (s : State)
  | group (inner : State)

def readGroupOpen (s : State) (cs : List Char) : Option GroupOpen :=
  match s.flags.skip cs with
  | '?' :: '=' :: _ | '?' :: '!' :: _ | '?' :: '<' :: '=' :: _ | '?' :: '<' :: '!' :: _ => none
  | '?' :: 'P' :: '<' :: rest | '?' :: '<' :: rest =>
    (readGroupName s.names rest).map fun (name, after) =>
      .group { s with names := name :: s.names, rest := after }
  | '?' :: rest =>
    match readFlags s.flags [] rest with
    | some (f, ')' :: after) =>
      if rest.head? = some ')' then none else some (.setFlags { s with flags := f, rest := after })
    | some (f, _ :: after) => some (.group { s with flags := f, rest := after })
    | _ => none
  | rest => some (.group { s with rest })

/-- Reads alternatives up to the end of the text or a closing parenthesis, which is left in place.
`earlier` are the alternatives so far, last one first, and `parts` the sequence being read. -/
def readBody : (fuel : Nat) → State → (earlier parts : List Part) → Option (Part × State)
  | 0, _, _, _ => none
  | n + 1, s, earlier, parts =>
    let f := s.flags
    let cs := f.skip s.rest
    match cs with
    | [] | ')' :: _ => some (alternativesOf earlier (sequenceOf parts), { s with rest := cs })
    | '|' :: rest => readBody n { s with rest } (sequenceOf parts :: earlier) []
    | '(' :: rest =>
      match readGroupOpen s rest with
      | some (.setFlags t) => readBody n t earlier (parts ++ [⟨none, 0⟩])
      | some (.group inner) =>
        match readBody n inner [] [] with
        | some (p, t) =>
          match t.rest with
          | ')' :: after =>
            readBody n { t with flags := f, rest := after } earlier
              (parts ++ [⟨p.expr, p.depth + 1⟩])
          | _ => none
        | none => none
      | none => none
    | '[' :: rest => do
      let (k, after) ← readClass f rest
      readBody n { s with rest := after } earlier (parts ++ [⟨some (.chars k.cls), k.depth⟩])
    | '?' :: rest => do
      readBody n { s with rest := dropLazy rest } earlier (← repeatLast parts 0 (some 1))
    | '*' :: rest => do
      readBody n { s with rest := dropLazy rest } earlier (← repeatLast parts 0 none)
    | '+' :: rest => do
      readBody n { s with rest := dropLazy rest } earlier (← repeatLast parts 1 none)
    | '{' :: rest => do
      let (least, most, after) ← readCounts f rest
      readBody n { s with rest := dropLazy (f.skip after) } earlier (← repeatLast parts least most)
    | _ => do
      let (e, after) ← readPrimitive f cs
      readBody n { s with rest := after } earlier (parts ++ [⟨some e, 0⟩])

def depthLimit : Nat := 250

/-- The pattern that a text writes, if it is one, not too deep, and `fits` what the engine that compiles it can hold. -/
def parse? (fits : String → Bool) (text : String) : Option Expr := do
  let cs := text.toList
  let (p, s) ← readBody (cs.length + 1) { rest := cs } [] []
  let e ← p.expr
  if s.rest.isEmpty && p.depth ≤ depthLimit && fits text then some e else none

end Stencil.Pattern
