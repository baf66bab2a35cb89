import Stencil.Unicode.Case
import Stencil.Unicode.Named

/-!
# Patterns

A pattern describes texts: character classes and assertions about a place in the text, put in
sequence, as alternatives, or repeated. What a pattern matches is a relation between two places of a
text; `reach` computes all places where a match can end from the places where it may begin.
-/

namespace Stencil.Pattern

/-! ### Parts of patterns -/

structure CharClass where
  holds : Char → Bool

namespace CharClass

def none : CharClass := ⟨fun _ => false⟩

def single (c : Char) : CharClass := ⟨(· == c)⟩

def range (first last : Char) : CharClass :=
  ⟨fun c => first ≤ c && c ≤ last⟩

def union (a b : CharClass) : CharClass :=
  ⟨fun c => a.holds c || b.holds c⟩

def inter (a b : CharClass) : CharClass :=
  ⟨fun c => a.holds c && b.holds c⟩

def diff (a b : CharClass) : CharClass :=
  ⟨fun c => a.holds c && !b.holds c⟩

def symmDiff (a b : CharClass) : CharClass :=
  ⟨fun c => a.holds c != b.holds c⟩

def compl (a : CharClass) : CharClass :=
  ⟨fun c => !a.holds c⟩

/-- Characters with a case variant in the class. -/
def folded (a : CharClass) : CharClass :=
  ⟨fun c => (Unicode.caseVariants c).any a.holds⟩

/-- Characters with a variant in the class, looking at the case of ASCII letters only. -/
def asciiFolded (a : CharClass) : CharClass :=
  ⟨fun c => a.holds c || a.holds c.toLower || a.holds c.toUpper⟩

end CharClass

def isAsciiWord (c : Char) : Bool :=
  c.isAlphanum || c == '_'

/-- A condition on a place in a text. Those on words go by word characters of all scripts or of ASCII
only. A `half` condition looks at one side of the place. -/
inductive Look where
  | textStart
  | textEnd
  | lineStart (crlf : Bool)
  | lineEnd (crlf : Bool)
  | wordBoundary (unicode : Bool)
  | notWordBoundary (unicode : Bool)
  | wordStart (unicode : Bool)
  | wordEnd (unicode : Bool)
  | wordStartHalf (unicode : Bool)
  | wordEndHalf (unicode : Bool)
  deriving DecidableEq, Repr

inductive Expr where
  | empty
  | chars (k : CharClass)
  | look (a : Look)
  | seq (p q : Expr)
  | alt (p q : Expr)
  | rep (p : Expr) (least : Nat) (most : Option Nat)

/-! ### Places -/

def charAfter (text : Array Char) (i : Nat) (p : Char → Bool) : Bool :=
  text[i]?.any p

def charBefore (text : Array Char) (i : Nat) (p : Char → Bool) : Bool :=
  0 < i && text[i - 1]?.any p

/-- Does the condition hold at a place? With `crlf` a carriage return and a line feed end one line
together. -/
def Look.holds (text : Array Char) (i : Nat) : Look → Bool
  | .textStart => i == 0
  | .textEnd => i == text.size
  | .lineStart false => i == 0 || charBefore text i (· == '\n')
  | .lineEnd false => i == text.size || charAfter text i (· == '\n')
  | .lineStart true =>
    i == 0 || charBefore text i (· == '\n')
      || (charBefore text i (· == '\r') && !charAfter text i (· == '\n'))
  | .lineEnd true =>
    i == text.size || charAfter text i (· == '\r')
      || (charAfter text i (· == '\n') && !charBefore text i (· == '\r'))
  | .wordBoundary u => before u != after u
  | .notWordBoundary u => before u == after u
  | .wordStart u => !before u && after u
  | .wordEnd u => before u && !after u
  | .wordStartHalf u => !before u
  | .wordEndHalf u => !after u
where
  isWord (unicode : Bool) : Char → Bool := if unicode then Unicode.known Unicode.isWord else isAsciiWord
  before (unicode : Bool) : Bool := charBefore text i (isWord unicode)
  after (unicode : Bool) : Bool := charAfter text i (isWord unicode)

/-! ### Matching -/

/-- Sets of places, in increasing order. -/
abbrev Places := List Nat

def Places.insert (i : Nat) : Places → Places
  | [] => [i]
  | j :: rest =>
    if i < j then i :: j :: rest else if i = j then j :: rest else j :: Places.insert i rest

def Places.union (a b : Places) : Places :=
  b.foldl (fun acc i => Places.insert i acc) a

/-- Applies a step a number of times, stopping early where it changes nothing any more. -/
def times (step : Places → Places) : Nat → Places → Places
  | 0, s => s
  | n + 1, s => if step s = s then s else times step n (step s)

/-- The places reached by at most `n` steps; `seen` are those reached so far and `fresh` those reached
by the last step only. -/
def upTo (step : Places → Places) : (n : Nat) → (seen fresh : Places) → Places
  | 0, seen, _ => seen
  | n + 1, seen, fresh =>
    let next := (step fresh).filter fun i => !seen.contains i
    if next.isEmpty then seen else upTo step n (Places.union seen next) next

/-- The places where a match of the pattern can end that begins at one of the given places. A text of
`n` characters has `n + 1` places, so that many steps reach all that repetition without limit can. -/
def Expr.reach (text : Array Char) : Expr → Places → Places
  | .empty, s => s
  | .chars k, s => s.filterMap fun i => if charAfter text i k.holds then some (i + 1) else none
  | .look a, s => s.filter fun i => a.holds text i
  | .seq p q, s => q.reach text (p.reach text s)
  | .alt p q, s => Places.union (p.reach text s) (q.reach text s)
  | .rep p least most, s =>
    let start := times (p.reach text) least s
    upTo (p.reach text) (most.elim (text.size + 1) (· - least)) start start

/-- Does the pattern match somewhere in the text? -/
def Expr.matches (p : Expr) (text : String) : Bool :=
  let cs := text.toList.toArray
  !(p.reach cs (List.range (cs.size + 1))).isEmpty

end Stencil.Pattern
