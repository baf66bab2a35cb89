import Stencil.Pattern.Parser
import Stencil.Text.Search
import Stencil.World

/-!
# Conditions

A condition compares a left operand with a right text, or tests the left operand for a type that the
right text names. The left operand may be the fault in which its own evaluation ended. `branch` runs
one of two deferred branches by the outcome.
-/

namespace Stencil

inductive Operand where
  | text (s : String)
  | failed (e : Fault)
  deriving DecidableEq, Repr

def Operand.toText : Operand → String
  | .text s => s
  | .failed e => e.display

/-! ### Comparisons -/

inductive Comparison where
  | eq
  | ne
  | lt
  | le
  | gt
  | ge
  | isIn
  | isType
  deriving DecidableEq, Repr

def Comparison.ofName? : String → Option Comparison
  | "eq" => some .eq
  | "ne" => some .ne
  | "lt" => some .lt
  | "le" => some .le
  | "gt" => some .gt
  | "ge" => some .ge
  | "in" => some .isIn
  | "is" => some .isType
  | _ => none

/-! ### Types -/

inductive TypeTest where
  /-- Exactly one word. -/
  | word
  /-- Alphabetic characters, at least one. -/
  | letter
  /-- An integer of 64 bits. -/
  | number
  /-- A decimal. -/
  | decimal
  /-- A failed evaluation. -/
  | error
  /-- A text that a pattern matches. -/
  | pattern (p : Pattern.Expr)

namespace TypeTest

def betweenSlashes? (cs : List Char) : Option (List Char) :=
  match cs with
  | '/' :: rest => if rest.getLast? = some '/' then some rest.dropLast else none
  | _ => none

/-- The pattern for texts that begin as a pattern says. -/
def anchored (body : List Char) : String :=
  String.ofList ("^(?:".toList ++ body ++ [')'])

/-- The type that a name stands for; a pattern stands between slashes. The size of patterns is limited by what
`fits` the engine that compiles them. -/
def parse (fits : String → Bool) (name : String) : Except Fault TypeTest :=
  match name with
  | "word" => .ok .word
  | "letter" => .ok .letter
  | "number" => .ok .number
  | "decimal" => .ok .decimal
  | "error" => .ok .error
  | _ =>
    match betweenSlashes? name.toList with
    | none => .error { kind := .invalidTypeName, message := "invalid type name '" ++ name ++ "'" }
    | some body =>
      match Pattern.parse? fits (anchored body) with
      | some p => .ok (.pattern p)
      | none => .error ((Fault.ofKind .invalidRegex).causedBy .pattern)

def holdsText (t : TypeTest) (s : String) : Bool :=
  match t with
  | .word => (Text.words s.toList).length == 1
  | .letter => !s.isEmpty && s.toList.all Unicode.isAlphabetic
  | .number => (Number.integer? s).isOk
  | .decimal => (Number.readNumeral (Text.trim s.toList)).isOk
  | .error => false
  | .pattern p => p.matches s

/-- Is the operand of this type? A failed operand is an error and nothing else. -/
def holds (t : TypeTest) : Operand → Bool
  | .text s => t.holdsText s
  | .failed _ => match t with
    | .error => true
    | _ => false

end TypeTest

/-! ### Deciding -/

def operandFault (message : String) : Fault :=
  { kind := .invalidArgument, message }

def compareInts (left : Operand) (right : String) (holds : Int → Int → Bool) : Except Fault Bool := do
  let message := "args must be numbers"
  let a ← match left with
    | .text s => intArg s .invalidArgument message
    | .failed _ => .error (operandFault message)
  let b ← intArg right .invalidArgument message
  return holds a b

/-- Is the left text in the right one? With a comma the right text is a list, else it is searched. -/
def textIsIn (left right : List Char) : Bool :=
  if right.contains ',' then (Text.splitAt ',' right).contains left else Text.occursIn left right

/-- Decides a comparison. Patterns may be of any size. -/
def Comparison.decide (c : Comparison) (left : Operand) (right : String) : Except Fault Bool :=
  match c with
  | .eq => .ok (left.toText == right)
  | .ne => .ok (left.toText != right)
  | .lt => compareInts left right (· < ·)
  | .le => compareInts left right (· ≤ ·)
  | .gt => compareInts left right (· > ·)
  | .ge => compareInts left right (· ≥ ·)
  | .isIn =>
    match left with
    | .text s => .ok (textIsIn s.toList right.toList)
    | .failed _ => .error (operandFault "args do not support in")
  | .isType => (TypeTest.parse (fun _ => true) right).map (·.holds left)

def decideCondition (left : Operand) (name : String) (right : String) : Except Fault Bool :=
  match Comparison.ofName? name with
  | some c => c.decide left right
  | none => .error { kind := .invalidOperator, message := "invalid op '" ++ name ++ "'" }

/-- A part of a template whose evaluation is put off; it is told the scope to run in. -/
abbrev Deferred (σ : Type) := Scope → Act σ String

/-- Decides a condition and runs one branch, in the given scope. Without a second branch a condition
that does not hold gives nothing. -/
def branch {σ : Type} (scope : Scope) (left : Operand) (name right : String)
    (onTrue : Deferred σ) (onFalse : Option (Deferred σ)) : Act σ String := do
  let holds ← (Act.ofExcept (decideCondition left name right)).attributed "when"
  if holds then onTrue scope
  else match onFalse with
    | some run => run scope
    | none => return ""

end Stencil
