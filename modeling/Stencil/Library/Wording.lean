import Stencil.Arithmetic
import Stencil.Call
import Stencil.Text.Percent
import Stencil.Text.Search
import Stencil.Text.Slice
import Stencil.Unicode.Case

/-!
# Builtins on text

Case, length, slices, percent-encoding, replacing, swallowing, and arithmetic.
-/

namespace Stencil.Library

abbrev Run := CallSite → Arguments → Action Value

def pureRun (f : Arguments → Except Fault String) : Run := fun _ args =>
  Act.ofExcept ((f args).map .text)

def onContent (f : String → String) : Run :=
  pureRun fun args => (args.require 0 "content").map f

def upper : Run := onContent Unicode.toUpper

def lower : Run := onContent Unicode.toLower

def title : Run := onContent Unicode.toTitle

/-- `len(content)`: the number of characters. -/
def len : Run := onContent fun content => toString content.length

def sliceBound (cs : List Char) (default length : Nat) : Except Fault Nat :=
  if Text.isBlankText cs then .ok default
  else (intArg (String.ofList cs) .invalidArguments "non int index").map (Text.clamped · length)

/-- The part of a text that a slice specification asks for: one character by its index, or the
characters from a begin to an end with a step. -/
def sliceOf (spec : String) (cs : List Char) : Except Fault (List Char) :=
  match Text.splitAt ',' spec.toList with
  | [index] => do
    let i ← intArg (String.ofList index) .invalidArguments "non int index"
    match (Text.position? i cs.length).bind fun place => cs[place]? with
    | some c => return [c]
    | none => .error (Fault.ofKind .badIndex)
  | [_, _] => .error (Arguments.invalid "bad content")
  | [first, last, step] => do
    let stride ← intArgOr (String.ofList step) 1 .invalidArguments "non int index"
    if stride ≤ 0 then .error (Arguments.invalid "zero step")
    else
      let begin ← sliceBound first 0 cs.length
      let stop ← sliceBound last cs.length cs.length
      return Text.sliced begin stop stride.toNat cs
  | _ => .error (Arguments.invalid "too many nums")

def slice : Run := pureRun fun args => do
  let spec ← args.require 0 "spec"
  let content ← args.require 1 "content"
  return String.ofList (← sliceOf spec content.toList)

/-- `parse(content)`: percent-encoding. -/
def parse : Run := pureRun fun args =>
  let content := (args.get? 0 "content").getD ""
  if content.isEmpty then .error (Fault.ofKind .noContent) else .ok (Text.percentEncode content)

/-- `rep(needle, haystack, replacement)`, or with the last two swapped when the scope says so. -/
def rep : Run := fun site args => do
  match args.positional with
  | [needle, first, second] =>
    let swapped := (← Action.store).swapped site.scope
    let (haystack, replacement) := if swapped then (second, first) else (first, second)
    return .text (Text.replaced needle replacement haystack)
  | _ => Act.raise (Arguments.invalid "rep takes 3 args")

def void : Run := pureRun fun args => do
  args.atMost 1
  return ""

def math : Run := pureRun fun args => do
  let name ← args.require 0 "op"
  match Arithmetic.Operator.ofName? name with
  | some op => op.apply (args.positional.drop 1)
  | none => .error { kind := .unknownOperator, message := "unknown op '" ++ name ++ "'" }

end Stencil.Library
