import Stencil.Library.Wording
import Stencil.Span
import Stencil.Time.Template

/-!
# Builtins on chance and time
-/

namespace Stencil.Library

/-- `choose(options...)`: one option, all of equal share. -/
def choose : Run := fun _ args => do
  let options := args.positional
  if options.isEmpty then
    Act.raise (Arguments.invalid "no options")
  else
    let d ← Action.draw
    return .text (options[d.index options.length]?.getD "")

/-! ### Weights -/

/-- Options with the weights that follow them. -/
def pairs : List String → List (String × String)
  | option :: weight :: rest => (option, weight) :: pairs rest
  | _ => []

def readWeights : List (String × String) → Except Fault (List (String × Float))
  | [] => .ok []
  | (option, weight) :: rest => do
    let w ← floatArg weight .nonFloatArgument "invalid weight"
    return (option, w) :: (← readWeights rest)

def runningSums (sum : Float) : List Float → List Float
  | [] => []
  | w :: rest => (sum + w) :: runningSums (sum + w) rest

def greatestFraction : Float := Draw.fraction 18446744073709551615

/-- What a fraction is multiplied by to give a point below the total. It is the total itself, or the
number just before where the greatest fraction of a tiny total would be rounded up to the total. -/
def pointScale (total : Float) : Float :=
  if total * greatestFraction < total then total else Float.ofBits (total.toBits - 1)

/-- The index of the first sum beyond a point, or of the last one. -/
def indexBeyond (x : Float) : List Float → Nat
  | [] => 0
  | [_] => 0
  | s :: rest => if s ≤ x then indexBeyond x rest + 1 else 0

/-- Checks weights and gives their sums. All must be finite, none negative and not all zero. -/
def weightSums (weights : List Float) : Except Fault (List Float) :=
  let sums := runningSums 0 weights
  let fault := Arguments.invalid "invalid weight"
  let total := sums.getLast?.getD 0
  if !(weights.all Float.isFinite && total.isFinite) then .error fault
  else if weights.any (· < 0) then .error (fault.causedBy (.weights .negative))
  else if total == 0 then .error (fault.causedBy (.weights .allZero))
  else .ok sums

/-- `wchoose(option, weight, option, weight, ...)`: one option, by weight. -/
def wchoose : Run := fun _ args => do
  if args.positional.isEmpty then
    Act.raise (Arguments.invalid "no options")
  else if args.positional.length % 2 != 0 then
    Act.raise (Arguments.invalid "mismatched weightings")
  else
    let options ← Act.ofExcept (readWeights (pairs args.positional))
    let sums ← Act.ofExcept (weightSums (options.map (·.2)))
    let d ← Action.draw
    let x := d.fraction * pointScale (sums.getLast?.getD 0)
    return .text ((options[indexBeyond x sums]?.map (·.1)).getD "")

/-! ### Numbers -/

def numBound (args : Arguments) (index : Nat) (name : String) (default : Int) : Except Fault Int :=
  match args.get? index name with
  | some text => intArg text .invalidArguments "invalid args"
  | none => .ok default

/-- The number of values of a span, by the lengths of the span and of a step, if it fits 64 bits. A span that
points away from its end has none, and to a zero step there is no number. -/
def valueCount? (span : Span) : Option Int :=
  if span.step = 0 then none
  else
    let length := span.stop - span.start
    if decide (0 < length) == decide (0 < span.step) && length ≠ 0 then
      Number.signed64.fit? (Int.tdiv (length.natAbs + span.step.natAbs - 1) span.step.natAbs)
    else some 0

def drawCount? (span : Span) : Option Nat :=
  ((valueCount? span).filter (0 < ·)).map Int.toNat

/-- `num(min=0, max=100, step=1)`: a value of a span. -/
def num : Run := fun _ args => do
  let start ← Act.ofExcept (numBound args 0 "min" 0)
  let stop ← Act.ofExcept (numBound args 1 "max" 100)
  let step ← Act.ofExcept (numBound args 2 "step" 1)
  match drawCount? { start, stop, step } with
  | some count =>
    let d ← Action.draw
    return .text (toString (start + (d.index count : Int) * step))
  | none => Act.raise (Fault.ofKind .invalidRange)

/-! ### Time -/

def defaultTemplate : String := "%H:%M"

def hoursArg (text : Option String) : Except Fault Int :=
  match text with
  | some raw => intArgOr raw 0 .invalidOffset "invalid offset"
  | none => .ok 0

/-- `time(offset?, template?)`: the current time, shifted by hours. -/
def time : Run := fun _ args => do
  Act.ofExcept (args.atMost 2)
  let hours ← Act.ofExcept (hoursArg (args.get? 0 "offset"))
  let given := (args.get? 1 "template").getD ""
  let template := if given.isEmpty then defaultTemplate else given
  let now ← Action.now
  match shiftedTime now hours template with
  | .ok text => return .text text
  | .error e => throw e

end Stencil.Library
