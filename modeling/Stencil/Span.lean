import Stencil.Fault
import Stencil.Text.Search

/-!
# Integer spans

A span `start, end, step` is the values `start`, `start + step`, … before `end`, counting down when
the step is negative. A cursor walks it, one value at a time, and stops where the next value would
leave 64 bits.
-/

namespace Stencil

/-- A half-open span of integers. -/
structure Span where
  start : Int
  stop : Int
  step : Int
  deriving DecidableEq, Repr

/-- A place in a span: the value to come, if any. -/
structure Cursor where
  next : Option Int
  stop : Int
  step : Int
  deriving DecidableEq, Repr

def Cursor.before (c : Cursor) (n : Int) : Bool :=
  if 0 < c.step then n < c.stop else c.stop < n

/-- The next value and the cursor after it. Once there is no value there never is one again. -/
def Cursor.pull (c : Cursor) : Option Int × Cursor :=
  match c.next with
  | none => (none, c)
  | some n =>
    if c.before n then
      let m := n + c.step
      (some n, { c with next := if Number.signed64.holds m then some m else none })
    else (none, { c with next := none })

/-- The number of values of a span, for a step other than zero. -/
def Span.size (s : Span) : Nat :=
  let length := if 0 < s.step then s.stop - s.start else s.start - s.stop
  (length.toNat + s.step.natAbs - 1) / s.step.natAbs

def Cursor.size (c : Cursor) : Nat :=
  match c.next with
  | some n => Span.size { start := n, stop := c.stop, step := c.step }
  | none => 0

def Cursor.take (c : Cursor) : (k : Nat) → List Int × Cursor
  | 0 => ([], c)
  | k + 1 =>
    match c.pull with
    | (none, d) => ([], d)
    | (some n, d) =>
      let (ns, e) := d.take k
      (n :: ns, e)

namespace Span

def cursor (s : Span) : Cursor :=
  { next := some s.start, stop := s.stop, step := s.step }

def values (s : Span) : List Int :=
  (s.cursor.take s.size).1

/-! ### Written spans -/

def invalid (message : String) : Fault :=
  { kind := .invalidArguments, message }

def bound (cs : List Char) : Except Fault Int :=
  intArg (String.ofList cs) .invalidArguments "non int index"

/-- An integer of a written span that may be left blank, and then is one. -/
def boundOrOne (cs : List Char) : Except Fault Int :=
  intArgOr (String.ofList cs) 1 .invalidArguments "non int index"

/-- The span with these limits, unless its step is zero. -/
def ofLimits (start stop step : Int) : Except Fault Span :=
  if step = 0 then .error (invalid "zero step") else .ok { start, stop, step }

/-- The span that a text writes: `end`, or `start,end,step` with a blank start or step meaning one. -/
def parse (spec : String) : Except Fault Span :=
  match Text.splitAt ',' spec.toList with
  | [stop] => do
    ofLimits 1 (← bound stop) 1
  | [start, stop, step] => do
    let first ← boundOrOne start
    let stride ← boundOrOne step
    ofLimits first (← bound stop) stride
  | _ => .error (invalid "invalid args")

end Span

end Stencil
