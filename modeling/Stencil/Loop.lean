import Stencil.Condition
import Stencil.Span

/-!
# Loops

A loop runs its body once for every value of a span, each time that an element is pulled. It has one
Sub scope of its own, in which `iter` is the current value. Since that scope shares the variables of
its Root, the loop remembers what `iter` was and puts it back when it ends, fails or is dropped.
-/

namespace Stencil

def loopVariable : String := "iter"

/-- A loop under way. `saved` is what `iter` was before, until it is put back. -/
structure Loop where
  parent : Scope
  scope : Scope
  cursor : Cursor
  saved : Option (Option Value)
  deriving DecidableEq, Repr

namespace Loop

variable {σ : Type} [HasStore σ]

/-- Begins a loop over a span: its scope is added and nothing runs. -/
def start (parent : Scope) (span : Span) (s : σ) : Loop × σ :=
  let scope := (HasStore.store s).next
  let saved := (HasStore.store s).get? parent loopVariable
  ({ parent, scope, cursor := span.cursor, saved := some saved },
    HasStore.update (fun store => (store.addSub parent).2) s)

/-- Begins a loop over a written span. A text that writes none is refused before anything changes. -/
def begin (parent : Scope) (spec : String) : Act σ Loop := do
  let span ← (Act.ofExcept (Span.parse spec)).attributed "loop"
  fun s =>
    let (l, t) := start parent span s
    .ok l t

/-- Puts `iter` back, unless that is done already. -/
def restore (l : Loop) (s : σ) : σ :=
  match l.saved with
  | some saved => HasStore.update (·.set l.parent loopVariable saved) s
  | none => s

def closed (l : Loop) : Loop :=
  { l with saved := none }

/-- Pulls one element: the next value is bound to `iter` and the body runs. There is none after the
last value, after a failure and after the loop was closed. -/
def pull (body : Deferred σ) (l : Loop) (s : σ) : (Option (Except Failure String) × Loop) × σ :=
  match l.saved with
  | none => ((none, l), s)
  | some _ =>
    match l.cursor.pull with
    | (none, cursor) => ((none, { l with cursor }.closed), l.restore s)
    | (some i, cursor) =>
      let bound := HasStore.update (·.setText l.scope loopVariable (toString i)) s
      match body l.scope bound with
      | .ok text t => ((some (.ok text), { l with cursor }), t)
      | .error e t => ((some (.error e), { l with cursor }.closed), l.restore t)

end Loop

end Stencil
