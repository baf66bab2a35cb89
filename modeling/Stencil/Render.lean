import Stencil.Limits
import Stencil.Loop
import Stencil.Call
import Stencil.Node

/-!
# Rendering

A render walks a template in a scope. Every node costs one unit of gas. A call that fails shows its
fault in the place of its output, and what surrounds it goes on; only spent gas ends the whole render.
Loops stop taking elements when the loop output of the render has reached its limit.
-/

namespace Stencil

/-- What a render has used and found so far. `depth` counts the loops under way and `looped` the bytes
of finished elements of outermost loops. -/
structure Progress where
  world : World
  gas : Nat := 0
  reports : Array Report := #[]
  depth : Nat := 0
  looped : Nat := 0

instance : HasStore Progress where
  store p := p.world.store
  update f p := { p with world := HasStore.update f p.world }

abbrev Step := Act Progress

structure Rendered where
  text : String
  reports : List Report
  gas : Nat
  deriving DecidableEq, Repr

structure Renderer where
  registry : Registry
  limits : Limits := {}

namespace Step

def ofAction {α : Type} (x : Action α) : Step α := fun p =>
  match x p.world with
  | .ok a w => .ok a { p with world := w }
  | .error e w => .error e { p with world := w }

def tick (limits : Limits) : Step Unit := fun p =>
  let used := p.gas + 1
  let q := { p with gas := used }
  if limits.gas.toNat < used then .error .exhausted q else .ok () q

/-- Puts a fault in the place of the output and reports it. -/
def inlined (x : Step String) : Step String := fun p =>
  match x p with
  | .error (.fault e) q => .ok e.display { q with reports := q.reports.push e.report }
  | r => r

/-- The outcome as an operand: a fault is kept, not shown. -/
def operand (x : Step String) : Step Operand := fun p =>
  match x p with
  | .ok s q => .ok (.text s) q
  | .error (.fault e) q => .ok (.failed e) q
  | .error f q => .error f q

/-! ### Loops -/

/-- Has the loop output reached its limit? Elements of an outermost loop are counted when they are
finished; those of an inner loop count while they are pending. -/
def limitReached (limits : Limits) (p : Progress) (pending : String) : Bool :=
  match limits.output with
  | none => false
  | some most =>
    most.toNat ≤ (if p.depth = 1 then p.looped else p.looped + pending.utf8ByteSize)

def countElement (outermost : Bool) (element : String) (p : Progress) : Progress :=
  if outermost then { p with looped := p.looped + element.utf8ByteSize } else p

/-- Takes elements of a loop until there are no more or the limit is reached, at most `fuel` of them.
`out` are the elements so far. -/
def drain (limits : Limits) (outermost : Bool) (body : Deferred Progress) :
    (fuel : Nat) → Loop → (out : String) → Step String
  | 0, l, out => fun p => .ok out (l.restore p)
  | n + 1, l, out => fun p =>
    if limitReached limits p out then .ok out (l.restore p)
    else
      match l.pull body p with
      | ((none, _), q) => .ok out q
      | ((some (.error e), _), q) => .error e q
      | ((some (.ok element), m), q) =>
        drain limits outermost body n m (out ++ element) (countElement outermost element q)

def deeper {α : Type} (x : Step α) : Step α := fun p =>
  match x { p with depth := p.depth + 1 } with
  | .ok a q => .ok a { q with depth := q.depth - 1 }
  | .error e q => .error e { q with depth := q.depth - 1 }

/-- Runs a loop over a written span. One element more is asked for than the span has values, which
finds the end. -/
def loop (limits : Limits) (scope : Scope) (spec : String) (body : Deferred Progress) :
    Step String := do
  let l ← Loop.begin scope spec
  let outermost := (← get).depth == 0
  deeper (drain limits outermost body (l.cursor.size + 1) l "")

end Step

namespace Renderer

def bareName (r : Renderer) (scope : Scope) (name : String) : Step String := do
  match (← get).world.store.get? scope name with
  | some value => return value.toText
  | none =>
    if r.registry.contains name then
      Step.ofAction (r.registry.call name { scope, bare := true } {})
    else
      Act.raise { kind := .undefinedVariable, message := "undefined variable '" ++ name ++ "'" }

/-- Checks the way in which a builtin with something put off is called. -/
def checkSite (caps : Capabilities) (scope : Scope) (into : Option String) (name : String) :
    Step Unit :=
  (Act.ofExcept (CallSite.check { scope, into } caps)).attributed name

def shapeFault {α : Type} (name message : String) : Step α :=
  Act.raise ((Arguments.invalid message).attributed name)

mutual

/-- Evaluates a node; a fault of the node itself is not shown in its place yet. -/
def eval (r : Renderer) (scope : Scope) : Node → Step String
  | .text s => do
    Step.tick r.limits
    return s
  | .var name => do
    Step.tick r.limits
    r.bareName scope name
  | .concat children => do
    Step.tick r.limits
    evalConcat r scope "" children
  | .call name args named into => do
    Step.tick r.limits
    match r.registry.get? name with
    | none => Act.raise (Registry.unknown name)
    | some b =>
      match b.kind with
      | .simple _ => do
        let positional ← evalEach r scope args
        let keyword ← evalNamed r scope .empty named
        Step.ofAction (r.registry.call b.name { scope, into } { positional, named := keyword })
      | .conditional => evalWhen r scope b.caps into args
      | .iteration => evalLoop r scope b.caps into args

/-- The output of nodes one after another, following `out`. -/
def evalConcat (r : Renderer) (scope : Scope) (out : String) : List Node → Step String
  | [] => return out
  | node :: rest => do
    let text ← Step.inlined (eval r scope node)
    evalConcat r scope (out ++ text) rest

def evalEach (r : Renderer) (scope : Scope) : List Node → Step (List String)
  | [] => return []
  | node :: rest => do
    let text ← Step.inlined (eval r scope node)
    return text :: (← evalEach r scope rest)

/-- The outputs of named nodes; the last of several with one name counts. -/
def evalNamed (r : Renderer) (scope : Scope) (done : NameMap String) :
    List (String × Node) → Step (NameMap String)
  | [] => return done
  | (name, node) :: rest => do
    let text ← Step.inlined (eval r scope node)
    evalNamed r scope (done.insert name text) rest

def evalWhen (r : Renderer) (scope : Scope) (caps : Capabilities) (into : Option String) :
    List Node → Step String
  | [left, name, right, onTrue] => do
    checkSite caps scope into "when"
    let a ← Step.operand (eval r scope left)
    let op ← Step.inlined (eval r scope name)
    let b ← Step.inlined (eval r scope right)
    branch scope a op b (fun s => Step.inlined (eval r s onTrue)) none
  | [left, name, right, onTrue, onFalse] => do
    checkSite caps scope into "when"
    let a ← Step.operand (eval r scope left)
    let op ← Step.inlined (eval r scope name)
    let b ← Step.inlined (eval r scope right)
    branch scope a op b (fun s => Step.inlined (eval r s onTrue))
      (some fun s => Step.inlined (eval r s onFalse))
  | args => shapeFault "when" (if args.length < 4 then "missing branch" else "too many args")

def evalLoop (r : Renderer) (scope : Scope) (caps : Capabilities) (into : Option String) :
    List Node → Step String
  | [range, body] => do
    checkSite caps scope into "loop"
    let spec ← Step.inlined (eval r scope range)
    Step.loop r.limits scope spec fun s => Step.inlined (eval r s body)
  | _ => shapeFault "loop" "needs range and body"

end

/-- Renders a template in a scope. It fails only by spent gas or by a time that cannot be printed. The
world is as the render left it, in either case. -/
def render (r : Renderer) (scope : Scope) (node : Node) (w : World) :
    Except Failure Rendered × World :=
  match Step.inlined (r.eval scope node) { world := w } with
  | .ok text p => (.ok { text, reports := p.reports.toList, gas := p.gas }, p.world)
  | .error e p => (.error e, p.world)

end Renderer

end Stencil
