import Stencil.Render
import Stencil.Text.Quoted

/-!
# Sessions

A session is what a host keeps between renders: the world, the scopes it has made, the builtins and the
limits. Hosts number the scopes they make; those that a loop makes for itself have no number.
-/

namespace Stencil.Host

structure Session where
  world : World
  scopes : Array Scope
  renderer : Renderer

namespace Session

/-- A session with one Root over a guild, which has the number 0. -/
def start (guild : Guild) (renderer : Renderer) (supply : Supply) : Session :=
  let (scope, store) := Store.empty.addRoot guild.directory
  { world := { store, supply }, scopes := #[scope], renderer }

def store (s : Session) : Store :=
  s.world.store

def scope? (s : Session) (number : Nat) : Option Scope :=
  s.scopes[number]?

def number? (s : Session) (scope : Scope) : Option Nat :=
  s.scopes.findIdx? (· == scope)

/-! ### Scopes -/

/-- The number of a scope just made, and the session that knows it. -/
def numbered (s : Session) (made : Scope × Store) : Nat × Session :=
  (s.scopes.size,
    { s with scopes := s.scopes.push made.1, world := { s.world with store := made.2 } })

def addRoot (s : Session) (guild : Guild) : Nat × Session :=
  s.numbered (s.store.addRoot guild.directory)

def addSub (s : Session) (parent : Scope) : Nat × Session :=
  s.numbered (s.store.addSub parent)

/-! ### Calls and renders -/

def run {α : Type} (s : Session) (x : Action α) : Except Failure α × Session :=
  match x s.world with
  | .ok a w => (.ok a, { s with world := w })
  | .error e w => (.error e, { s with world := w })

def set (s : Session) (scope : Scope) (name : String) (value : Option Value) : Session :=
  { s with world := { s.world with store := s.store.set scope name value } }

def register (s : Session) (name : String) (caps : Capabilities) (kind : Builtin.Kind) : Session :=
  { s with renderer.registry := s.renderer.registry.register name caps kind }

def call (s : Session) (name : String) (site : CallSite) (args : Arguments) :
    Except Failure String × Session :=
  s.run (s.renderer.registry.call name site args)

def render (s : Session) (scope : Scope) (node : Node) : Except Failure Rendered × Session :=
  let (result, world) := s.renderer.render scope node s.world
  (result, { s with world })

/-- Renders under other limits, which stay. -/
def withLimits (s : Session) (limits : Limits) : Session :=
  { s with renderer.limits := limits }

end Session

/-! ### Parts put off by a host -/

/-- A branch or body that a host hands over: a fault to raise, or a template to render on its own. -/
inductive Part where
  | raise (e : Fault)
  | node (n : Node)

structure Watched (ν : Type) where
  world : World
  notes : Array ν := #[]

instance {ν : Type} : HasStore (Watched ν) where
  store w := w.world.store
  update f w := { w with world := HasStore.update f w.world }

/-- Runs a part. Spent gas ends only the render of the part, and is a fault of what asked for it. -/
def Part.run (r : Renderer) (part : Part) (scope : Scope) : Action String := fun w =>
  match part with
  | .raise e => .error (.fault e) w
  | .node n =>
    match r.render scope n w with
    | (.ok done, after) => .ok done.text after
    | (.error e, after) => .error (e.toFault?.elim e .fault) after

/-- A part that leaves a note on the scope and the store it starts in. -/
def watching {ν : Type} (note : Scope → Store → ν) (run : Scope → Store → Action String) :
    Deferred (Watched ν) := fun scope w =>
  let noted := { w with notes := w.notes.push (note scope w.world.store) }
  match run scope w.world.store w.world with
  | .ok text world => .ok text { noted with world }
  | .error e world => .error e { noted with world }

inductive Side where
  | onTrue
  | onFalse
  deriving DecidableEq, Repr

/-- A note on a branch: which one, and whether it ran in the scope of the condition. -/
structure BranchNote where
  side : Side
  inScope : Bool
  deriving DecidableEq, Repr

/-- A note on a loop's body: what `iter` was, whether the scope views that of the loop, and its kind. -/
structure BodyNote where
  value : Option String
  inside : Bool
  kind : Scope.Kind
  deriving DecidableEq, Repr

def loopValue? (scope : Scope) (s : Store) : Option String :=
  (s.get? scope loopVariable).map Value.toText

/-- A loop to be pulled from by a host. Where `iter` is `failAt`, `fail` stands in for the body. -/
structure LoopPlan where
  spec : String
  body : Part
  pulls : Nat
  failAt : Option String := none
  fail : Option Part := none

def LoopPlan.part (plan : LoopPlan) (value : Option String) : Part :=
  if plan.failAt.isSome && value == plan.failAt then plan.fail.getD plan.body else plan.body

/-- What is pulled from a loop; after a failure and after the end there is nothing. -/
structure Pulled where
  elements : List (Option (Except Failure String))
  ownScope : Bool

/-- Pulls from a loop a number of times, then drops it. -/
def pullTimes {σ : Type} [HasStore σ] (body : Deferred σ) :
    (pulls : Nat) → Loop → σ → List (Option (Except Failure String)) × σ
  | 0, l, s => ([], l.restore s)
  | k + 1, l, s =>
    let ((element, m), t) := l.pull body s
    let (rest, u) := pullTimes body k m t
    (element :: rest, u)

namespace Session

def watch {ν α : Type} (s : Session) (x : Act (Watched ν) α) :
    Except Failure α × List ν × Session :=
  match x { world := s.world } with
  | .ok a w => (.ok a, w.notes.toList, { s with world := w.world })
  | .error e w => (.error e, w.notes.toList, { s with world := w.world })

def branch (s : Session) (scope : Scope) (left : Operand) (name right : String)
    (onTrue : Part) (onFalse : Option Part) : Except Failure String × List BranchNote × Session :=
  let deferred (side : Side) (part : Part) : Deferred (Watched BranchNote) :=
    watching (fun place _ => { side, inScope := place == scope })
      (fun place _ => part.run s.renderer place)
  s.watch (Stencil.branch scope left name right (deferred .onTrue onTrue)
    (onFalse.map (deferred .onFalse)))

def loop (s : Session) (scope : Scope) (plan : LoopPlan) :
    Except Failure Pulled × List BodyNote × Session :=
  let body : Deferred (Watched BodyNote) :=
    watching
      (fun place store =>
        { value := loopValue? place store, inside := store.base place == scope, kind := store.kind place })
      (fun place store => (plan.part (loopValue? place store)).run s.renderer place)
  s.watch do
    let l ← Loop.begin scope plan.spec
    fun w =>
      let (elements, after) := pullTimes body plan.pulls l w
      .ok { elements, ownScope := l.scope != scope } after

/-! ### Sampling -/

/-- Draws spread evenly, `count` of them in turn, and a clock that stands still. -/
def evenSupply (count : Nat) (moment : Moment) : Supply :=
  { draw := fun j => UInt64.ofNat (j % count * drawCount / count), reading := fun _ => moment }

/-- The texts that come out of calling a builtin again and again, in order and each once. A fault counts
as it shows. Nothing comes of a call that cannot be told to a host. -/
def outcomes (s : Session) (name : String) (site : CallSite) (args : Arguments) :
    (calls : Nat) → NameMap Unit → Option (List String)
  | 0, seen => some seen.names
  | k + 1, seen =>
    match s.call name site args with
    | (.ok text, t) => outcomes t name site args k (seen.insert text ())
    | (.error e, t) =>
      match e.toFault? with
      | some fault => outcomes t name site args k (seen.insert fault.display ())
      | none => none

end Session

/-! ### Descriptions -/

def kindName : Builtin.Kind → String
  | .simple _ => "simple"
  | .conditional => "conditional"
  | .iteration => "iteration"

def storageText : Option Storage → String
  | none => "None"
  | some .lenient => "Some(Lenient)"
  | some .strict => "Some(Strict)"

/-- A one-line description of a builtin, for logs. -/
def describe (b : Builtin) : String :=
  "BuiltinSpec \x7b name: " ++ Text.quoted b.name ++ ", capabilities: Capabilities \x7b "
    ++ "global_variable_callable: " ++ (if b.caps.bare then "true" else "false")
    ++ ", result_storage: " ++ storageText b.caps.storage ++ " \x7d, kind: \"" ++ kindName b.kind
    ++ "\" \x7d"

end Stencil.Host
