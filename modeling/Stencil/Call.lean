import Stencil.World

/-!
# Calls

A builtin declares how it may be called. `dispatch` is the one place where that is enforced: the way
of the call is checked before the builtin runs, and its value is stored after it has succeeded.
-/

namespace Stencil

/-! ### Capabilities -/

/-- How a builtin whose value can be stored treats a call with parentheses: a strict one refuses it. -/
inductive Storage where
  | lenient
  | strict
  deriving DecidableEq, Repr

structure Capabilities where
  bare : Bool := false
  storage : Option Storage := none
  deriving DecidableEq, Repr

/-! ### Call sites -/

/-- Where and how a builtin is called: the scope, whether by bare name, and the variable that its
value should go to. -/
structure CallSite where
  scope : Scope
  bare : Bool := false
  into : Option String := none
  deriving DecidableEq, Repr

structure Arguments where
  positional : List String := []
  named : NameMap String := .empty
  deriving DecidableEq, Repr

namespace Arguments

/-- The argument at a position, else the one under a name. -/
def get? (args : Arguments) (index : Nat) (name : String) : Option String :=
  args.positional[index]?.or (args.named.get? name)

def invalid (message : String) : Fault :=
  { kind := .invalidArguments, message }

def require (args : Arguments) (index : Nat) (name : String) : Except Fault String :=
  match args.get? index name with
  | some text => .ok text
  | none => .error (invalid ("missing " ++ name))

def atMost (args : Arguments) (most : Nat) : Except Fault Unit :=
  if most < args.positional.length then .error (invalid "too many args") else .ok ()

end Arguments

/-! ### Dispatch -/

def CallSite.check (site : CallSite) (caps : Capabilities) : Except Fault Unit :=
  if site.bare && !caps.bare then .error (Fault.ofKind .notCallableAsVariable)
  else if site.into.isSome && caps.storage.isNone then .error (Fault.ofKind .notStorable)
  else if caps.storage == some .strict && !site.bare then .error (Fault.ofKind .typeClash)
  else .ok ()

/-- Stores a value in the variable of the call and gives nothing, or gives the value's text. -/
def CallSite.emit (site : CallSite) (caps : Capabilities) (value : Value) : Action String :=
  match caps.storage, site.into with
  | some _, some name => do
    Action.update (·.set site.scope name (some value))
    return ""
  | _, _ => return value.toText

/-- The variable that still waits for a value after a call: a value given takes it, even if nothing
was stored. -/
def CallSite.pending {α : Type} (site : CallSite) : Except Failure α → Option String
  | .ok _ => none
  | .error _ => site.into

/-- Runs a builtin under its capabilities. Faults of the check and of the builtin name it. -/
def dispatch (name : String) (caps : Capabilities) (site : CallSite) (body : Action Value) :
    Action String := do
  (Act.ofExcept (site.check caps)).attributed name
  let value ← body.attributed name
  site.emit caps value

/-! ### Builtins -/

/-- How a builtin is run: on evaluated arguments, or with branches or a body put off. -/
inductive Builtin.Kind where
  | simple (run : CallSite → Arguments → Action Value)
  | conditional
  | iteration

structure Builtin where
  name : String
  caps : Capabilities
  kind : Builtin.Kind

abbrev Registry := NameMap Builtin

namespace Registry

def register (r : Registry) (name : String) (caps : Capabilities) (kind : Builtin.Kind) : Registry :=
  r.insert name { name, caps, kind }

def unknown (name : String) : Fault :=
  { kind := .unknownFunction, message := "unknown function '" ++ name ++ "'" }

/-- Calls a builtin on evaluated arguments. Those that need something put off cannot be called so. -/
def call (r : Registry) (name : String) (site : CallSite) (args : Arguments) : Action String :=
  match r.get? name with
  | none => Act.raise (unknown name)
  | some b =>
    match b.kind with
    | .simple run => dispatch b.name b.caps site (run site args)
    | _ => do
      (Act.ofExcept (site.check b.caps)).attributed b.name
      Act.raise ((Arguments.invalid "needs deferred bodies").attributed b.name)

end Registry

end Stencil
