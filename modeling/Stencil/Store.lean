import Stencil.Member
import Stencil.NameMap

/-!
# Scopes and their variables

A store holds scopes. A Root scope owns a table of variables, the directory of a guild and a flag; a Sub scope views
another scope and keeps nothing of its own, so that all scopes under one Root see the same variables.
Scopes are never removed.
-/

namespace Stencil

/-! ### Tables -/

abbrev Table := NameMap Value

/-- Gives a variable a value; no value and empty text remove it. -/
def Table.set (t : Table) (name : String) (value : Option Value) : Table :=
  match value with
  | some v => if v.isEmpty then t.erase name else t.insert name v
  | none => t.erase name

/-! ### Scopes -/

structure Scope where
  index : Nat
  deriving DecidableEq, Repr

/-- Root scopes own their variables, Sub scopes view those of another scope. -/
inductive Scope.Kind where
  | root
  | sub
  deriving DecidableEq, Repr

/-- What a Root owns. `swapped` is the order in which `rep` takes its last two arguments. -/
structure Root where
  table : Table := .empty
  guild : Directory
  swapped : Bool := false

/-- A place of the store. A Sub knows the scope it views and the Root behind it. -/
inductive Frame where
  | root (r : Root)
  | sub (base root : Scope)

/-- All scopes, in the order of their creation. -/
structure Store where
  frames : Array Frame := #[]

/-- The variable that sets the order of `rep` instead of being bound. -/
def replaceOrderVariable : String := "newrep"

namespace Store

def empty : Store := {}

def frame? (s : Store) (scope : Scope) : Option Frame :=
  s.frames[scope.index]?

def holds (s : Store) (scope : Scope) : Bool :=
  scope.index < s.frames.size

def next (s : Store) : Scope :=
  ⟨s.frames.size⟩

/-- The Root behind a scope, as the scope remembers it. -/
def root (s : Store) (scope : Scope) : Scope :=
  match s.frame? scope with
  | some (.sub _ root) => root
  | _ => scope

/-- The scope that a scope views; a Root is its own base. -/
def base (s : Store) (scope : Scope) : Scope :=
  match s.frame? scope with
  | some (.sub base _) => base
  | _ => scope

def kind (s : Store) (scope : Scope) : Scope.Kind :=
  match s.frame? scope with
  | some (.sub _ _) => .sub
  | _ => .root

/-- Goes from base to base, at most `steps` times, until a Root is reached. -/
def climb (s : Store) : (steps : Nat) → Scope → Scope
  | 0, scope => scope
  | k + 1, scope =>
    match s.frame? scope with
    | some (.sub base _) => climb s k base
    | _ => scope

/-- The Root behind a scope, found by going from base to base. Every base is older than the scope that
views it, so the place of the scope bounds the number of steps. -/
def resolveRoot (s : Store) (scope : Scope) : Scope :=
  s.climb scope.index scope

def addRoot (s : Store) (guild : Directory) : Scope × Store :=
  (s.next, { s with frames := s.frames.push (.root { guild }) })

def addSub (s : Store) (parent : Scope) : Scope × Store :=
  (s.next, { s with frames := s.frames.push (.sub parent (s.root parent)) })

/-! ### Variables -/

/-- What the Root behind a scope owns. -/
def rootOf (s : Store) (scope : Scope) : Root :=
  match s.frame? (s.root scope) with
  | some (.root r) => r
  | _ => { guild := {} }

def modifyRoot (s : Store) (scope : Scope) (f : Root → Root) : Store :=
  { s with frames := s.frames.modify (s.root scope).index fun
      | .root r => .root (f r)
      | frame => frame }

def table (s : Store) (scope : Scope) : Table :=
  (s.rootOf scope).table

def get? (s : Store) (scope : Scope) (name : String) : Option Value :=
  (s.table scope).get? name

/-- Gives a variable a value, as `Table.set` does. The variable for the order of `rep` sets the flag
and never reaches the table. -/
def set (s : Store) (scope : Scope) (name : String) (value : Option Value) : Store :=
  s.modifyRoot scope fun r =>
    if name = replaceOrderVariable then
      { r with swapped := value.any fun v => !v.isEmpty }
    else
      { r with table := Table.set r.table name value }

def setText (s : Store) (scope : Scope) (name text : String) : Store :=
  s.set scope name (some (.text text))

def swapped (s : Store) (scope : Scope) : Bool :=
  (s.rootOf scope).swapped

def guild (s : Store) (scope : Scope) : Directory :=
  (s.rootOf scope).guild

end Store

end Stencil
