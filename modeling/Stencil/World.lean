import Stencil.Store
import Stencil.Time.Moment

/-!
# The world of an evaluation

What an evaluation reads and changes: the store of scopes, and a supply of random draws and clock
readings fixed in advance and used up in the order of the calls. Everything random or timed is thereby
a function of the world.
-/

namespace Stencil

abbrev Draw := UInt64

def drawCount : Nat := 18446744073709551616

/-- The index among `count` that a draw picks, all of equal share. -/
def Draw.index (d : Draw) (count : Nat) : Nat :=
  d.toNat * count / drawCount

/-- The point of the unit interval that a draw picks, of 52 binary places. -/
def Draw.fraction (d : Draw) : Float :=
  Number.nearest false (d.toNat / 4096) Number.leadingUnit

/-- Draws and clock readings, and how many of them are used up. -/
structure Supply where
  draw : Nat → Draw
  reading : Nat → Moment
  drawn : Nat := 0
  read : Nat := 0

structure World where
  store : Store
  supply : Supply

/-- States that hold a store, which can be looked at and changed. -/
class HasStore (σ : Type) where
  store : σ → Store
  update : (Store → Store) → σ → σ

instance : HasStore World where
  store w := w.store
  update f w := { w with store := f w.store }

/-- A computation on a state that ends in a value or a failure; a failure keeps the state. -/
abbrev Act (σ α : Type) := EStateM Failure σ α

abbrev Action := Act World

namespace Act

variable {σ α : Type}

def raise (e : Fault) : Act σ α :=
  EStateM.throw (.fault e)

def ofExcept : Except Fault α → Act σ α
  | .ok a => EStateM.pure a
  | .error e => raise e

/-- Names the builtin in which a fault arose, unless the fault names one already. -/
def attributed (name : String) (x : Act σ α) : Act σ α := fun s =>
  match x s with
  | .error (.fault e) s => .error (.fault (e.attributed name)) s
  | r => r

end Act

namespace Action

def store : Action Store := do
  return (← get).store

def update (f : Store → Store) : Action Unit :=
  modify (HasStore.update f)

def draw : Action Draw := do
  let w ← get
  set { w with supply := { w.supply with drawn := w.supply.drawn + 1 } }
  return w.supply.draw w.supply.drawn

def now : Action Moment := do
  let w ← get
  set { w with supply := { w.supply with read := w.supply.read + 1 } }
  return w.supply.reading w.supply.read

end Action

end Stencil
