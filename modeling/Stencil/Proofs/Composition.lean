import Stencil.Render

/-!
# What renders are made of

A render is put together from few kinds of steps: gas is used, a variable is looked up, a builtin is
called, a fault is raised, shown or kept, and a loop runs a part of the template. `Composed` has one rule
for each of them. Whatever every rule keeps, for all limits and scopes, is kept by the evaluation of every
node (`Composed.eval`). A `Script` is such a composition as data: every node has one, and running it is
evaluating the node (`Script.run_ofNode`).
-/

namespace Stencil

/-! ### Computations that can fail -/

def Act.endState {σ α : Type} : EStateM.Result Failure σ α → σ
  | .ok _ t => t
  | .error _ t => t

def Act.onOption {σ α β : Type} (found : Option β) (f : β → Act σ α) (otherwise : Act σ α) : Act σ α :=
  match found with
  | some b => f b
  | none => otherwise

namespace Act

variable {σ α β : Type}

theorem bind_of_ok {x : Act σ α} {f : α → Act σ β} {s t : σ} {a : α} (h : x s = .ok a t) :
    (x >>= f) s = f a t := by
  simp only [bind, EStateM.bind, h]

theorem bind_of_error {x : Act σ α} {f : α → Act σ β} {s t : σ} {e : Failure}
    (h : x s = .error e t) : (x >>= f) s = .error e t := by
  simp only [bind, EStateM.bind, h]

theorem bind_eq_ok {x : Act σ α} {f : α → Act σ β} {s u : σ} {b : β} (h : (x >>= f) s = .ok b u) :
    ∃ a t, x s = .ok a t ∧ f a t = .ok b u := by
  cases hx : x s with
  | ok a t =>
    rw [bind_of_ok hx] at h
    exact ⟨a, t, rfl, h⟩
  | error e t =>
    rw [bind_of_error hx] at h
    cases h

theorem endState_attributed (name : String) (x : Act σ α) (s : σ) :
    endState (x.attributed name s) = endState (x s) := by
  unfold attributed
  cases x s with
  | ok a t => rfl
  | error e t => cases e <;> rfl

theorem attributed_eq_ok {x : Act σ α} {name : String} {s t : σ} {a : α} :
    x.attributed name s = .ok a t ↔ x s = .ok a t := by
  unfold attributed
  cases x s with
  | ok b u => exact Iff.rfl
  | error e u => cases e <;> simp

theorem ofExcept_eq_ok {x : Except Fault α} {s t : σ} {a : α} :
    (ofExcept x : Act σ α) s = .ok a t ↔ x = .ok a ∧ s = t := by
  cases x with
  | ok b =>
    constructor
    · intro h
      cases h
      exact ⟨rfl, rfl⟩
    · rintro ⟨h, rfl⟩
      cases h
      rfl
  | error e =>
    constructor
    · intro h
      cases h
    · rintro ⟨h, -⟩
      cases h

end Act

/-! ### Steps -/

def Step.lookup (scope : Scope) (name : String) : Step (Option Value) := fun p =>
  .ok (p.world.store.get? scope name) p

/-- The steps that renders with these builtins are made of, each a function of the limits of the render
and of the scope it runs in. -/
inductive Composed (registry : Registry) : {α : Type} → (Limits → Scope → Step α) → Prop where
  | pure {α : Type} (a : α) : Composed registry fun _ _ => pure a
  | raise {α : Type} (e : Fault) : Composed registry fun _ _ => (Act.raise e : Step α)
  | bind {α β : Type} {x : Limits → Scope → Step α} {f : α → Limits → Scope → Step β} :
      Composed registry x → (∀ a, Composed registry (f a)) →
      Composed registry fun limits scope => x limits scope >>= fun a => f a limits scope
  | tick : Composed registry fun limits _ => Step.tick limits
  | inlined {x : Limits → Scope → Step String} : Composed registry x →
      Composed registry fun limits scope => Step.inlined (x limits scope)
  | operand {x : Limits → Scope → Step String} : Composed registry x →
      Composed registry fun limits scope => Step.operand (x limits scope)
  | lookup (name : String) : Composed registry fun _ scope => Step.lookup scope name
  | call (name : String) (bare : Bool) (into : Option String) (args : Arguments) :
      Composed registry fun _ scope => Step.ofAction (registry.call name { scope, bare, into } args)
  | loop (spec : String) {body : Limits → Scope → Step String} : Composed registry body →
      Composed registry fun limits scope => Step.loop limits scope spec (body limits)

namespace Composed

variable {registry : Registry}

theorem ofExcept {α : Type} (name : String) (x : Except Fault α) :
    Composed registry fun _ _ => (Act.ofExcept x : Step α).attributed name := by
  cases x with
  | ok a => exact .pure a
  | error e => exact .raise (e.attributed name)

theorem checkSite (caps : Capabilities) (into : Option String) (name : String) :
    Composed registry fun _ scope => Renderer.checkSite caps scope into name :=
  ofExcept name (CallSite.check { scope := ⟨0⟩, into } caps)

end Composed

/-! ### Scripts -/

/-- The steps of a render, as data. Faults in the body of a loop are shown. -/
inductive Script : Type → Type 1 where
  | pure {α : Type} (a : α) : Script α
  | raise {α : Type} (e : Fault) : Script α
  | bind {α β : Type} (x : Script α) (f : α → Script β) : Script β
  | tick : Script Unit
  | inlined (x : Script String) : Script String
  | operand (x : Script String) : Script Operand
  | lookup (name : String) : Script (Option Value)
  | call (name : String) (bare : Bool) (into : Option String) (args : Arguments) : Script String
  | loop (spec : String) (body : Script String) : Script String

namespace Script

def run (r : Renderer) : {α : Type} → Script α → Scope → Step α
  | _, .pure a, _ => Pure.pure a
  | _, .raise e, _ => Act.raise e
  | _, .bind x f, c => x.run r c >>= fun a => (f a).run r c
  | _, .tick, _ => Step.tick r.limits
  | _, .inlined x, c => Step.inlined (x.run r c)
  | _, .operand x, c => Step.operand (x.run r c)
  | _, .lookup name, c => Step.lookup c name
  | _, .call name bare into args, c => Step.ofAction (r.registry.call name { scope := c, bare, into } args)
  | _, .loop spec body, c => Step.loop r.limits c spec fun d => Step.inlined (body.run r d)

theorem composed (registry : Registry) {α : Type} (x : Script α) :
    Composed registry fun limits c => x.run { registry, limits } c := by
  induction x with
  | pure a => exact .pure a
  | raise e => exact .raise e
  | bind x f ihx ihf => exact .bind ihx ihf
  | tick => exact .tick
  | inlined x ih => exact .inlined ih
  | operand x ih => exact .operand ih
  | lookup name => exact .lookup name
  | call name bare into args => exact .call name bare into args
  | loop spec body ih => exact .loop spec (.inlined ih)

def ofExcept {α : Type} (name : String) : Except Fault α → Script α
  | .ok a => .pure a
  | .error e => .raise (e.attributed name)

/-- The check of a call, which is the same in all scopes. -/
def checkSite (caps : Capabilities) (into : Option String) (name : String) : Script Unit :=
  ofExcept name (CallSite.check { scope := ⟨0⟩, into } caps)

def bareName (registry : Registry) (name : String) : Script String :=
  .bind (.lookup name) fun
    | some value => .pure value.toText
    | none =>
      if registry.contains name then .call name true none {}
      else .raise { kind := .undefinedVariable, message := "undefined variable '" ++ name ++ "'" }

def branch (left : Operand) (name right : String) (onTrue : Script String)
    (onFalse : Option (Script String)) : Script String :=
  .bind (ofExcept "when" (decideCondition left name right)) fun holds =>
    if holds then onTrue else onFalse.getD (.pure "")

mutual

def ofNode (registry : Registry) : Node → Script String
  | .text s => .bind .tick fun _ => .pure s
  | .var name => .bind .tick fun _ => bareName registry name
  | .concat children => .bind .tick fun _ => ofConcat registry "" children
  | .call name args named into => .bind .tick fun _ =>
    match registry.get? name with
    | none => .raise (Registry.unknown name)
    | some b =>
      match b.kind with
      | .simple _ =>
        .bind (ofEach registry args) fun positional =>
        .bind (ofNamed registry .empty named) fun keyword =>
        .call b.name false into { positional, named := keyword }
      | .conditional => ofWhen registry b.caps into args
      | .iteration => ofLoop registry b.caps into args

def ofConcat (registry : Registry) (out : String) : List Node → Script String
  | [] => .pure out
  | node :: rest =>
    .bind (.inlined (ofNode registry node)) fun text => ofConcat registry (out ++ text) rest

def ofEach (registry : Registry) : List Node → Script (List String)
  | [] => .pure []
  | node :: rest =>
    .bind (.inlined (ofNode registry node)) fun text =>
    .bind (ofEach registry rest) fun texts => .pure (text :: texts)

def ofNamed (registry : Registry) (done : NameMap String) : List (String × Node) → Script (NameMap String)
  | [] => .pure done
  | (name, node) :: rest =>
    .bind (.inlined (ofNode registry node)) fun text => ofNamed registry (done.insert name text) rest

def ofWhen (registry : Registry) (caps : Capabilities) (into : Option String) : List Node → Script String
  | [left, name, right, onTrue] =>
    .bind (checkSite caps into "when") fun _ =>
    .bind (.operand (ofNode registry left)) fun a =>
    .bind (.inlined (ofNode registry name)) fun op =>
    .bind (.inlined (ofNode registry right)) fun b =>
    branch a op b (.inlined (ofNode registry onTrue)) none
  | [left, name, right, onTrue, onFalse] =>
    .bind (checkSite caps into "when") fun _ =>
    .bind (.operand (ofNode registry left)) fun a =>
    .bind (.inlined (ofNode registry name)) fun op =>
    .bind (.inlined (ofNode registry right)) fun b =>
    branch a op b (.inlined (ofNode registry onTrue)) (some (.inlined (ofNode registry onFalse)))
  | args =>
    .raise ((Arguments.invalid (if args.length < 4 then "missing branch" else "too many args")).attributed
      "when")

def ofLoop (registry : Registry) (caps : Capabilities) (into : Option String) : List Node → Script String
  | [range, body] =>
    .bind (checkSite caps into "loop") fun _ =>
    .bind (.inlined (ofNode registry range)) fun spec => .loop spec (ofNode registry body)
  | _ => .raise ((Arguments.invalid "needs range and body").attributed "loop")

end

/-! ### Running the script of a node -/

theorem run_ofExcept (r : Renderer) {α : Type} (name : String) (x : Except Fault α) (c : Scope) :
    (ofExcept name x).run r c = (Act.ofExcept x : Step α).attributed name := by
  cases x <;> rfl

theorem run_checkSite (r : Renderer) (caps : Capabilities) (into : Option String) (name : String)
    (c : Scope) : (checkSite caps into name).run r c = Renderer.checkSite caps c into name :=
  run_ofExcept r name _ c

theorem run_bareName (r : Renderer) (name : String) (c : Scope) :
    (bareName r.registry name).run r c = r.bareName c name := by
  funext p
  have hget : (get : Step Progress) p = .ok p p := rfl
  have hlookup : Step.lookup c name p = .ok (p.world.store.get? c name) p := rfl
  simp only [bareName, run]
  rw [Renderer.bareName, Act.bind_of_ok hget, Act.bind_of_ok hlookup]
  cases p.world.store.get? c name with
  | some value => rfl
  | none =>
    dsimp only
    split <;> rfl

theorem run_branch (r : Renderer) (left : Operand) (name right : String) (onTrue : Script String)
    (onFalse : Option (Script String)) (c : Scope) :
    (branch left name right onTrue onFalse).run r c =
      Stencil.branch c left name right (fun d => onTrue.run r d) (onFalse.map fun x d => x.run r d) := by
  simp only [branch, run, run_ofExcept, Stencil.branch]
  congr 1
  funext holds
  cases holds with
  | true => rfl
  | false => cases onFalse <;> rfl

mutual

theorem run_ofNode (r : Renderer) (c : Scope) (node : Node) :
    (ofNode r.registry node).run r c = r.eval c node := by
  cases node with
  | text s => simp only [ofNode, run, Renderer.eval]
  | var name => simp only [ofNode, run, Renderer.eval, run_bareName]
  | concat children => simp only [ofNode, run, Renderer.eval, run_ofConcat]
  | call name args named into =>
    simp only [ofNode, run, Renderer.eval]
    congr 1
    funext _
    cases r.registry.get? name with
    | none => rfl
    | some b =>
      dsimp only
      cases b.kind with
      | simple f => simp only [run, run_ofEach, run_ofNamed]
      | conditional => exact run_ofWhen r c b.caps into args
      | iteration => exact run_ofLoop r c b.caps into args

theorem run_ofConcat (r : Renderer) (c : Scope) (out : String) (nodes : List Node) :
    (ofConcat r.registry out nodes).run r c = r.evalConcat c out nodes := by
  cases nodes with
  | nil => simp only [ofConcat, run, Renderer.evalConcat]
  | cons node rest => simp only [ofConcat, run, Renderer.evalConcat, run_ofNode, run_ofConcat]

theorem run_ofEach (r : Renderer) (c : Scope) (nodes : List Node) :
    (ofEach r.registry nodes).run r c = r.evalEach c nodes := by
  cases nodes with
  | nil => simp only [ofEach, run, Renderer.evalEach]
  | cons node rest => simp only [ofEach, run, Renderer.evalEach, run_ofNode, run_ofEach]

theorem run_ofNamed (r : Renderer) (c : Scope) (done : NameMap String) (nodes : List (String × Node)) :
    (ofNamed r.registry done nodes).run r c = r.evalNamed c done nodes := by
  match nodes with
  | [] => simp only [ofNamed, run, Renderer.evalNamed]
  | (name, node) :: rest => simp only [ofNamed, run, Renderer.evalNamed, run_ofNode, run_ofNamed]

theorem run_ofWhen (r : Renderer) (c : Scope) (caps : Capabilities) (into : Option String)
    (args : List Node) : (ofWhen r.registry caps into args).run r c = r.evalWhen c caps into args := by
  match args with
  | [left, name, right, onTrue] =>
    simp only [ofWhen, run, Renderer.evalWhen, run_checkSite, run_branch, run_ofNode, Option.map_none]
  | [left, name, right, onTrue, onFalse] =>
    simp only [ofWhen, run, Renderer.evalWhen, run_checkSite, run_branch, run_ofNode, Option.map_some]
  | [] | [_] | [_, _] | [_, _, _] | _ :: _ :: _ :: _ :: _ :: _ :: _ =>
    simp only [ofWhen, run, Renderer.evalWhen, Renderer.shapeFault]

theorem run_ofLoop (r : Renderer) (c : Scope) (caps : Capabilities) (into : Option String)
    (args : List Node) : (ofLoop r.registry caps into args).run r c = r.evalLoop c caps into args := by
  match args with
  | [range, body] => simp only [ofLoop, run, Renderer.evalLoop, run_checkSite, run_ofNode]
  | [] | [_] | _ :: _ :: _ :: _ => simp only [ofLoop, run, Renderer.evalLoop, Renderer.shapeFault]

end

end Script

theorem Composed.eval {registry : Registry} (node : Node) :
    Composed registry fun limits scope => Renderer.eval { registry, limits } scope node := by
  have h : (fun limits scope => Renderer.eval { registry, limits } scope node) =
      fun limits scope => (Script.ofNode registry node).run { registry, limits } scope := by
    funext limits scope
    exact (Script.run_ofNode { registry, limits } scope node).symm
  rw [h]
  exact Script.composed registry _

theorem Renderer.composed_inlined_eval (r : Renderer) (node : Node) :
    Composed r.registry fun limits c => Step.inlined (Renderer.eval { registry := r.registry, limits } c node) :=
  .inlined (.eval node)

end Stencil
