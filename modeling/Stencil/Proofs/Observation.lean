import Stencil.Proofs.Loops

/-!
# What loops do in a render

The script of a node can be run under observation: beside its result there is then a list of what its loops
did, in order. An observed run has the result of the run itself (`Script.result_observe`).
-/

namespace Stencil

/-- Something that a loop did, with the number of loops around it: it began to evaluate its body, it yielded
an element, it stopped, with or without values left, or a failure of its body ended it. -/
inductive LoopEvent where
  | entered (depth : Nat)
  | yielded (depth : Nat) (element : String)
  | stopped (depth : Nat) (left : Bool)
  | abandoned (depth : Nat) (cause : Failure)
  deriving DecidableEq, Repr

structure Observed (α : Type) where
  result : EStateM.Result Failure Progress α
  events : List LoopEvent

namespace Observed

variable {α : Type}

def quiet (x : Step α) (p : Progress) : Observed α :=
  { result := x p, events := [] }

def outcome (o : Observed α) : Step α := fun _ => o.result

/-- The same, its faults shown. -/
def inlined (o : Observed String) (p : Progress) : Observed String :=
  { result := Step.inlined o.outcome p, events := o.events }

def after (o : Observed α) (events : List LoopEvent) : Observed α :=
  { o with events := events ++ o.events }

end Observed

/-- A loop that stops: what it has yielded, and whether values are left. -/
def Loop.observeStop (l : Loop) (depth : Nat) (out : String) (p : Progress) : Observed String :=
  { result := .ok out (l.restore p), events := [.stopped depth l.cursor.pull.1.isSome] }

/-- Takes elements of a loop under observation, as `Step.drain` does. `depth` is the number of loops
around. -/
def Step.observeDrain (limits : Limits) (depth : Nat) (body : Scope → Progress → Observed String) :
    (fuel : Nat) → Loop → (out : String) → Progress → Observed String
  | 0, l, out, p => l.observeStop depth out p
  | n + 1, l, out, p =>
    if limitReached limits p out then l.observeStop depth out p
    else
      match l.cursor.pull with
      | (none, _) => l.observeStop depth out p
      | (some i, d) =>
        let o := body l.scope (l.entered i p)
        match o.result with
        | .error e q =>
          { result := .error e ({ l with cursor := d }.restore q),
            events := .entered depth :: o.events ++ [.abandoned depth e] }
        | .ok element q =>
          (observeDrain limits depth body n { l with cursor := d } (out ++ element)
            (countElement (depth == 0) element q)).after
              (.entered depth :: o.events ++ [.yielded depth element])

namespace Script

/-- Does what a script says, in a scope, under observation. -/
def observe (r : Renderer) : {α : Type} → Script α → Scope → Progress → Observed α
  | _, .pure a, _, p => .quiet (Pure.pure a) p
  | _, .raise e, _, p => .quiet (Act.raise e) p
  | _, .bind x f, c, p =>
    match (x.observe r c p).result with
    | .ok a q => ((f a).observe r c q).after (x.observe r c p).events
    | .error e q => { result := .error e q, events := (x.observe r c p).events }
  | _, .tick, _, p => .quiet (Step.tick r.limits) p
  | _, .inlined x, c, p => (x.observe r c p).inlined p
  | _, .operand x, c, p =>
    { result := Step.operand (x.observe r c p).outcome p, events := (x.observe r c p).events }
  | _, .lookup name, c, p => .quiet (Step.lookup c name) p
  | _, .call name bare into args, c, p =>
    .quiet (Step.ofAction (r.registry.call name { scope := c, bare, into } args)) p
  | _, .loop spec body, c, p =>
    match Span.parse spec with
    | .error e => { result := .error (.fault (e.attributed "loop")) p, events := [] }
    | .ok span =>
      let (l, q) := Loop.start c span p
      let o := Step.observeDrain r.limits p.depth (fun d s => (body.observe r d s).inlined s)
        (l.cursor.size + 1) l "" { q with depth := q.depth + 1 }
      { result := Step.deeper o.outcome q, events := o.events }

end Script

theorem Step.result_observeDrain (limits : Limits) (depth : Nat)
    {body : Scope → Progress → Observed String} {run : Deferred Progress}
    (hrun : ∀ d s, (body d s).result = run d s) (fuel : Nat) {l : Loop} {v : Option Value}
    (hv : l.saved = some v) (out : String) (p : Progress) :
    (observeDrain limits depth body fuel l out p).result =
      drain limits (depth == 0) run fuel l out p := by
  induction fuel generalizing l out p with
  | zero => rfl
  | succ n ih =>
    rw [drain_succ limits (depth == 0) run n hv, observeDrain]
    by_cases hlimit : limitReached limits p out
    · rw [if_pos hlimit, if_pos hlimit]
      rfl
    · rw [if_neg hlimit, if_neg hlimit]
      cases l.cursor.pull with
      | mk next d =>
        cases next with
        | none => rfl
        | some i =>
          dsimp only
          rw [hrun]
          cases run l.scope (l.entered i p) with
          | error e q => rfl
          | ok element q => exact ih (l := { l with cursor := d }) hv _ _

namespace Script

theorem result_observe (r : Renderer) {α : Type} (x : Script α) (c : Scope) (p : Progress) :
    (x.observe r c p).result = x.run r c p := by
  induction x generalizing c p with
  | bind x f ihx ihf =>
    simp only [observe, run]
    rw [ihx c p]
    cases hx : x.run r c p with
    | ok a q =>
      rw [Act.bind_of_ok hx]
      exact ihf a c q
    | error e q => rw [Act.bind_of_error hx]
  | inlined x ih =>
    simp only [observe, run, Observed.inlined, Step.inlined, Observed.outcome, ih c p]
  | operand x ih =>
    simp only [observe, run, Step.operand, Observed.outcome, ih c p]
  | loop spec body ih =>
    simp only [observe, run, Step.loop_eq]
    cases Span.parse spec with
    | error e => rfl
    | ok span =>
      have hbody : ∀ d s, ((body.observe r d s).inlined s).result = Step.inlined (body.run r d) s := by
        intro d s
        simp only [Observed.inlined, Step.inlined, Observed.outcome, ih d s]
      have hdrain := Step.result_observeDrain r.limits p.depth hbody (span.cursor.size + 1)
        (l := (Loop.start c span p).1) rfl ""
        { (Loop.start c span p).2 with depth := (Loop.start c span p).2.depth + 1 }
      simp only [Step.deeper, Observed.outcome]
      rw [← hdrain]
      rfl
  | pure a => rfl
  | raise e => rfl
  | tick => rfl
  | lookup name => rfl
  | call name bare into args => rfl

end Script

namespace Renderer

/-- Evaluates a template from the start of a render, its faults shown, under observation. -/
def observe (r : Renderer) (c : Scope) (node : Node) (w : World) : Observed String :=
  (Script.inlined (.ofNode r.registry node)).observe r c { world := w }

theorem result_observe (r : Renderer) (c : Scope) (node : Node) (w : World) :
    (r.observe c node w).result = Step.inlined (r.eval c node) { world := w } := by
  rw [observe, Script.result_observe, Script.run, Script.run_ofNode]

end Renderer

end Stencil
