import Stencil.Proofs.Loops
import Stencil.Proofs.Spans

/-!
# Renders with any amount of gas

The limit on gas of a render is a number of 64 bits, and a loop asks for one element more than its span has
values. Neither is needed for a render to come to its end: here the limit is any natural number, and loops
may ask for as many more elements as one likes. With the limit of a renderer this is its render.
-/

namespace Stencil

namespace Step

def tickWithin (most : Nat) : Step Unit := fun p =>
  let q := { p with gas := p.gas + 1 }
  if most < p.gas + 1 then .error .exhausted q else .ok () q

/-- Runs a loop over a written span, asking for more elements than would be needed to find the end. -/
def loopAsking (limits : Limits) (extra : Nat) (scope : Scope) (spec : String) (body : Deferred Progress) :
    Step String := do
  let l ← Loop.begin scope spec
  let outermost := (← get).depth == 0
  deeper (drain limits outermost body (l.cursor.size + 1 + extra) l "")

theorem loopAsking_eq (limits : Limits) (extra : Nat) (c : Scope) (spec : String) (body : Deferred Progress)
    (p : Progress) : loopAsking limits extra c spec body p = match Span.parse spec with
      | .ok span => deeper (drain limits (p.depth == 0) body (span.cursor.size + 1 + extra)
          (Loop.start c span p).1 "") (Loop.start c span p).2
      | .error e => .error (.fault (e.attributed "loop")) p := by
  have hb : loopAsking limits extra c spec body p = match Loop.begin c spec p with
      | .ok l q => deeper (drain limits (q.depth == 0) body (l.cursor.size + 1 + extra) l "") q
      | .error e q => .error e q := by
    simp only [loopAsking, bind, EStateM.bind]
    cases Loop.begin c spec p <;> rfl
  rw [hb, Loop.begin_eq]
  cases Span.parse spec <;> rfl

/- The values come to an end before the elements that may be asked for do. -/
theorem drain_of_size_lt (limits : Limits) (outermost : Bool) (body : Deferred Progress) {n m : Nat}
    {l : Loop} {v : Option Value} (hv : l.saved = some v) (hstep : l.cursor.step ≠ 0)
    (hn : l.cursor.size < n) (hm : l.cursor.size < m) (out : String) (p : Progress) :
    drain limits outermost body n l out p = drain limits outermost body m l out p := by
  induction n generalizing m l out p with
  | zero => omega
  | succ n ih =>
    obtain ⟨j, rfl⟩ : ∃ j, m = j + 1 := ⟨m - 1, by omega⟩
    rw [drain_succ limits outermost body n hv, drain_succ limits outermost body j hv]
    split
    · rfl
    · rcases hpull : l.cursor.pull with ⟨next, d⟩
      cases next with
      | none => rfl
      | some i =>
        have hlt := Cursor.size_pull_lt hstep hpull
        have hstep' : d.step ≠ 0 := by rw [Cursor.step_of_pull hpull]; exact hstep
        simp only
        cases body l.scope (l.entered i p) with
        | ok element q =>
          exact ih (l := { l with cursor := d }) hv hstep' (show d.size < n by omega)
            (show d.size < j by omega) _ _
        | error e q => rfl

theorem loopAsking_eq_loop (limits : Limits) (extra : Nat) (c : Scope) (spec : String)
    (body : Deferred Progress) : loopAsking limits extra c spec body = loop limits c spec body := by
  funext p
  rw [loopAsking_eq, loop_eq]
  cases hspan : Span.parse spec with
  | error e => rfl
  | ok span =>
    have hdrain := drain_of_size_lt limits (p.depth == 0) body (n := span.cursor.size + 1 + extra)
      (m := span.cursor.size + 1) (l := (Loop.start c span p).1) rfl (Span.step_ne_zero_of_parse hspan)
      (show span.cursor.size < _ by omega) (show span.cursor.size < _ by omega) ""
    simp only [deeper, hdrain]

end Step

/-- Does what a script says, with any number of units of gas and with loops that may ask for more elements
than needed. -/
def Script.within (most extra : Nat) (r : Renderer) : {α : Type} → Script α → Scope → Step α
  | _, .pure a, _ => Pure.pure a
  | _, .raise e, _ => Act.raise e
  | _, .bind x f, c => x.within most extra r c >>= fun a => (f a).within most extra r c
  | _, .tick, _ => Step.tickWithin most
  | _, .inlined x, c => Step.inlined (x.within most extra r c)
  | _, .operand x, c => Step.operand (x.within most extra r c)
  | _, .lookup name, c => Step.lookup c name
  | _, .call name bare into args, c => Step.ofAction (r.registry.call name { scope := c, bare, into } args)
  | _, .loop spec body, c =>
    Step.loopAsking r.limits extra c spec fun d => Step.inlined (body.within most extra r d)

theorem Script.within_gas (extra : Nat) (r : Renderer) {α : Type} (x : Script α) (c : Scope) :
    x.within r.limits.gas.toNat extra r c = x.run r c := by
  induction x generalizing c with
  | pure a => rfl
  | raise e => rfl
  | bind x f ihx ihf => simp only [within, run, ihx, ihf]
  | tick => rfl
  | inlined x ih => simp only [within, run, ih]
  | operand x ih => simp only [within, run, ih]
  | lookup name => rfl
  | call name bare into args => rfl
  | loop spec body ih => simp only [within, run, ih, Step.loopAsking_eq_loop]

/-- Renders a template with any number of units of gas, and with loops that may ask for more elements than
needed. -/
def Renderer.renderWithin (r : Renderer) (most extra : Nat) (c : Scope) (node : Node) (w : World) :
    Except Failure Rendered × World :=
  match Step.inlined ((Script.ofNode r.registry node).within most extra r c) { world := w } with
  | .ok text p => (.ok { text, reports := p.reports.toList, gas := p.gas }, p.world)
  | .error e p => (.error e, p.world)

theorem Renderer.renderWithin_gas (r : Renderer) (extra : Nat) (c : Scope) (node : Node) (w : World) :
    r.renderWithin r.limits.gas.toNat extra c node w = r.render c node w := by
  have hrun : (Script.ofNode r.registry node).within r.limits.gas.toNat extra r c = r.eval c node := by
    rw [Script.within_gas, Script.run_ofNode]
  unfold renderWithin render
  cases hx : Step.inlined (r.eval c node) { world := w } with
  | ok text p => simp only [hrun, hx]
  | error e p => simp only [hrun, hx]

end Stencil
