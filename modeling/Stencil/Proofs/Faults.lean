import Stencil.Proofs.Gas

/-!
# Steps without faults

A fault ends no more than the part of a template that it arises in. Steps that show the faults of their
parts have none themselves, and showing faults changes nothing about them.
-/

namespace Stencil

namespace Step

/-- A step that may end the render but shows no fault of its own. -/
def Unfaulted {α : Type} (x : Step α) : Prop :=
  ∀ p e q, x p ≠ .error (.fault e) q

theorem unfaulted_inlined (x : Step String) : Unfaulted (inlined x) := by
  intro p e q h
  unfold inlined at h
  split at h
  · cases h
  · rename_i hne
    exact hne e q h

theorem unfaulted_operand (x : Step String) : Unfaulted (operand x) := by
  intro p e q h
  unfold operand at h
  split at h
  · cases h
  · cases h
  · rename_i hne _
    cases h
    exact hne e rfl

theorem Unfaulted.bind {α β : Type} {x : Step α} {f : α → Step β} (hx : Unfaulted x)
    (hf : ∀ a, Unfaulted (f a)) : Unfaulted (x >>= f) := by
  intro p e q h
  cases hp : x p with
  | ok a p' =>
    rw [Act.bind_of_ok hp] at h
    exact hf a p' e q h
  | error e' p' =>
    rw [Act.bind_of_error hp] at h
    cases h
    exact hx p e q hp

theorem Unfaulted.drain {limits : Limits} {body : Deferred Progress} (hb : ∀ c, Unfaulted (body c))
    (outermost : Bool) (fuel : Nat) {l : Loop} {v : Option Value} (hv : l.saved = some v)
    (out : String) : Unfaulted (drain limits outermost body fuel l out) := by
  induction fuel generalizing l out with
  | zero =>
    intro p e q h
    cases h
  | succ n ih =>
    intro p e q h
    rw [drain_succ limits outermost body n hv] at h
    split at h
    · cases h
    · split at h
      · cases h
      · rename_i i d _
        cases hx : body l.scope (l.entered i p) with
        | ok text p' =>
          rw [hx] at h
          exact ih (l := { l with cursor := d }) hv _ _ e q h
        | error e' p' =>
          rw [hx] at h
          simp only [afterBody, EStateM.Result.error.injEq] at h
          exact hb _ _ e p' (h.1 ▸ hx)

theorem Unfaulted.loop {limits : Limits} {body : Deferred Progress} (hb : ∀ c, Unfaulted (body c))
    {spec : String} {span : Span} (hspan : Span.parse spec = .ok span) (c : Scope) :
    Unfaulted (loop limits c spec body) := by
  intro p e q h
  rw [loop_eq, hspan] at h
  simp only [deeper] at h
  split at h
  · cases h
  · rename_i e' p' hx
    cases h
    exact Unfaulted.drain hb _ _ rfl _ _ e p' hx

theorem Unfaulted.inlined_eq {x : Step String} (hx : Unfaulted x) (p : Progress) :
    inlined x p = x p := by
  unfold inlined
  cases h : x p with
  | ok text q => rfl
  | error e q =>
    cases e with
    | fault e => exact absurd h (hx p e q)
    | exhausted => rfl
    | unprintable => rfl

theorem unfaulted_tick (limits : Limits) : Unfaulted (tick limits) := by
  intro p e q h
  unfold tick at h
  dsimp only at h
  split at h <;> cases h

theorem unfaulted_pure {α : Type} (a : α) : Unfaulted (pure a) := by
  intro p e q h
  cases h

theorem inlined_tick_pure (limits : Limits) (s : String) :
    inlined (tick limits >>= fun _ => pure s) = tick limits >>= fun _ => pure s := by
  funext p
  exact Unfaulted.inlined_eq ((unfaulted_tick limits).bind fun _ => unfaulted_pure s) p

theorem Unfaulted.inlined_ticks {limits : Limits} {x : Step String} (hx : Unfaulted x) (n : Nat)
    {p : Progress} (h : p.gas + n ≤ limits.gas.toNat) :
    inlined (ticks limits n >>= fun _ => x) p = x { p with gas := p.gas + n } := by
  have hrun := Act.bind_of_ok (f := fun _ => x) (ticks_of_le n h)
  rw [← hx.inlined_eq]
  simp only [inlined, hrun]

theorem Unfaulted.eq_ok_of_inlined_ticks {limits : Limits} {x : Step String} (hx : Unfaulted x) {n : Nat}
    {p q : Progress} {text : String} (h : inlined (ticks limits (n + 1) >>= fun _ => x) p = .ok text q) :
    x { p with gas := p.gas + (n + 1) } = .ok text q := by
  rw [← hx.inlined_ticks (n + 1) (le_of_inlined_ticks h)]
  exact h

end Step

theorem Renderer.unfaulted_evalConcat (r : Renderer) (c : Scope) (out : String) (nodes : List Node) :
    Step.Unfaulted (r.evalConcat c out nodes) := by
  induction nodes generalizing out with
  | nil =>
    simp only [Renderer.evalConcat]
    exact Step.unfaulted_pure out
  | cons node rest ih =>
    simp only [Renderer.evalConcat]
    exact (Step.unfaulted_inlined _).bind fun text => ih (out ++ text)

theorem Renderer.unfaulted_evalEach (r : Renderer) (c : Scope) (nodes : List Node) :
    Step.Unfaulted (r.evalEach c nodes) := by
  induction nodes with
  | nil =>
    simp only [Renderer.evalEach]
    exact Step.unfaulted_pure []
  | cons node rest ih =>
    simp only [Renderer.evalEach]
    exact (Step.unfaulted_inlined _).bind fun text => ih.bind fun texts => Step.unfaulted_pure _

theorem Renderer.unfaulted_evalNamed (r : Renderer) (c : Scope) (done : NameMap String)
    (nodes : List (String × Node)) : Step.Unfaulted (r.evalNamed c done nodes) := by
  induction nodes generalizing done with
  | nil =>
    simp only [Renderer.evalNamed]
    exact Step.unfaulted_pure done
  | cons named rest ih =>
    obtain ⟨name, node⟩ := named
    simp only [Renderer.evalNamed]
    exact (Step.unfaulted_inlined _).bind fun text => ih (done.insert name text)

end Stencil
