import Stencil.Proofs.Builtins

/-!
# Renders act on the store by operations

Whatever a template does to the store, also when it runs out of gas halfway, is a sequence of operations
on scopes that the store has.
-/

namespace Stencil

namespace Step

theorem world_ofAction {α : Type} (x : Action α) (p : Progress) :
    (Act.endState (ofAction x p)).world = Act.endState (x p.world) := by
  unfold ofAction
  cases x p.world <;> rfl

theorem world_tick (limits : Limits) (p : Progress) :
    (Act.endState (tick limits p)).world = p.world := by
  unfold tick
  dsimp only
  split <;> rfl

theorem world_inlined (x : Step String) (p : Progress) :
    (Act.endState (inlined x p)).world = (Act.endState (x p)).world := by
  unfold inlined
  cases x p with
  | ok s q => rfl
  | error e q => cases e <;> rfl

theorem world_operand (x : Step String) (p : Progress) :
    (Act.endState (operand x p)).world = (Act.endState (x p)).world := by
  unfold operand
  cases x p with
  | ok s q => rfl
  | error e q => cases e <;> rfl

end Step

theorem Composed.reaches {registry : Registry} (hr : registry.IsPublic) {α : Type}
    {x : Limits → Scope → Step α} (h : Composed registry x) (limits : Limits) (c : Scope)
    (p : Progress) (hs : p.world.store.WellFormed) (hc : p.world.store.holds c) :
    p.world.store.Reaches (Act.endState (x limits c p)).world.store := by
  induction h generalizing c p with
  | pure a => exact .refl
  | raise e => exact .refl
  | bind hx hf ihx ihf =>
    rename_i x f
    have hxp := ihx c p hs hc
    show p.world.store.Reaches
      (Act.endState ((x limits c >>= fun a => f a limits c) p)).world.store
    cases hq : x limits c p with
    | ok a q =>
      rw [hq] at hxp
      rw [Act.bind_of_ok hq]
      exact hxp.trans (ihf a c q (Store.Reaches.wellFormed hxp hs) (Store.Reaches.holds hxp hc))
    | error e q =>
      rw [hq] at hxp
      rw [Act.bind_of_error hq]
      exact hxp
  | tick =>
    rw [Step.world_tick]
  | inlined hx ihx =>
    rw [Step.world_inlined]
    exact ihx c p hs hc
  | operand hx ihx =>
    rw [Step.world_operand]
    exact ihx c p hs hc
  | lookup name => exact .refl
  | call name bare into args =>
    rw [Step.world_ofAction]
    exact hr name bare into args c p.world hc
  | loop spec hb ihb =>
    have hbody : Public (σ := Progress) _ := fun d q hq hd => ihb d q hq hd
    exact (Step.loop_restores hbody limits spec hs hc).1

theorem eq_ok_of_toOption {α : Type} {x : Except Failure α × World} {a : α}
    (h : x.1.toOption = some a) : x = (.ok a, x.2) := by
  obtain ⟨outcome, v⟩ := x
  cases outcome with
  | ok b =>
    cases h
    rfl
  | error e => cases h

namespace Renderer

theorem render_of_ok {r : Renderer} {c : Scope} {node : Node} {w : World} {text : String} {p : Progress}
    (h : Step.inlined (r.eval c node) { world := w } = .ok text p) :
    r.render c node w = (.ok { text, reports := p.reports.toList, gas := p.gas }, p.world) := by
  simp only [render, h]

theorem render_eq_ok {r : Renderer} {c : Scope} {node : Node} {w v : World} {out : Rendered} :
    r.render c node w = (.ok out, v) ↔ ∃ p, Step.inlined (r.eval c node) { world := w } = .ok out.text p ∧
      out.reports = p.reports.toList ∧ out.gas = p.gas ∧ p.world = v := by
  constructor
  · intro h
    unfold render at h
    cases hrun : Step.inlined (r.eval c node) { world := w } with
    | ok text p =>
      rw [hrun] at h
      cases h
      exact ⟨p, rfl, rfl, rfl, rfl⟩
    | error e p =>
      rw [hrun] at h
      cases h
  · rintro ⟨p, hp, hreports, hgas, rfl⟩
    rw [render_of_ok hp, ← hreports, ← hgas]

theorem render_of_toOption {r : Renderer} {c : Scope} {node : Node} {w : World} {out : Rendered}
    (h : (r.render c node w).1.toOption = some out) :
    r.render c node w = (.ok out, (r.render c node w).2) :=
  eq_ok_of_toOption h

theorem public_eval {r : Renderer} (hr : r.registry.IsPublic) (node : Node) :
    Public (σ := Progress) fun c => Step.inlined (r.eval c node) :=
  fun c p hs hc => (r.composed_inlined_eval node).reaches hr r.limits c p hs hc

theorem render_reaches {r : Renderer} (hr : r.registry.IsPublic) (c : Scope) (node : Node)
    (w : World) (hs : w.store.WellFormed) (hc : w.store.holds c) :
    w.store.Reaches (r.render c node w).2.store := by
  have h : w.store.Reaches
      (Act.endState (Step.inlined (r.eval c node) { world := w })).world.store :=
    r.public_eval hr node c { world := w } hs hc
  unfold render
  cases hx : Step.inlined (r.eval c node) { world := w } with
  | ok text p =>
    rw [hx] at h
    exact h
  | error e p =>
    rw [hx] at h
    exact h

end Renderer

end Stencil
