import Stencil.Proofs.SideBySide

/-!
# The gas that a render needs

A render that succeeds has used an amount of gas that is its threshold: any limit from there on gives the
same render, any limit below ends in spent gas.
-/

namespace Stencil

theorem Act.SameEnd.of_eq {σ α : Type} {R : σ → σ → Prop} (hR : ∀ s, R s s)
    (x : EStateM.Result Failure σ α) : Act.SameEnd R x x := by
  cases x with
  | ok a s => exact .ok a (hR s)
  | error e s => exact .error e (hR s)

def Likeness.same (registry : Registry) : Likeness registry where
  rel K s t := s = t ∧ ∀ k ∈ K, k.1 = k.2
  forget h := ⟨h.1, fun k hk => h.2 k (List.mem_cons_of_mem _ hk)⟩
  get? := by
    rintro K s _ c d ⟨rfl, hK⟩ hcd name
    obtain rfl : c = d := hK _ hcd
    rfl
  set := by
    rintro K s _ c d ⟨rfl, hK⟩ hcd name value
    obtain rfl : c = d := hK _ hcd
    exact ⟨rfl, hK⟩
  addSub := by
    rintro K s _ c d ⟨rfl, hK⟩ hcd
    obtain rfl : c = d := hK _ hcd
    exact ⟨rfl, List.forall_mem_cons.2 ⟨rfl, hK⟩⟩
  call := by
    rintro K c d ⟨s, supply⟩ ⟨_, _⟩ ⟨rfl, hK⟩ rfl hcd name bare into args
    obtain rfl : c = d := hK _ hcd
    exact .of_eq (fun v => ⟨⟨rfl, hK⟩, rfl⟩) _

theorem Alike.world_eq {registry : Registry} {K : List (Scope × Scope)} {l m : Limits} {p q : Progress}
    (h : Alike (.same registry) K l m p q) : p.world = q.world := by
  have hstore : p.world.store = q.world.store := h.store.1
  have hsupply := h.supply
  have hworld : World.mk p.world.store p.world.supply = World.mk q.world.store q.world.supply := by
    rw [hstore, hsupply]
  exact hworld

namespace Renderer

def withGas (r : Renderer) (gas : UInt64) : Renderer := { r with limits := { r.limits with gas } }

theorem race_withGas (r : Renderer) (gas : UInt64) (c : Scope) (node : Node) (w : World) :
    Race r.limits (r.withGas gas).limits (fun p q => p.world = q.world) { world := w } { world := w }
      (Step.inlined (r.eval c node) { world := w })
      (Step.inlined ((r.withGas gas).eval c node) { world := w }) := by
  have hstart : Alike (.same r.registry) [(c, c)] r.limits (r.withGas gas).limits
      { world := w } { world := w } :=
    ⟨⟨rfl, by simp⟩, rfl, rfl, .inr ⟨rfl, rfl⟩⟩
  have hrace := (r.composed_inlined_eval node).race (.same r.registry) r.limits
    (r.withGas gas).limits [(c, c)] c c _ _ List.mem_cons_self hstart
  exact hrace.imp fun p q hpq => hpq.world_eq

theorem render_of_spent {r : Renderer} {c : Scope} {node : Node} {w : World}
    (h : Act.Spent (Step.inlined (r.eval c node) { world := w })) :
    (r.render c node w).1 = .error .exhausted := by
  obtain ⟨p, hp⟩ := h
  simp only [render, hp]

theorem render_withGas_zero (r : Renderer) (c : Scope) (node : Node) (w : World) :
    ((r.withGas 0).render c node w).1 = .error .exhausted := by
  cases node <;> rfl

theorem gas_le_of_render {r : Renderer} {c : Scope} {node : Node} {w v : World} {out : Rendered}
    (h : r.render c node w = (.ok out, v)) : out.gas ≤ r.limits.gas.toNat := by
  obtain ⟨p, hp, -, hgas, -⟩ := render_eq_ok.1 h
  have hmetered := (r.metered_inlined_eval c node { world := w }).2
  rw [hp] at hmetered
  rw [hgas]
  exact hmetered (Act.not_spent_ok _ _) (Nat.zero_le _)

theorem render_withGas {r : Renderer} {c : Scope} {node : Node} {w v : World} {out : Rendered}
    (h : r.render c node w = (.ok out, v)) (gas : UInt64) :
    (r.withGas gas).render c node w = (.ok out, v) ∨
      gas.toNat < out.gas ∧ ((r.withGas gas).render c node w).1 = .error .exhausted := by
  obtain ⟨p, hp, hreports, hused, rfl⟩ := render_eq_ok.1 h
  have hrace := r.race_withGas gas c node w
  rw [hp] at hrace
  generalize hy : Step.inlined ((r.withGas gas).eval c node) { world := w } = y at hrace
  cases hrace with
  | same hsame =>
    cases hsame with
    | @ok _ q _ hq =>
      obtain ⟨hworld, hgas, new, hnew, hnew'⟩ := hq
      have hreports' : out.reports = q.reports.toList := by rw [hreports, hnew, hnew']
      have hused' : out.gas = q.gas := by rw [hused]; exact hgas
      exact .inl (render_eq_ok.2 ⟨q, hy, hreports', hused', hworld.symm⟩)
  | leftSpent hspent => exact absurd hspent (Act.not_spent_ok _ _)
  | rightSpent hspent _ hneed =>
    have hless : gas.toNat < p.gas := hneed
    exact .inr ⟨by omega, render_of_spent (hy ▸ hspent)⟩

/-- A render that succeeds has kept to its limit on gas, and has used the least limit with which it
succeeds: from there on every limit gives the same, below it every limit is spent. -/
theorem render_gas_threshold (r : Renderer) (c : Scope) (node : Node) (w v : World) (out : Rendered)
    (h : r.render c node w = (.ok out, v)) :
    1 ≤ out.gas ∧ out.gas ≤ r.limits.gas.toNat ∧ ∀ gas : UInt64,
      (out.gas ≤ gas.toNat → (r.withGas gas).render c node w = (.ok out, v)) ∧
      (gas.toNat < out.gas → ((r.withGas gas).render c node w).1 = .error .exhausted) := by
  have hrun := render_withGas h
  refine ⟨Nat.pos_of_ne_zero fun hzero => ?_, gas_le_of_render h,
    fun gas => ⟨fun hle => ?_, fun hlt => ?_⟩⟩
  · -- without gas the first node is already too much
    rcases hrun 0 with hok | ⟨hless, -⟩
    · have hspent := r.render_withGas_zero c node w
      rw [hok] at hspent
      cases hspent
    · omega
  · rcases hrun gas with hok | ⟨hless, -⟩
    · exact hok
    · omega
  · rcases hrun gas with hok | ⟨-, hspent⟩
    · have hkept : out.gas ≤ gas.toNat := gas_le_of_render hok
      omega
    · exact hspent

/-- A condition on a fault with a loop in its branch needs eight units of gas. -/
theorem render_gas_threshold_branch :
    let moment : Moment := { day := 0, second := 0, nano := 0 }
    let w : World := { store := (Store.empty.addRoot {}).2,
                       supply := { draw := fun _ => 0, reading := fun _ => moment } }
    let r : Renderer := { registry := Library.standard }
    let node : Node := .call "when" [.var "missing", .text "is", .text "error",
      .call "loop" [.text "3", .var "iter"] [] none] [] none
    let out : Rendered := { text := "12", reports := [], gas := 8 }
    ∃ v, r.render ⟨0⟩ node w = (.ok out, v) ∧ (r.withGas 8).render ⟨0⟩ node w = (.ok out, v) ∧
      ((r.withGas 7).render ⟨0⟩ node w).1 = .error .exhausted := by
  intro moment w r node out
  have hok : (r.render ⟨0⟩ node w).1.toOption = some out := by decide +kernel
  have hrun := render_of_toOption hok
  obtain ⟨-, -, hthreshold⟩ := render_gas_threshold r ⟨0⟩ node w _ out hrun
  exact ⟨_, hrun, (hthreshold 8).1 (by decide), (hthreshold 7).2 (by decide)⟩

end Renderer

end Stencil
