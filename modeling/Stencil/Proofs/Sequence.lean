import Stencil.Proofs.Faults
import Stencil.Proofs.GasThreshold

/-!
# Nodes one after another

Without a limit on output, a node renders in the middle of a render as it does on its own: it uses as much
gas, reports the same and leaves the same world, whatever came before. So a concatenation renders as its
children do one after another.
-/

namespace Stencil

def Rendered.totalGas : List Rendered → Nat
  | [] => 0
  | out :: rest => out.gas + totalGas rest

def Rendered.concat (outs : List Rendered) : Rendered where
  text := String.join (outs.map (·.text))
  reports := outs.flatMap (·.reports)
  gas := 1 + totalGas outs

namespace Renderer

/-- Renders nodes one after another, each on its own. The first one that fails ends this. -/
def renderEach (r : Renderer) (c : Scope) : List Node → World → Except Failure (List Rendered) × World
  | [], w => (.ok [], w)
  | node :: rest, w =>
    match r.render c node w with
    | (.error e, v) => (.error e, v)
    | (.ok out, v) =>
      match renderEach r c rest v with
      | (.error e, u) => (.error e, u)
      | (.ok outs, u) => (.ok (out :: outs), u)

variable {r : Renderer} {c : Scope} {node : Node} {rest : List Node} {w v : World}

theorem renderEach_cons_of_ok {out : Rendered} {outs : List Rendered} {u : World}
    (h : r.render c node w = (.ok out, v)) (hrest : r.renderEach c rest v = (.ok outs, u)) :
    r.renderEach c (node :: rest) w = (.ok (out :: outs), u) := by
  simp only [renderEach, h, hrest]

theorem renderEach_cons_eq_ok {outs : List Rendered} {u : World}
    (h : r.renderEach c (node :: rest) w = (.ok outs, u)) : ∃ out outs' v, outs = out :: outs' ∧
      r.render c node w = (.ok out, v) ∧ r.renderEach c rest v = (.ok outs', u) := by
  unfold renderEach at h
  split at h
  · cases h
  · rename_i out v hnode
    split at h
    · cases h
    · rename_i outs' u' hrest
      cases h
      exact ⟨out, outs', v, rfl, hnode, hrest⟩

/-! ### A node in the middle of a render -/

/-- From the first state to the second, this much gas was used and these reports were made. -/
structure Extends (p : Progress) (gas : Nat) (reports : List Report) (q : Progress) : Prop where
  gas : q.gas = p.gas + gas
  reports : q.reports = p.reports ++ reports.toArray

theorem Extends.refl (p : Progress) : Extends p 0 [] p :=
  ⟨rfl, by simp⟩

theorem Extends.trans {p p' p'' : Progress} {gas gas' : Nat} {reports reports' : List Report}
    (h : Extends p gas reports p') (h' : Extends p' gas' reports' p'') :
    Extends p (gas + gas') (reports ++ reports') p'' := by
  refine ⟨?_, ?_⟩
  · have hgas := h.gas
    have hgas' := h'.gas
    omega
  · simp only [h'.reports, h.reports, Array.append_assoc, List.append_toArray]

theorem extends_of_inStep {w : World} {p p' q : Progress} (h : InStep { world := w } p p' q) :
    Extends p p'.gas p'.reports.toList q := by
  obtain ⟨hgas, new, hnew, hq⟩ := h
  simp only [Array.empty_append] at hnew
  refine ⟨?_, ?_⟩
  · simp only at hgas
    omega
  · rw [hq, hnew, Array.toArray_toList]

/- The node is run twice, from the start of a render and from the middle of one. What has been used and
found before does not count. -/
theorem race_resumed (hr : r.limits.output = none) (c : Scope) (node : Node) (gas gas' : UInt64)
    (p : Progress) :
    Race (r.withGas gas).limits (r.withGas gas').limits (fun p q => p.world = q.world)
      { world := p.world } p (Step.inlined ((r.withGas gas).eval c node) { world := p.world })
      (Step.inlined ((r.withGas gas').eval c node) p) := by
  have hstart : Alike (.same r.registry) [(c, c)] (r.withGas gas).limits (r.withGas gas').limits
      { world := p.world } p :=
    ⟨⟨rfl, by simp⟩, rfl, rfl, .inl hr⟩
  have hrace := (r.composed_inlined_eval node).race (.same r.registry) (r.withGas gas).limits
    (r.withGas gas').limits [(c, c)] c c _ _ List.mem_cons_self hstart
  exact hrace.imp fun p q hpq => hpq.world_eq

theorem resumed_of_render (hr : r.limits.output = none) {gas : UInt64} (gas' : UInt64) {p : Progress}
    {out : Rendered} (h : (r.withGas gas).render c node p.world = (.ok out, v))
    (henough : p.gas + out.gas ≤ gas'.toNat) :
    ∃ q, Step.inlined ((r.withGas gas').eval c node) p = .ok out.text q ∧ q.world = v ∧
      Extends p out.gas out.reports q := by
  obtain ⟨p', hp', hreports, hgas, rfl⟩ := render_eq_ok.1 h
  have hrace := race_resumed hr c node gas gas' p
  rw [hp'] at hrace
  generalize hy : Step.inlined ((r.withGas gas').eval c node) p = y at hrace
  cases hrace with
  | same hsame =>
    cases hsame with
    | @ok _ q _ hq =>
      refine ⟨q, rfl, hq.1.symm, ?_⟩
      rw [hgas, hreports]
      exact extends_of_inStep hq.2
  | leftSpent hspent => exact absurd hspent (Act.not_spent_ok _ _)
  | rightSpent _ _ hneed =>
    have hless : gas'.toNat < p'.gas + p.gas := hneed
    omega

theorem render_of_resumed (hr : r.limits.output = none) (gas : UInt64) {gas' : UInt64} {p q : Progress}
    {text : String} (h : Step.inlined ((r.withGas gas').eval c node) p = .ok text q)
    (henough : q.gas ≤ p.gas + gas.toNat) :
    ∃ out, (r.withGas gas).render c node p.world = (.ok out, q.world) ∧ out.text = text ∧
      Extends p out.gas out.reports q := by
  have hrace := race_resumed hr c node gas gas' p
  rw [h] at hrace
  generalize hx : Step.inlined ((r.withGas gas).eval c node) { world := p.world } = x at hrace
  cases hrace with
  | same hsame =>
    cases hsame with
    | @ok p' _ _ hp' =>
      have hrun := render_of_ok hx
      rw [hp'.1] at hrun
      exact ⟨_, hrun, rfl, extends_of_inStep hp'.2⟩
  | leftSpent _ _ hneed =>
    have hless : gas.toNat + p.gas < q.gas := hneed
    omega
  | rightSpent hspent => exact absurd hspent (Act.not_spent_ok _ _)

/-! ### The children of a concatenation -/

theorem eval_concat (r : Renderer) (c : Scope) (nodes : List Node) :
    r.eval c (.concat nodes) = Step.ticks r.limits 1 >>= fun _ => r.evalConcat c "" nodes := by
  simp only [eval, Step.ticks, bind_assoc, pure_bind]

theorem evalConcat_of_renderEach (hr : r.limits.output = none) {gas : UInt64} (gas' : UInt64)
    (nodes : List Node) {p : Progress} {outs : List Rendered} (acc : String)
    (h : (r.withGas gas).renderEach c nodes p.world = (.ok outs, v))
    (henough : p.gas + Rendered.totalGas outs ≤ gas'.toNat) :
    ∃ q, (r.withGas gas').evalConcat c acc nodes p = .ok (acc ++ String.join (outs.map (·.text))) q ∧
      q.world = v ∧ Extends p (Rendered.totalGas outs) (outs.flatMap (·.reports)) q := by
  induction nodes generalizing p outs acc with
  | nil =>
    simp only [renderEach, Prod.mk.injEq, Except.ok.injEq] at h
    obtain ⟨rfl, rfl⟩ := h
    refine ⟨p, ?_, rfl, .refl p⟩
    simp only [evalConcat, List.map_nil, String.join_nil, String.append_empty]
    rfl
  | cons node rest ih =>
    obtain ⟨out, outs', u, rfl, hnode, hrest⟩ := renderEach_cons_eq_ok h
    simp only [Rendered.totalGas] at henough
    obtain ⟨q, hq, rfl, hext⟩ := resumed_of_render hr gas' hnode (by omega)
    have hgas := hext.gas
    obtain ⟨q', hq', hv, hext'⟩ := ih (acc ++ out.text) hrest (by omega)
    refine ⟨q', ?_, hv, ?_⟩
    · rw [evalConcat, Act.bind_of_ok hq, hq']
      simp only [List.map_cons, String.join_cons, String.append_assoc]
    · simp only [Rendered.totalGas, List.flatMap_cons]
      exact hext.trans hext'

theorem renderEach_of_evalConcat (hr : r.limits.output = none) (gas : UInt64) {gas' : UInt64}
    (nodes : List Node) {p q : Progress} {acc text : String}
    (h : (r.withGas gas').evalConcat c acc nodes p = .ok text q)
    (henough : q.gas ≤ p.gas + gas.toNat) :
    ∃ outs, (r.withGas gas).renderEach c nodes p.world = (.ok outs, q.world) ∧
      text = acc ++ String.join (outs.map (·.text)) ∧
      Extends p (Rendered.totalGas outs) (outs.flatMap (·.reports)) q := by
  induction nodes generalizing p acc with
  | nil =>
    simp only [evalConcat] at h
    cases h
    exact ⟨[], rfl, by simp, .refl _⟩
  | cons node rest ih =>
    rw [evalConcat] at h
    obtain ⟨element, p', hnode, hrest⟩ := Act.bind_eq_ok h
    have hmetered := ((r.withGas gas').metered_inlined_eval c node p).1
    rw [hnode] at hmetered
    simp only [Act.endState] at hmetered
    obtain ⟨outs, houts, htext, hext'⟩ := ih hrest (by omega)
    -- the rest has given no gas back, so the first node has kept to what there is
    have hgas' := hext'.gas
    obtain ⟨out, hout, rfl, hext⟩ := render_of_resumed hr gas hnode (by omega)
    refine ⟨out :: outs, renderEach_cons_of_ok hout houts, ?_, ?_⟩
    · rw [htext]
      simp only [List.map_cons, String.join_cons, String.append_assoc]
    · simp only [Rendered.totalGas, List.flatMap_cons]
      exact hext.trans hext'

theorem inlined_concat (r : Renderer) (c : Scope) (nodes : List Node) (p : Progress)
    (h : p.gas + 1 ≤ r.limits.gas.toNat) :
    Step.inlined (r.eval c (.concat nodes)) p = r.evalConcat c "" nodes { p with gas := p.gas + 1 } := by
  rw [eval_concat]
  exact (r.unfaulted_evalConcat c "" nodes).inlined_ticks 1 h

/-- Without a limit on output a concatenation renders as its children do one after another: as soon as
either side succeeds and the other has the gas for it, both do, with the outputs and the reports joined and
one unit of gas more, in the same world. -/
theorem render_concat_sequential (r : Renderer) (hr : r.limits.output = none) (c : Scope)
    (nodes : List Node) (w v : World) (gas gas' : UInt64) :
    (∀ outs, (r.withGas gas).renderEach c nodes w = (.ok outs, v) →
      (Rendered.concat outs).gas ≤ gas'.toNat →
      (r.withGas gas').render c (.concat nodes) w = (.ok (.concat outs), v)) ∧
    (∀ out, (r.withGas gas').render c (.concat nodes) w = (.ok out, v) → out.gas ≤ gas.toNat + 1 →
      ∃ outs, (r.withGas gas).renderEach c nodes w = (.ok outs, v) ∧ out = .concat outs) := by
  refine ⟨fun outs h henough => ?_, fun out h henough => ?_⟩
  · simp only [Rendered.concat] at henough
    obtain ⟨q, hq, rfl, hext⟩ := evalConcat_of_renderEach (p := { world := w, gas := 1 }) hr
      gas' nodes "" h henough
    have hrun := (r.withGas gas').inlined_concat c nodes { world := w } (by simp only [withGas]; omega)
    rw [hq] at hrun
    refine render_eq_ok.2 ⟨q, ?_, ?_, hext.gas.symm, rfl⟩
    · rw [hrun, String.empty_append]
      rfl
    · rw [hext.reports]
      simp [Rendered.concat]
  · obtain ⟨q, hq, hreports, hgas, rfl⟩ := render_eq_ok.1 h
    have hone : 0 + 1 ≤ gas'.toNat := by
      rw [eval_concat] at hq
      exact Step.le_of_inlined_ticks hq
    rw [inlined_concat _ c nodes _ hone] at hq
    obtain ⟨outs, houts, htext, hext⟩ := renderEach_of_evalConcat hr gas nodes hq
      (by simp only; omega)
    refine ⟨outs, houts, ?_⟩
    obtain ⟨text, reports, used⟩ := out
    simp only at htext hreports hgas
    have hused := hext.gas
    have hfound := hext.reports
    simp only [Rendered.concat, Rendered.mk.injEq]
    refine ⟨by rw [htext, String.empty_append], ?_, by rw [hgas, hused]⟩
    rw [hreports, hfound]
    simp

/-- A variable is bound, a fault shown, a loop run that binds the variable again, and the variable read: each
of these renders needs 12 units of gas at most, and all together need 18. -/
theorem render_concat_sequential_mixed :
    let moment : Moment := { day := 0, second := 0, nano := 0 }
    let w : World := { store := (Store.empty.addRoot {}).2,
                       supply := { draw := fun _ => 0, reading := fun _ => moment } }
    let r : Renderer := { registry := Library.standard }
    let bind (value : Node) : Node := .call "set" [.text "x", value] [] none
    let nodes : List Node := [bind (.text "1"), .var "y",
      .call "loop" [.text "3", .concat [.var "x", bind (.var "iter")]] [] none, .var "x"]
    let missing : Report := { kind := .undefinedVariable, source := none,
                              message := "undefined variable 'y'", cause := none }
    let outs : List Rendered := [{ text := "", reports := [], gas := 3 },
      { text := "<undefined variable 'y'>", reports := [missing], gas := 1 },
      { text := "11", reports := [], gas := 12 }, { text := "2", reports := [], gas := 1 }]
    ∃ v, (r.withGas 12).renderEach ⟨0⟩ nodes w = (.ok outs, v) ∧
      (r.withGas 18).render ⟨0⟩ (.concat nodes) w = (.ok (.concat outs), v) ∧
      ∃ outs', (r.withGas 17).renderEach ⟨0⟩ nodes w = (.ok outs', v) ∧
        Rendered.concat outs = .concat outs' := by
  intro moment w r bind nodes missing outs
  have hok : ((r.withGas 12).renderEach ⟨0⟩ nodes w).1.toOption = some outs := by decide +kernel
  have heach := eq_ok_of_toOption hok
  have hconcat := (render_concat_sequential r rfl ⟨0⟩ nodes w _ 12 18).1 outs heach (by decide)
  exact ⟨_, heach, hconcat,
    (render_concat_sequential r rfl ⟨0⟩ nodes w _ 17 18).2 _ hconcat (by decide)⟩

end Renderer

end Stencil
