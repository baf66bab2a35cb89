import Stencil.Proofs.Renders

/-!
# The loop variable is put back

A loop pulled by a host and a loop of a template both leave `iter` as they found it, however they end.
-/

namespace Stencil

namespace Renderer

/-- What a loop call does before its loop: gas, the check of the call, and the text of the range. -/
def rangeText (r : Renderer) (c : Scope) (caps : Capabilities) (into : Option String)
    (range : Node) : Step String := do
  Step.tick r.limits
  checkSite caps c into "loop"
  Step.inlined (r.eval c range)

theorem rangeText_reaches {r : Renderer} (hr : r.registry.IsPublic) {c : Scope} (caps : Capabilities)
    (into : Option String) (range : Node) {p q : Progress} {spec : String}
    (hs : p.world.store.WellFormed) (hc : p.world.store.holds c)
    (hq : r.rangeText c caps into range p = .ok spec q) :
    p.world.store.Reaches q.world.store := by
  have hx : Composed r.registry fun limits c =>
      rangeText { registry := r.registry, limits } c caps into range :=
    .bind .tick fun _ => .bind (.checkSite caps into "loop") fun _ => .inlined (.eval range)
  have h : p.world.store.Reaches (Act.endState (r.rangeText c caps into range p)).world.store :=
    hx.reaches hr r.limits c p hs hc
  rw [hq] at h
  exact h

theorem eval_loop_call (r : Renderer) (c : Scope) {name : String} {b : Builtin}
    (hb : r.registry.get? name = some b) (hk : b.kind = .iteration) (range body : Node)
    (named : List (String × Node)) (into : Option String) :
    r.eval c (.call name [range, body] named into) =
      r.rangeText c b.caps into range >>= fun spec =>
        Step.loop r.limits c spec fun d => Step.inlined (r.eval d body) := by
  simp only [eval, hb, hk, evalLoop, rangeText, bind_assoc]

end Renderer

/-- `iter` is seen from the parent of a loop as it was when the loop began: after any number of pulls and
a drop, after the pull that finds the end, and after the pull that fails. So a loop of a template leaves
`iter` as it was when its range had been evaluated, whatever the outcome. -/
theorem loop_variable_restored :
    (∀ (σ : Type) [HasStore σ] [LawfulStore σ] (body : Deferred σ) (c : Scope) (spec : String)
      (s t u : σ) (l m : Loop) (k : Nat), Public body → (HasStore.store s).Reachable →
      (HasStore.store s).holds c → Loop.begin c spec s = .ok l t → Loop.pulls body k l t = (m, u) →
      (HasStore.store (m.restore u)).get? c loopVariable = (HasStore.store s).get? c loopVariable ∧
      ((∀ text, (m.pull body u).1.1 ≠ some (.ok text)) →
        (HasStore.store (m.pull body u).2).get? c loopVariable =
          (HasStore.store s).get? c loopVariable)) ∧
    (∀ (r : Renderer) (c : Scope) (name : String) (b : Builtin) (range body : Node)
      (named : List (String × Node)) (into : Option String) (p q : Progress) (spec : String),
      r.registry.IsPublic → p.world.store.Reachable → p.world.store.holds c →
      r.registry.get? name = some b → b.kind = .iteration →
      r.rangeText c b.caps into range p = .ok spec q →
      (Act.endState (r.eval c (.call name [range, body] named into) p)).world.store.get? c
        loopVariable = q.world.store.get? c loopVariable) := by
  refine ⟨fun σ _ _ body c spec s t u l m k hb hs hc hl hm => ?_,
    fun r c name b range body named into p q spec hr hs hc hname hkind hq => ?_⟩
  · obtain ⟨span, -, rfl, rfl⟩ := Loop.start_of_begin hl
    have hwf := hs.wellFormed
    have ht := (Loop.placed_start (s := s) hc span).1.wellFormed hwf
    obtain ⟨hreach, hg⟩ := (Loop.guards_start hwf hc span).pulls ht hb k
    rw [hm] at hreach hg
    have hu := hreach.wellFormed ht
    exact ⟨hg.restore hu, (hg.pull hu hb).2⟩
  · have hreach := Renderer.rangeText_reaches hr b.caps into range hs.wellFormed hc hq
    rw [Renderer.eval_loop_call r c hname hkind, Act.bind_of_ok hq]
    exact (Step.loop_restores (r.public_eval hr body) r.limits spec
      (hreach.wellFormed hs.wellFormed) (hreach.holds hc)).2

/-- A member in `iter` outlives a loop whose body unbinds `iter`, dropped after one of two values, and a
loop of a template that binds `iter` to text. -/
theorem loop_variable_restored_member :
    let s : Store := (Store.empty.addRoot {}).2.set ⟨0⟩ loopVariable
      (some (.member { id := 7, name := "ada", discriminator := "0001" }))
    let moment : Moment := { day := 0, second := 0, nano := 0 }
    let w : World := { store := s, supply := { draw := fun _ => 0, reading := fun _ => moment } }
    let body : Deferred World := fun c w =>
      .ok "x" { w with store := w.store.set c loopVariable none }
    let begun := Loop.start ⟨0⟩ { start := 1, stop := 3, step := 1 } w
    let pulled := Loop.pulls body 1 begun.1 begun.2
    let r : Renderer := { registry := Library.standard }
    let writer : Node := .call "set" [.text "iter", .text "z"] [] none
    s.Reachable ∧ Public body ∧ Loop.begin ⟨0⟩ "3" w = .ok begun.1 begun.2 ∧
      (pulled.1.restore pulled.2).store.get? ⟨0⟩ loopVariable = s.get? ⟨0⟩ loopVariable ∧
      r.rangeText ⟨0⟩ Library.plain none (.text "3") { world := w } =
        .ok "3" { world := w, gas := 2 } ∧
      (Act.endState (r.eval ⟨0⟩ (.call "loop" [.text "3", writer] [] none)
        { world := w })).world.store.get? ⟨0⟩ loopVariable = s.get? ⟨0⟩ loopVariable := by
  intro s moment w body begun pulled r writer
  have hs : s.Reachable :=
    .tail (.tail .refl (.addRoot _ {})) (.set _ ⟨0⟩ (by decide) loopVariable _)
  have hb : Public body := fun c v _ hc => Store.Reaches.set hc loopVariable none
  have hbegin : Loop.begin ⟨0⟩ "3" w = .ok begun.1 begun.2 := rfl
  have hrange : r.rangeText ⟨0⟩ Library.plain none (.text "3") { world := w } =
      .ok "3" { world := w, gas := 2 } := rfl
  have hloop : r.registry.get? "loop" =
      some { name := "loop", caps := Library.plain, kind := .iteration } := rfl
  exact ⟨hs, hb, hbegin,
    (loop_variable_restored.1 World body ⟨0⟩ "3" w begun.2 pulled.2 begun.1 pulled.1 1 hb hs
      (by decide) hbegin rfl).1,
    hrange,
    loop_variable_restored.2 r ⟨0⟩ "loop" _ (.text "3") writer [] none { world := w } _ "3"
      Library.standard_isLocal.isPublic hs (by decide) hloop rfl hrange⟩

end Stencil
