import Stencil.Proofs.OutputLimit

/-!
# A limit that is not reached

A render is run twice, without a limit on loop output and under one, and the two runs are compared step by
step. At every test of the limit, what has been counted and what the loop has pending is at most the sum of
all that loops of any depth have yielded. So a limit above that sum stops no loop.
-/

namespace Stencil

namespace LoopEvent

def elementSize : LoopEvent → Nat
  | .yielded _ element => element.utf8ByteSize
  | _ => 0

/-- The bytes that loops of all depths yield in some events. An element counts once for every loop that it
is yielded by. -/
def yieldedBytes : List LoopEvent → Nat
  | [] => 0
  | e :: rest => e.elementSize + yieldedBytes rest

theorem yieldedBytes_append (before rest : List LoopEvent) :
    yieldedBytes (before ++ rest) = yieldedBytes before + yieldedBytes rest := by
  induction before with
  | nil => rw [List.nil_append, yieldedBytes, Nat.zero_add]
  | cons e before ih =>
    rw [List.cons_append, yieldedBytes, yieldedBytes, ih]
    omega

/-- The events of one element: its body is entered and the element yielded. -/
theorem yieldedBytes_element (depth : Nat) (events : List LoopEvent) (element : String) :
    yieldedBytes (.entered depth :: events ++ [.yielded depth element]) =
      yieldedBytes events + element.utf8ByteSize := by
  rw [yieldedBytes_append]
  simp only [yieldedBytes, elementSize, Nat.zero_add, Nat.add_zero]

theorem yieldedBytes_failure (depth : Nat) (events : List LoopEvent) (cause : Failure) :
    yieldedBytes (.entered depth :: events ++ [.abandoned depth cause]) = yieldedBytes events := by
  rw [yieldedBytes_append]
  simp only [yieldedBytes, elementSize, Nat.zero_add, Nat.add_zero]

end LoopEvent

open LoopEvent (yieldedBytes)

namespace Step

/-- What a loop with this output pending compares with the limit. -/
def counted (p : Progress) (out : String) : Nat :=
  if p.depth = 1 then p.looped else p.looped + out.utf8ByteSize

theorem looped_le_counted (p : Progress) (out : String) : p.looped ≤ counted p out := by
  unfold counted
  split <;> omega

theorem counted_empty (p : Progress) : counted p "" = p.looped := by
  unfold counted
  split <;> rfl

theorem counted_le {p q : Progress} {bytes : Nat} (hdepth : q.depth = p.depth)
    (hlooped : q.looped ≤ p.looped + bytes) (out : String) : counted q out ≤ counted p out + bytes := by
  unfold counted
  rw [hdepth]
  split <;> omega

/- An element moves the count of an outermost loop, and the pending output of any other. -/
theorem counted_countElement {depth : Nat} {p : Progress} (hp : p.depth = depth + 1) (out element : String) :
    counted (countElement (depth == 0) element p) (out ++ element) =
      counted p out + element.utf8ByteSize := by
  cases depth with
  | zero =>
    have hcount : countElement (0 == 0) element p =
        { p with looped := p.looped + element.utf8ByteSize } := rfl
    simp only [counted, hcount, hp, Nat.zero_add, if_true]
  | succ n =>
    have hcount : countElement (n + 1 == 0) element p = p := rfl
    have hdeep : p.depth ≠ 1 := by omega
    simp only [counted, hcount, if_neg hdeep, String.utf8ByteSize_append]
    omega

theorem limitReached_of_none {limits : Limits} (h : limits.output = none) (p : Progress) (out : String) :
    limitReached limits p out = false := by
  simp only [limitReached, h]

theorem limitReached_of_counted_lt {limits : Limits} {limit : UInt64} (h : limits.output = some limit)
    {p : Progress} {out : String} (hless : counted p out < limit.toNat) :
    limitReached limits p out = false := by
  rw [limitReached_eq h]
  unfold counted at hless
  simp only [decide_eq_false_iff_not]
  omega

/-- What follows an observed run of the body, the loop being at the next value. -/
def observeElement (limits : Limits) (depth : Nat) (body : Scope → Progress → Observed String) (n : Nat)
    (l : Loop) (out : String) (o : Observed String) : Observed String :=
  match o.result with
  | .error e q =>
    { result := .error e (l.restore q), events := .entered depth :: o.events ++ [.abandoned depth e] }
  | .ok element q =>
    (observeDrain limits depth body n l (out ++ element) (countElement (depth == 0) element q)).after
      (.entered depth :: o.events ++ [.yielded depth element])

theorem observeDrain_succ {limits : Limits} {p : Progress} {out : String}
    (h : limitReached limits p out = false) (depth : Nat) (body : Scope → Progress → Observed String)
    (n : Nat) (l : Loop) : observeDrain limits depth body (n + 1) l out p = match l.cursor.pull with
      | (none, _) => l.observeStop depth out p
      | (some i, d) => observeElement limits depth body n { l with cursor := d } out
          (body l.scope (l.entered i p)) := by
  rw [observeDrain, h]
  rfl

end Step

/-! ### The run under the limit -/

/-- An observed run without a limit, from a state in which `soFar` bytes stand against the limit, and a run
under the limit: the first ends at the depth it began at, has counted no more than loops have yielded, and
if that does not take it to the limit, then the second is the same. -/
structure Observed.Unaffected {α : Type} (limit : UInt64) (soFar : Nat) (p : Progress)
    (free limited : Observed α) : Prop where
  depth : (Act.endState free.result).depth = p.depth
  looped : (Act.endState free.result).looped ≤ p.looped + yieldedBytes free.events
  same : soFar + yieldedBytes free.events < limit.toNat → limited = free

namespace Observed.Unaffected

variable {limit : UInt64} {soFar : Nat} {p : Progress} {α β : Type}

theorem refl {o : Observed α} (hd : (Act.endState o.result).depth = p.depth)
    (hl : (Act.endState o.result).looped = p.looped) : Unaffected limit soFar p o o :=
  ⟨hd, Nat.le_add_right_of_le (Nat.le_of_eq hl), fun _ => rfl⟩

/- Only the depth and the count of the first state matter. -/
theorem rebase {o o' : Observed α} {q : Progress} (h : Unaffected limit soFar q o o')
    (hd : q.depth = p.depth) (hl : q.looped = p.looped) : Unaffected limit soFar p o o' :=
  ⟨hd ▸ h.depth, hl ▸ h.looped, h.same⟩

/- The result of a run may be looked at in another way, as long as depth and count stay. -/
theorem map {o o' : Observed α} (h : Unaffected limit soFar p o o') (f : Observed α → Observed β)
    (hevents : (f o).events = o.events)
    (hd : (Act.endState (f o).result).depth = (Act.endState o.result).depth)
    (hl : (Act.endState (f o).result).looped = (Act.endState o.result).looped) :
    Unaffected limit soFar p (f o) (f o') := by
  refine ⟨hd.trans h.depth, ?_, fun hless => ?_⟩
  · rw [hl, hevents]
    exact h.looped
  · rw [hevents] at hless
    rw [h.same hless]

theorem inlined {o o' : Observed String} (h : Unaffected limit soFar p o o') :
    Unaffected limit soFar p (o.inlined p) (o'.inlined p) :=
  h.map (·.inlined p) rfl (Step.depth_inlined o.outcome p) (Step.looped_inlined o.outcome p)

theorem operand {o o' : Observed String} (h : Unaffected limit soFar p o o') :
    Unaffected limit soFar p ⟨Step.operand o.outcome p, o.events⟩ ⟨Step.operand o'.outcome p, o'.events⟩ := by
  refine h.map (fun o => ⟨Step.operand o.outcome p, o.events⟩) rfl ?_ ?_ <;>
  · simp only [Step.operand, Observed.outcome]
    cases o.result with
    | ok s q => rfl
    | error e q => cases e <;> rfl

/- What follows these events, from the state `q` that they lead to. -/
theorem after {next next' : Observed β} {events : List LoopEvent} {q : Progress} {soFar' : Nat}
    (hdepth : q.depth = p.depth) (hlooped : q.looped ≤ p.looped + yieldedBytes events)
    (hsoFar : soFar' ≤ soFar + yieldedBytes events) (h : Unaffected limit soFar' q next next') :
    Unaffected limit soFar p (next.after events) (next'.after events) := by
  have hnext := h.looped
  refine ⟨h.depth.trans hdepth, ?_, fun hless => ?_⟩
  · simp only [Observed.after, LoopEvent.yieldedBytes_append]
    omega
  · simp only [Observed.after, LoopEvent.yieldedBytes_append] at hless
    rw [h.same (by omega)]

/-! ### Loops -/

theorem stop (l : Loop) (depth : Nat) (out : String) :
    Unaffected limit soFar p (l.observeStop depth out p) (l.observeStop depth out p) := by
  have hrestore : l.restore p = { p with world := l.restore p.world } := Loop.restore_progress l p
  refine refl ?_ ?_
  · simp only [Loop.observeStop, Act.endState, hrestore]
  · simp only [Loop.observeStop, Act.endState, hrestore]

theorem congr {o o' o'' : Observed α} (h : Unaffected limit soFar p o o')
    (hsame : soFar + yieldedBytes o.events < limit.toNat → o'' = o') : Unaffected limit soFar p o o'' :=
  ⟨h.depth, h.looped, fun hless => (hsame hless).trans (h.same hless)⟩

theorem element {limits limits' : Limits} {depth : Nat} {body body' : Scope → Progress → Observed String}
    {n : Nat} {l : Loop} (hrest : ∀ out q, q.depth = depth + 1 →
      Unaffected limit (Step.counted q out) q (Step.observeDrain limits depth body n l out q)
        (Step.observeDrain limits' depth body' n l out q))
    {o o' : Observed String} (ho : Unaffected limit p.looped p o o') (out : String)
    (hp : p.depth = depth + 1) :
    Unaffected limit (Step.counted p out) p (Step.observeElement limits depth body n l out o)
      (Step.observeElement limits' depth body' n l out o') := by
  have hdepth := ho.depth
  have hlooped := ho.looped
  have hpending := Step.looped_le_counted p out
  cases hresult : o.result with
  | error e q =>
    have hfree : Step.observeElement limits depth body n l out o = ⟨.error e (l.restore q),
        .entered depth :: o.events ++ [.abandoned depth e]⟩ := by
      simp only [Step.observeElement, hresult]
    rw [hresult] at hdepth hlooped
    simp only [Act.endState] at hdepth hlooped
    rw [hfree]
    refine ⟨?_, ?_, fun hless => ?_⟩
    · rw [Act.endState, Loop.restore_progress]
      exact hdepth
    · rw [Act.endState, Loop.restore_progress, LoopEvent.yieldedBytes_failure]
      exact hlooped
    · rw [LoopEvent.yieldedBytes_failure] at hless
      have hsame : o' = o := ho.same (by omega)
      simp only [hsame, Step.observeElement, hresult]
  | ok text q =>
    let q' := Step.countElement (depth == 0) text q
    let events := .entered depth :: o.events ++ [.yielded depth text]
    have hbytes : yieldedBytes events = yieldedBytes o.events + text.utf8ByteSize :=
      LoopEvent.yieldedBytes_element depth o.events text
    have hstep : ∀ (limits : Limits) (body : Scope → Progress → Observed String),
        Step.observeElement limits depth body n l out o =
          (Step.observeDrain limits depth body n l (out ++ text) q').after events := by
      intro limits body
      simp only [Step.observeElement, hresult, q', events]
    rw [hresult] at hdepth hlooped
    simp only [Act.endState] at hdepth hlooped
    have hdepth' : q'.depth = p.depth := by
      rw [Step.depth_countElement, hdepth]
    have hlooped' : q'.looped ≤ p.looped + yieldedBytes events := by
      have hmost : (LoopEvent.yielded depth text).bytes ≤ text.utf8ByteSize := by
        cases depth <;> simp [LoopEvent.bytes]
      rw [Step.looped_countElement, hbytes]
      omega
    have hcounted : Step.counted q' (out ++ text) ≤ Step.counted p out + yieldedBytes events := by
      have hbody := Step.counted_le hdepth hlooped out
      rw [Step.counted_countElement (hdepth.trans hp), hbytes]
      omega
    have hafter := after hdepth' hlooped' hcounted (hrest (out ++ text) q' (hdepth'.trans hp))
    rw [← hstep, ← hstep] at hafter
    refine hafter.congr fun hless => ?_
    rw [hstep, Observed.after, LoopEvent.yieldedBytes_append, hbytes] at hless
    have hsame : o' = o := ho.same (by omega)
    rw [hsame]

/- By induction on the elements that may still be taken. What stands against the limit grows by no more than
an element's own size and what loops in its body yield. -/
theorem drain {limits : Limits} (hnone : limits.output = none) {depth : Nat}
    {body body' : Scope → Progress → Observed String}
    (hbody : ∀ c p, Unaffected limit p.looped p (body c p) (body' c p))
    (fuel : Nat) (l : Loop) (out : String) (hp : p.depth = depth + 1) :
    Unaffected limit (Step.counted p out) p (Step.observeDrain limits depth body fuel l out p)
      (Step.observeDrain { limits with output := some limit } depth body' fuel l out p) := by
  induction fuel generalizing l out p with
  | zero => exact stop l depth out
  | succ n ih =>
    -- below the limit both runs go on, so they are compared as if the second had not been tested
    have hopen : Step.counted p out < limit.toNat →
        Step.limitReached { limits with output := some limit } p out = false :=
      Step.limitReached_of_counted_lt rfl
    rw [Step.observeDrain_succ (Step.limitReached_of_none hnone p out)]
    cases hpull : l.cursor.pull with
    | mk next d =>
      cases next with
      | none =>
        refine (stop l depth out).congr fun hless => ?_
        rw [Step.observeDrain_succ (hopen (by omega)), hpull]
      | some i =>
        have ho : Unaffected limit p.looped p (body l.scope (l.entered i p))
            (body' l.scope (l.entered i p)) :=
          (hbody l.scope (l.entered i p)).rebase rfl rfl
        refine (element (fun out q hq => ih { l with cursor := d } out hq) ho out hp).congr fun hless => ?_
        rw [Step.observeDrain_succ (hopen (by omega)), hpull]

theorem deeper {o o' : Observed α}
    (h : Unaffected limit soFar { p with depth := p.depth + 1 } o o') :
    Unaffected limit soFar p ⟨Step.deeper o.outcome p, o.events⟩ ⟨Step.deeper o'.outcome p, o'.events⟩ := by
  have hdepth := h.depth
  refine ⟨?_, ?_, fun hless => ?_⟩
  · rw [Step.depth_deeper, Observed.outcome, hdepth]
    rfl
  · rw [Step.looped_deeper, Observed.outcome]
    exact h.looped
  · rw [h.same hless]

end Observed.Unaffected

namespace Renderer

def withOutput (r : Renderer) (output : Option UInt64) : Renderer :=
  { r with limits := { r.limits with output } }

end Renderer

theorem Script.unaffected_observe {r : Renderer} (hnone : r.limits.output = none) (limit : UInt64)
    {α : Type} (x : Script α) (c : Scope) (p : Progress) :
    Observed.Unaffected limit p.looped p (x.observe r c p) (x.observe (r.withOutput (some limit)) c p) := by
  induction x generalizing c p with
  | pure a => exact .refl rfl rfl
  | raise e => exact .refl rfl rfl
  | tick =>
    refine .refl ?_ ?_ <;>
    · simp only [observe, Observed.quiet, Step.tick]
      split <;> rfl
  | lookup name => exact .refl rfl rfl
  | call name bare into args =>
    refine .refl ?_ ?_ <;>
    · simp only [observe, Observed.quiet, Step.ofAction]
      cases r.registry.call name { scope := c, bare, into } args p.world <;> rfl
  | inlined x ih => exact (ih c p).inlined
  | operand x ih => exact (ih c p).operand
  | bind x f ihx ihf =>
    have hx := ihx c p
    have hdepth := hx.depth
    have hlooped := hx.looped
    rw [observe, observe]
    cases hresult : (x.observe r c p).result with
    | ok a q =>
      rw [hresult] at hdepth hlooped
      refine (Observed.Unaffected.after hdepth hlooped hlooped (ihf a c q)).congr fun hless => ?_
      simp only [Observed.after, LoopEvent.yieldedBytes_append] at hless
      rw [hx.same (by omega), hresult]
    | error e q =>
      rw [hresult] at hdepth hlooped
      refine ⟨hdepth, hlooped, fun hless => ?_⟩
      rw [hx.same hless, hresult]
  | loop spec body ih =>
    rw [observe, observe]
    cases Span.parse spec with
    | error e => exact .refl rfl rfl
    | ok span =>
      let q := (Loop.start c span p).2
      have hbody : ∀ d s, Observed.Unaffected limit s.looped s ((body.observe r d s).inlined s)
          ((body.observe (r.withOutput (some limit)) d s).inlined s) :=
        fun d s => (ih d s).inlined
      have hdrain := Observed.Unaffected.drain hnone hbody (span.cursor.size + 1) (Loop.start c span p).1 ""
        (p := { q with depth := q.depth + 1 }) rfl
      rw [Step.counted_empty] at hdrain
      exact hdrain.deeper.rebase rfl rfl

namespace Renderer

theorem render_eq_of_result_observe {r r' : Renderer} {c : Scope} {node : Node} {w : World}
    (h : (r.observe c node w).result = (r'.observe c node w).result) :
    r.render c node w = r'.render c node w := by
  rw [result_observe, result_observe] at h
  rw [render, render, h]

/-- A limit on loop output above the bytes that all loops of a render yield without it, at every depth,
changes nothing: the render ends in the same way and in the same world, and its loops do the same. The
bytes are those of the observed render, which has the result of the render itself. -/
theorem render_under_unreached_limit (r : Renderer) (limit : UInt64) (c : Scope) (node : Node) (w : World)
    (hless : yieldedBytes ((r.withOutput none).observe c node w).events < limit.toNat) :
    ((r.withOutput none).observe c node w).result =
        Step.inlined ((r.withOutput none).eval c node) { world := w } ∧
      (r.withOutput (some limit)).observe c node w = (r.withOutput none).observe c node w ∧
      (r.withOutput (some limit)).render c node w = (r.withOutput none).render c node w := by
  have hrun : Observed.Unaffected limit 0 { world := w } ((r.withOutput none).observe c node w)
      ((r.withOutput (some limit)).observe c node w) :=
    Script.unaffected_observe (r := r.withOutput none) rfl limit (.inlined (.ofNode r.registry node)) c
      { world := w }
  have hsame := hrun.same (by omega)
  exact ⟨result_observe _ c node w, hsame, render_eq_of_result_observe (by rw [hsame])⟩

/-- Loops yield nineteen bytes here, most of them into a call that gives nothing. A limit of twenty is not
reached, also where gas is spent on the way. -/
theorem render_under_unreached_limit_discarded :
    let moment : Moment := { day := 0, second := 0, nano := 0 }
    let w : World := { store := (Store.empty.addRoot {}).2,
                       supply := { draw := fun _ => 0, reading := fun _ => moment } }
    let r : Renderer := { registry := Library.standard }
    let poor : Renderer := { registry := Library.standard, limits := { gas := 9 } }
    let nested : Node := .call "loop" [.text "3", .call "loop" [.text "3", .text "xy"] [] none] [] none
    let node : Node := .concat [.call "void" [nested] [] none,
      .call "loop" [.text "4", .var "iter"] [] none]
    yieldedBytes ((r.withOutput none).observe ⟨0⟩ node w).events = 19 ∧
      (r.withOutput (some 20)).render ⟨0⟩ node w = (r.withOutput none).render ⟨0⟩ node w ∧
      ((r.withOutput (some 20)).render ⟨0⟩ node w).1.toOption.map (·.text) = some "123" ∧
      (poor.withOutput (some 20)).render ⟨0⟩ node w = (poor.withOutput none).render ⟨0⟩ node w ∧
      ((poor.withOutput (some 20)).render ⟨0⟩ node w).1.toOption = none := by
  intro moment w r poor nested node
  have hbytes : yieldedBytes ((r.withOutput none).observe ⟨0⟩ node w).events = 19 := by decide +kernel
  have hpoor : yieldedBytes ((poor.withOutput none).observe ⟨0⟩ node w).events < 20 := by decide +kernel
  have hless : yieldedBytes ((r.withOutput none).observe ⟨0⟩ node w).events < 20 := by
    rw [hbytes]
    decide
  exact ⟨hbytes, (render_under_unreached_limit r 20 ⟨0⟩ node w hless).2.2, by decide +kernel,
    (render_under_unreached_limit poor 20 ⟨0⟩ node w hpoor).2.2, by decide +kernel⟩

end Renderer

end Stencil
