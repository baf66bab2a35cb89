import Stencil.Proofs.Faults
import Stencil.Proofs.Observation
import Stencil.Proofs.Renders
import Stencil.Proofs.Spans

/-!
# The limit on loop output

The bytes that outermost loops have yielded are counted as they are yielded. As soon as they reach the limit
no loop takes another element. An observed run is checked against this event by event.
-/

namespace Stencil

/-! ### Counting -/

namespace LoopEvent

/-- The bytes that an event adds to the output of outermost loops. -/
def bytes : LoopEvent → Nat
  | .yielded 0 element => element.utf8ByteSize
  | _ => 0

def outerBytes : List LoopEvent → Nat
  | [] => 0
  | e :: rest => e.bytes + outerBytes rest

/-- May an event follow when outermost loops have yielded so many bytes? -/
def Allowed (most soFar : Nat) : LoopEvent → Prop
  | .entered _ => soFar < most
  | .yielded 0 _ => soFar < most
  | .stopped 0 true => most ≤ soFar
  | .abandoned _ cause => ∀ e, cause ≠ .fault e
  | _ => True

def AllAllowed (most : Nat) : (soFar : Nat) → List LoopEvent → Prop
  | _, [] => True
  | soFar, e :: rest => e.Allowed most soFar ∧ AllAllowed most (soFar + e.bytes) rest

variable {most soFar : Nat}

@[simp]
theorem outerBytes_nil : outerBytes [] = 0 := rfl

@[simp]
theorem outerBytes_cons (e : LoopEvent) (rest : List LoopEvent) :
    outerBytes (e :: rest) = e.bytes + outerBytes rest := rfl

@[simp]
theorem outerBytes_append (before rest : List LoopEvent) :
    outerBytes (before ++ rest) = outerBytes before + outerBytes rest := by
  induction before with
  | nil => simp
  | cons e before ih => simp [ih, Nat.add_assoc]

theorem allAllowed_append {before rest : List LoopEvent} :
    AllAllowed most soFar (before ++ rest) ↔
      AllAllowed most soFar before ∧ AllAllowed most (soFar + outerBytes before) rest := by
  induction before generalizing soFar with
  | nil => simp [AllAllowed]
  | cons e before ih =>
    simp only [List.cons_append, AllAllowed, ih, outerBytes_cons, and_assoc, Nat.add_assoc]

theorem AllAllowed.at {events before after : List LoopEvent} {e : LoopEvent}
    (h : AllAllowed most soFar events) (he : events = before ++ e :: after) :
    e.Allowed most (soFar + outerBytes before) := by
  rw [he, allAllowed_append] at h
  exact h.2.1

end LoopEvent

namespace Step

theorem limitReached_eq {limits : Limits} {most : UInt64} (h : limits.output = some most) (p : Progress)
    (out : String) : limitReached limits p out =
      decide (most.toNat ≤ if p.depth = 1 then p.looped else p.looped + out.utf8ByteSize) := by
  simp only [limitReached, h]

theorem looped_lt_of_not_limitReached {limits : Limits} {most : UInt64} (h : limits.output = some most)
    {p : Progress} {out : String} (hp : ¬ limitReached limits p out) : p.looped < most.toNat := by
  rw [limitReached_eq h, decide_eq_true_eq] at hp
  split at hp <;> omega

theorem le_looped_of_limitReached {limits : Limits} {most : UInt64} (h : limits.output = some most)
    {p : Progress} {out : String} (hd : p.depth = 1) (hp : limitReached limits p out) :
    most.toNat ≤ p.looped := by
  rw [limitReached_eq h, decide_eq_true_eq, if_pos hd] at hp
  exact hp

theorem depth_countElement (outermost : Bool) (element : String) (p : Progress) :
    (countElement outermost element p).depth = p.depth := by
  cases outermost <;> rfl

theorem looped_countElement (depth : Nat) (element : String) (p : Progress) :
    (countElement (depth == 0) element p).looped = p.looped + (LoopEvent.yielded depth element).bytes := by
  cases depth <;> rfl

theorem depth_inlined (x : Step String) (p : Progress) :
    (Act.endState (inlined x p)).depth = (Act.endState (x p)).depth := by
  unfold inlined
  cases x p with
  | ok s q => rfl
  | error e q => cases e <;> rfl

theorem looped_inlined (x : Step String) (p : Progress) :
    (Act.endState (inlined x p)).looped = (Act.endState (x p)).looped := by
  unfold inlined
  cases x p with
  | ok s q => rfl
  | error e q => cases e <;> rfl

theorem depth_deeper {α : Type} (x : Step α) (p : Progress) : (Act.endState (deeper x p)).depth =
    (Act.endState (x { p with depth := p.depth + 1 })).depth - 1 := by
  unfold deeper
  cases x { p with depth := p.depth + 1 } <;> rfl

theorem looped_deeper {α : Type} (x : Step α) (p : Progress) : (Act.endState (deeper x p)).looped =
    (Act.endState (x { p with depth := p.depth + 1 })).looped := by
  unfold deeper
  cases x { p with depth := p.depth + 1 } <;> rfl

end Step

/-! ### Observed runs -/

/-- What an observed run from a state tells agrees with the state that it ends in: loops are over that were
begun, what outermost loops yielded is counted, and all events were allowed. Inside a loop, which is where
`around` is not zero, no loop is an outermost one. -/
structure Observed.Accounted {α : Type} (most : Nat) (around : Nat) (p : Progress) (o : Observed α) :
    Prop where
  depth : (Act.endState o.result).depth = p.depth
  looped : (Act.endState o.result).looped = p.looped + LoopEvent.outerBytes o.events
  inner : around ≠ 0 → LoopEvent.outerBytes o.events = 0
  allowed : LoopEvent.AllAllowed most p.looped o.events

namespace Observed.Accounted

variable {most around : Nat} {p : Progress} {α β : Type}

theorem of_noEvents {o : Observed α} (he : o.events = []) (hd : (Act.endState o.result).depth = p.depth)
    (hl : (Act.endState o.result).looped = p.looped) : o.Accounted most around p := by
  refine ⟨hd, ?_, fun _ => ?_, ?_⟩
  · rw [hl, he, LoopEvent.outerBytes_nil, Nat.add_zero]
  · rw [he, LoopEvent.outerBytes_nil]
  · rw [he]
    trivial

/- Only the depth and the count of the first state matter. -/
theorem rebase {o : Observed α} {q : Progress} (h : o.Accounted most around q) (hd : q.depth = p.depth)
    (hl : q.looped = p.looped) : o.Accounted most around p :=
  ⟨hd ▸ h.depth, hl ▸ h.looped, h.inner, hl ▸ h.allowed⟩

theorem of_sameEvents {o : Observed α} {o' : Observed β} (h : o.Accounted most around p)
    (he : o'.events = o.events) (hd : (Act.endState o'.result).depth = (Act.endState o.result).depth)
    (hl : (Act.endState o'.result).looped = (Act.endState o.result).looped) :
    o'.Accounted most around p := by
  refine ⟨hd.trans h.depth, ?_, ?_, ?_⟩
  · rw [hl, he]
    exact h.looped
  · rw [he]
    exact h.inner
  · rw [he]
    exact h.allowed

theorem after {o : Observed α} {o' : Observed β} {q : Progress} (h : o.Accounted most around p)
    (hq : Act.endState o.result = q) (h' : o'.Accounted most around q) :
    (o'.after o.events).Accounted most around p := by
  have hdepth := h.depth
  have hlooped := h.looped
  rw [hq] at hdepth hlooped
  refine ⟨h'.depth.trans hdepth, ?_, fun ha => ?_, ?_⟩
  · simp only [Observed.after, LoopEvent.outerBytes_append]
    rw [h'.looped, hlooped, Nat.add_assoc]
  · simp only [Observed.after, LoopEvent.outerBytes_append]
    rw [h.inner ha, h'.inner ha]
  · simp only [Observed.after]
    rw [LoopEvent.allAllowed_append, ← hlooped]
    exact ⟨h.allowed, h'.allowed⟩

theorem inlined {o : Observed String} (h : o.Accounted most around p) :
    (o.inlined p).Accounted most around p :=
  h.of_sameEvents rfl (Step.depth_inlined o.outcome p) (Step.looped_inlined o.outcome p)

theorem operand {o : Observed String} (h : o.Accounted most around p) :
    Observed.Accounted most around p ⟨Step.operand o.outcome p, o.events⟩ := by
  refine h.of_sameEvents rfl ?_ ?_ <;>
  · simp only [Step.operand, Observed.outcome]
    cases o.result with
    | ok s q => rfl
    | error e q => cases e <;> rfl

/-! ### Loops -/

theorem stop {limit : UInt64} {l : Loop} {out : String} (hp : p.depth = around + 1)
    (h : l.cursor.pull.1 = none ∨ (p.depth = 1 → limit.toNat ≤ p.looped)) :
    (l.observeStop around out p).Accounted limit.toNat around p := by
  have hrestore : l.restore p = { p with world := l.restore p.world } := Loop.restore_progress l p
  refine ⟨?_, ?_, fun _ => rfl, ?_, trivial⟩
  · simp only [Loop.observeStop, Act.endState, hrestore]
  · simp only [Loop.observeStop, Act.endState, hrestore]
    rfl
  · cases around with
    | succ n => trivial
    | zero =>
      cases hleft : l.cursor.pull.1 with
      | none => trivial
      | some i => exact h.resolve_left (hleft ▸ Option.some_ne_none i) hp

/- The body of a loop runs inside that loop, so it does not move the count. -/
theorem looped_body {o : Observed String} (h : o.Accounted most (around + 1) p) :
    (Act.endState o.result).looped = p.looped := by
  rw [h.looped, h.inner (Nat.succ_ne_zero around), Nat.add_zero]

theorem failed {o : Observed String} {l : Loop} {cause : Failure} {q : Progress} (hless : p.looped < most)
    (h : o.Accounted most (around + 1) p) (hq : o.result = .error cause q)
    (hcause : ∀ e, cause ≠ .fault e) : Observed.Accounted (α := String) most around p
      ⟨.error cause (l.restore q), .entered around :: o.events ++ [.abandoned around cause]⟩ := by
  have hdepth := h.depth
  have hlooped := h.looped_body
  have hnone := h.inner (Nat.succ_ne_zero around)
  rw [hq] at hdepth hlooped
  have hevents : LoopEvent.outerBytes (.entered around :: o.events ++ [.abandoned around cause]) = 0 := by
    rw [LoopEvent.outerBytes_append, LoopEvent.outerBytes_cons, hnone]
    rfl
  refine ⟨?_, ?_, fun _ => hevents, ?_⟩
  · rw [Act.endState, Loop.restore_progress]
    exact hdepth
  · rw [hevents, Act.endState, Loop.restore_progress]
    exact hlooped
  · rw [LoopEvent.allAllowed_append]
    exact ⟨⟨hless, h.allowed⟩, hcause, trivial⟩

theorem element {o : Observed String} {text : String} {q : Progress} (hless : p.looped < most)
    (h : o.Accounted most (around + 1) p) (hq : o.result = .ok text q) :
    Observed.Accounted most around p ⟨.ok text (Step.countElement (around == 0) text q),
      .entered around :: o.events ++ [.yielded around text]⟩ := by
  have hdepth := h.depth
  have hlooped := h.looped_body
  have hnone := h.inner (Nat.succ_ne_zero around)
  rw [hq] at hdepth hlooped
  simp only [Act.endState] at hdepth hlooped
  have hbefore : LoopEvent.outerBytes (.entered around :: o.events) = 0 := by
    rw [LoopEvent.outerBytes_cons, hnone]
    rfl
  refine ⟨?_, ?_, fun ha => ?_, ?_⟩
  · rw [Act.endState, Step.depth_countElement, hdepth]
  · rw [Act.endState, Step.looped_countElement, LoopEvent.outerBytes_append, hbefore, hlooped]
    simp
  · rw [LoopEvent.outerBytes_append, hbefore]
    cases around with
    | zero => exact absurd rfl ha
    | succ n => rfl
  · rw [LoopEvent.allAllowed_append, hbefore]
    refine ⟨⟨hless, h.allowed⟩, ?_, trivial⟩
    cases around with
    | zero => exact hless
    | succ n => trivial

/- By induction on the elements that may still be taken. There are never as many values left, so that a loop
stops at its last value or at the limit. -/
theorem drain {limits : Limits} {limit : UInt64} (hlimit : limits.output = some limit)
    {body : Scope → Progress → Observed String}
    (hbody : ∀ c p, p.depth = around + 1 → (body c p).Accounted limit.toNat (around + 1) p)
    (hfault : ∀ c p e q, (body c p).result ≠ .error (.fault e) q)
    (fuel : Nat) {l : Loop} (hstep : l.cursor.step ≠ 0) (hsize : l.cursor.size < fuel) (out : String)
    (hp : p.depth = around + 1) :
    (Step.observeDrain limits around body fuel l out p).Accounted limit.toNat around p := by
  induction fuel generalizing l out p with
  | zero => omega
  | succ n ih =>
    rw [Step.observeDrain]
    by_cases hreached : Step.limitReached limits p out
    · rw [if_pos hreached]
      exact stop hp (.inr fun hd => Step.le_looped_of_limitReached hlimit hd hreached)
    · rw [if_neg hreached]
      have hless := Step.looped_lt_of_not_limitReached hlimit hreached
      cases hpull : l.cursor.pull with
      | mk next d =>
        cases next with
        | none => exact stop hp (.inl (by rw [hpull]))
        | some i =>
          have hsmaller := Cursor.size_pull_lt hstep hpull
          have hstep' : d.step ≠ 0 := by
            rw [Cursor.step_of_pull hpull]
            exact hstep
          have ho : (body l.scope (l.entered i p)).Accounted limit.toNat (around + 1) p :=
            (hbody l.scope (l.entered i p) hp).rebase rfl rfl
          dsimp only
          cases hresult : (body l.scope (l.entered i p)).result with
          | error cause q =>
            refine ho.failed hless hresult ?_
            rintro e rfl
            exact hfault _ _ _ _ hresult
          | ok text q =>
            have helement := ho.element hless hresult
            have hdepth := helement.depth
            exact helement.after rfl (ih (l := { l with cursor := d }) hstep' (by simp only; omega)
              (out ++ text) (hdepth.trans hp))

theorem loop {limits : Limits} {limit : UInt64} (hlimit : limits.output = some limit)
    {body : Scope → Progress → Observed String}
    (hbody : ∀ c p, (body c p).Accounted limit.toNat p.depth p) {c : Scope} {spec : String} {span : Span}
    (hspan : Span.parse spec = .ok span) {o : Observed String}
    (ho : o = Step.observeDrain limits p.depth (fun d q => (body d q).inlined q) (span.cursor.size + 1)
      (Loop.start c span p).1 "" { (Loop.start c span p).2 with depth := p.depth + 1 }) :
    Observed.Accounted limit.toNat p.depth p
      ⟨Step.deeper o.outcome (Loop.start c span p).2, o.events⟩ := by
  have hdrain : o.Accounted limit.toNat p.depth { (Loop.start c span p).2 with depth := p.depth + 1 } := by
    have hshown : ∀ d q, q.depth = p.depth + 1 →
        ((body d q).inlined q).Accounted limit.toNat (p.depth + 1) q := by
      intro d q hq
      rw [← hq]
      exact (hbody d q).inlined
    rw [ho]
    exact drain hlimit hshown (fun d q => Step.unfaulted_inlined (body d q).outcome q) _
      (Span.step_ne_zero_of_parse hspan) (Nat.lt_succ_self _) "" rfl
  refine ⟨?_, ?_, hdrain.inner, hdrain.allowed⟩
  · have hdepth := hdrain.depth
    rw [Step.depth_deeper, Observed.outcome, hdepth]
    rfl
  · have hlooped := hdrain.looped
    rw [Step.looped_deeper, Observed.outcome, hlooped]
    rfl

end Observed.Accounted

theorem Script.accounted_observe {r : Renderer} {limit : UInt64} (hlimit : r.limits.output = some limit)
    {α : Type} (x : Script α) (c : Scope) (p : Progress) :
    (x.observe r c p).Accounted limit.toNat p.depth p := by
  induction x generalizing c p with
  | pure a => exact .of_noEvents rfl rfl rfl
  | raise e => exact .of_noEvents rfl rfl rfl
  | tick =>
    refine .of_noEvents rfl ?_ ?_ <;>
    · simp only [observe, Observed.quiet, Step.tick]
      split <;> rfl
  | lookup name => exact .of_noEvents rfl rfl rfl
  | call name bare into args =>
    refine .of_noEvents rfl ?_ ?_ <;>
    · simp only [observe, Observed.quiet, Step.ofAction]
      cases r.registry.call name { scope := c, bare, into } args p.world <;> rfl
  | inlined x ih => exact (ih c p).inlined
  | operand x ih => exact (ih c p).operand
  | bind x f ihx ihf =>
    have hx := ihx c p
    rw [observe]
    cases hresult : (x.observe r c p).result with
    | ok a q =>
      have hdepth := hx.depth
      rw [hresult] at hdepth
      have hf := ihf a c q
      rw [show q.depth = p.depth from hdepth] at hf
      exact hx.after (by rw [hresult]; rfl) hf
    | error e q => exact hx.of_sameEvents rfl (by rw [hresult]; rfl) (by rw [hresult]; rfl)
  | loop spec body ih =>
    rw [observe]
    cases hspan : Span.parse spec with
    | error e => exact .of_noEvents rfl rfl rfl
    | ok span => exact .loop hlimit ih hspan rfl

namespace Renderer

variable {r : Renderer} {limit : UInt64}

theorem depth_eval (hlimit : r.limits.output = some limit) (c : Scope) (node : Node) (p : Progress) :
    (Act.endState (r.eval c node p)).depth = p.depth := by
  rw [← Script.run_ofNode, ← Script.result_observe]
  exact (Script.accounted_observe hlimit _ c p).depth

/- Only outermost loops are counted, so a node inside a loop leaves the count alone. -/
theorem looped_eval (hlimit : r.limits.output = some limit) (c : Scope) (node : Node) {p : Progress}
    (hp : p.depth ≠ 0) : (Act.endState (r.eval c node p)).looped = p.looped := by
  have haccounted := Script.accounted_observe hlimit (.ofNode r.registry node) c p
  rw [← Script.run_ofNode, ← Script.result_observe, haccounted.looped, haccounted.inner hp, Nat.add_zero]

theorem depth_of_inlined_eval (hlimit : r.limits.output = some limit) {c : Scope} {node : Node}
    {p q : Progress} {text : String} (h : Step.inlined (r.eval c node) p = .ok text q) :
    q.depth = p.depth := by
  have hdepth := depth_eval hlimit c node p
  rw [← Step.depth_inlined, h] at hdepth
  exact hdepth

theorem looped_of_inlined_eval (hlimit : r.limits.output = some limit) {c : Scope} {node : Node}
    {p q : Progress} {text : String} (hp : p.depth ≠ 0)
    (h : Step.inlined (r.eval c node) p = .ok text q) : q.looped = p.looped := by
  have hlooped := looped_eval hlimit c node hp
  rw [← Step.looped_inlined, h] at hlooped
  exact hlooped

/-- Loops and the limit on their output, as an observed render shows them. The bytes that outermost loops
yield are counted. No outermost loop yields an element once the count is at the limit, none stops with values
left before that, save for a failure that is not a fault, and after that no loop at all enters its body.
Evaluation leaves the number of loops under way as it was. -/
theorem outermost_loops_limited (r : Renderer) (limit : UInt64) (hlimit : r.limits.output = some limit)
    (c : Scope) (node : Node) (w : World) :
    (r.observe c node w).result = Step.inlined (r.eval c node) { world := w } ∧
    (Act.endState (r.observe c node w).result).looped = LoopEvent.outerBytes (r.observe c node w).events ∧
    (∀ before element after, (r.observe c node w).events = before ++ .yielded 0 element :: after →
      LoopEvent.outerBytes before < limit.toNat) ∧
    (∀ before after, (r.observe c node w).events = before ++ .stopped 0 true :: after →
      limit.toNat ≤ LoopEvent.outerBytes before) ∧
    (∀ before depth cause after, (r.observe c node w).events = before ++ .abandoned depth cause :: after →
      ∀ e, cause ≠ .fault e) ∧
    (∀ before depth after, (r.observe c node w).events = before ++ .entered depth :: after →
      LoopEvent.outerBytes before < limit.toNat) ∧
    (∀ (d : Scope) (part : Node) (p : Progress), (Act.endState (r.eval d part p)).depth = p.depth) := by
  have haccounted : (r.observe c node w).Accounted limit.toNat 0 { world := w } :=
    Script.accounted_observe hlimit (.inlined (.ofNode r.registry node)) c { world := w }
  have hevent : ∀ {before after : List LoopEvent} {e : LoopEvent},
      (r.observe c node w).events = before ++ e :: after →
        e.Allowed limit.toNat (LoopEvent.outerBytes before) := by
    intro before after e he
    have hat := haccounted.allowed.at he
    rwa [Nat.zero_add] at hat
  refine ⟨r.result_observe c node w, ?_, fun _ _ _ he => hevent he, fun _ _ he => hevent he,
    fun _ _ _ _ he => hevent he, fun _ _ _ he => hevent he, depth_eval hlimit⟩
  rw [haccounted.looped]
  exact Nat.zero_add _

/-- Two loops beside one another, under a limit that the first one reaches in its second element. -/
theorem outermost_loops_limited_siblings :
    let moment : Moment := { day := 0, second := 0, nano := 0 }
    let w : World := { store := (Store.empty.addRoot {}).2,
                       supply := { draw := fun _ => 0, reading := fun _ => moment } }
    let r : Renderer := { registry := Library.standard, limits := { output := some 3 } }
    let twice (text : String) : Node := .call "loop" [.text "3", .text text] [] none
    let node : Node := .concat [.call "loop" [.text "9", twice "x"] [] none, twice "y"]
    let inner : List LoopEvent :=
      [.entered 1, .yielded 1 "x", .entered 1, .yielded 1 "x", .stopped 1 false]
    let events : List LoopEvent := .entered 0 :: inner ++ .yielded 0 "xx" :: .entered 0 ::
      [.entered 1, .yielded 1 "x", .stopped 1 true, .yielded 0 "x", .stopped 0 true, .stopped 0 true]
    (r.observe ⟨0⟩ node w).events = events ∧
      LoopEvent.outerBytes (.entered 0 :: inner ++ [.yielded 0 "xx"]) < 3 ∧
      3 ≤ LoopEvent.outerBytes (events.take 12) := by
  intro moment w r twice node inner events
  have hevents : (r.observe ⟨0⟩ node w).events = events := by decide +kernel
  obtain ⟨-, -, -, hstopped, -, hentered, -⟩ := outermost_loops_limited r 3 rfl ⟨0⟩ node w
  exact ⟨hevents, hentered _ 0 _ hevents, hstopped (events.take 12) [.stopped 0 true] hevents⟩

end Renderer

end Stencil
