import Stencil.Proofs.Correspondence
import Stencil.Proofs.Faults
import Stencil.Proofs.Spans

/-!
# Loops and their unrolled form

A loop over a written span does what its unrolled form does, in which `iter` is set to each value in turn
and the body follows. The loop has a scope of its own and puts `iter` back, its unrolled form runs in the
scope of the call and pays for setting `iter`.
-/

namespace Stencil

def Step.assign (c : Scope) (name : String) (value : Option Value) : Step String := fun p =>
  .ok "" { p with world.store := p.world.store.set c name value }

/-! ### The unrolled form -/

def Node.setLoopVariable (i : Int) : Node :=
  .call "set" [.text loopVariable, .text (toString i)] [] none

/-- For each value, `iter` is set and the body follows. -/
def Node.rounds (values : List Int) (body : Node) : List Node :=
  values.flatMap fun i => [.setLoopVariable i, body]

def Node.loopOver (spec : String) (body : Node) : Node :=
  .call "loop" [.text spec, body] [] none

namespace Renderer

def standard (limits : Limits) : Renderer :=
  { registry := Library.standard, limits }

theorem eval_setLoopVariable (limits : Limits) (c : Scope) (i : Int) :
    (standard limits).eval c (.setLoopVariable i) = Step.ticks limits 3 >>= fun _ =>
      Step.assign c loopVariable (some (.text (toString i))) := by
  have hset : (standard limits).registry.get? "set" =
      some { name := "set", caps := Library.plain, kind := .simple Library.set } := rfl
  have hcall : Step.ofAction ((standard limits).registry.call "set" { scope := c }
      { positional := [loopVariable, toString i], named := .empty }) =
        Step.assign c loopVariable (some (.text (toString i))) := rfl
  simp only [Node.setLoopVariable, eval, hset, evalEach, evalNamed, Step.inlined_tick_pure, Step.ticks,
    bind_assoc, pure_bind, hcall]
  rfl

theorem eval_loopOver (limits : Limits) (c : Scope) (spec : String) (body : Node) :
    (standard limits).eval c (.loopOver spec body) = Step.ticks limits 2 >>= fun _ =>
      Step.loop limits c spec fun d => Step.inlined ((standard limits).eval d body) := by
  have hloop : (standard limits).registry.get? "loop" =
      some { name := "loop", caps := Library.plain, kind := .iteration } := rfl
  have hsite : checkSite Library.plain c none "loop" = pure () := rfl
  simp only [Node.loopOver, eval, hloop, evalLoop, hsite, Step.inlined_tick_pure, Step.ticks,
    bind_assoc, pure_bind]
  rfl

/-- The state after `iter` was set and paid for. -/
def round (c : Scope) (i : Int) (q : Progress) : Progress :=
  { q with gas := q.gas + 3,
           world.store := q.world.store.set c loopVariable (some (.text (toString i))) }

theorem inlined_setLoopVariable_of_le {limits : Limits} (c : Scope) (i : Int) {q : Progress}
    (h : q.gas + 3 ≤ limits.gas.toNat) :
    Step.inlined ((standard limits).eval c (.setLoopVariable i)) q = .ok "" (round c i q) := by
  have hassign : Step.Unfaulted (Step.assign c loopVariable (some (.text (toString i)))) := by
    intro p e q' he
    cases he
  rw [eval_setLoopVariable, hassign.inlined_ticks 3 h]
  rfl

theorem spent_setLoopVariable (limits : Limits) (c : Scope) (i : Int) {q : Progress}
    (h : limits.gas.toNat < q.gas + 3) :
    Act.Spent (Step.inlined ((standard limits).eval c (.setLoopVariable i)) q) := by
  rw [eval_setLoopVariable]
  exact Step.spent_inlined_ticks limits _ 2 h

theorem gas_setLoopVariable {limits : Limits} {c : Scope} {i : Int} {text : String} {q q' : Progress}
    (h : Step.inlined ((standard limits).eval c (.setLoopVariable i)) q = .ok text q') :
    q'.gas = q.gas + 3 := by
  have hle : q.gas + 3 ≤ limits.gas.toNat := by
    rw [eval_setLoopVariable] at h
    exact Step.le_of_inlined_ticks h
  rw [inlined_setLoopVariable_of_le c i hle] at h
  cases h
  rfl

theorem evalConcat_rounds_cons (limits : Limits) (c : Scope) (out : String) (i : Int)
    (values : List Int) (body : Node) :
    (standard limits).evalConcat c out (Node.rounds (i :: values) body) =
      Step.inlined ((standard limits).eval c (.setLoopVariable i)) >>= fun text =>
        Step.inlined ((standard limits).eval c body) >>= fun text' =>
          (standard limits).evalConcat c (out ++ text ++ text') (Node.rounds values body) := by
  simp only [Node.rounds, List.flatMap_cons, List.cons_append, List.nil_append, evalConcat]

/- Every round that is finished has paid for setting `iter`. -/
theorem gas_evalConcat_rounds {limits : Limits} {c : Scope} {out text : String} {values : List Int}
    {body : Node} {q q' : Progress}
    (h : (standard limits).evalConcat c out (Node.rounds values body) q = .ok text q') :
    q.gas + 3 * values.length ≤ q'.gas := by
  induction values generalizing out q with
  | nil =>
    simp only [Node.rounds, List.flatMap_nil, evalConcat] at h
    cases h
    exact Nat.le_refl _
  | cons i values ih =>
    rw [evalConcat_rounds_cons] at h
    obtain ⟨text₁, q₁, hset, hrest⟩ := Act.bind_eq_ok h
    obtain ⟨text₂, q₂, hbody, hrounds⟩ := Act.bind_eq_ok hrest
    have hpaid := gas_setLoopVariable hset
    have hgas := ((standard limits).metered_inlined_eval c body q₁).1
    rw [hbody] at hgas
    have hrounds' := ih hrounds
    simp only [Act.endState, List.length_cons] at hgas ⊢
    omega

end Renderer

/-! ### A loop and its rounds -/

def Progress.charged (q : Progress) (gas : Nat) : Progress :=
  { q with gas := q.gas + gas }

theorem InStep.charged {p q p' q' : Progress} (h : InStep p q p' q') (gas : Nat) :
    InStep p (q.charged gas) p' (q'.charged gas) := by
  obtain ⟨hgas, new, hp, hq⟩ := h
  refine ⟨?_, new, hp, hq⟩
  simp only [Progress.charged]
  omega

/-- How two runs can end, seen from two states: they succeed alike, or neither of them succeeds with as
much gas as the other one has. -/
inductive Matched (l m : Limits) (R : Progress → Progress → Prop) (p q : Progress) :
    EStateM.Result Failure Progress String → EStateM.Result Failure Progress String → Prop where
  | ok {p' q'} (text : String) (h : R p' q') (hstep : InStep p q p' q') :
      Matched l m R p q (.ok text p') (.ok text q')
  | short {x y} (hx : ∀ text p', x = .ok text p' → m.gas.toNat + p.gas < p'.gas + q.gas)
      (hy : ∀ text q', y = .ok text q' → l.gas.toNat + q.gas < q'.gas + p.gas) :
      Matched l m R p q x y

section Matching

variable {l m : Limits} {R R' : Progress → Progress → Prop} {p q : Progress}
variable {x y x' y' : EStateM.Result Failure Progress String}

theorem Race.matched (h : Race l m R p q x y) :
    Matched l m R p q x y := by
  cases h with
  | same h =>
    cases h with
    | ok text h => exact .ok text h.1 h.2
    | error e h => exact .short (fun _ _ hx => by cases hx) (fun _ _ hy => by cases hy)
  | leftSpent hspent _ hneed =>
    refine .short (fun text p' hx => absurd (hx ▸ hspent) (Act.not_spent_ok text p')) ?_
    rintro text q' rfl
    exact hneed
  | rightSpent hspent _ hneed =>
    refine .short ?_ (fun text q' hy => absurd (hy ▸ hspent) (Act.not_spent_ok text q'))
    rintro text p' rfl
    exact hneed

theorem Matched.rebase {p' q' : Progress} (hstep : InStep p q p' q')
    (h : Matched l m R p' q' x y) : Matched l m R p q x y := by
  have hgas := hstep.1
  cases h with
  | ok text h hstep' => exact .ok text h (hstep.trans hstep')
  | short hx hy =>
    refine .short (fun text p'' hx' => ?_) (fun text q'' hy' => ?_)
    · have hless := hx text p'' hx'
      omega
    · have hless := hy text q'' hy'
      omega

/- What follows in both runs: the first goes on without loss of gas, the second uses `k` more at least. -/
theorem Matched.next {k : Nat} (h : Matched l m R p q x y)
    (hx : ∀ text p', x' = .ok text p' → ∃ text₀ p₀, x = .ok text₀ p₀ ∧ p₀.gas ≤ p'.gas)
    (hy : ∀ text q', y' = .ok text q' → ∃ text₀ q₀, y = .ok text₀ q₀ ∧ q₀.gas + k ≤ q'.gas)
    (hok : ∀ text p₀ q₀, x = .ok text p₀ → y = .ok text q₀ → R p₀ q₀ →
      Matched l m R' p₀ (q₀.charged k) x' y') : Matched l m R' p (q.charged k) x' y' := by
  cases h with
  | ok text h hstep => exact .rebase (hstep.charged k) (hok text _ _ rfl rfl h)
  | short hshort hshort' =>
    refine .short (fun text p' hp' => ?_) (fun text q' hq' => ?_)
    · obtain ⟨text₀, p₀, hx₀, hgas⟩ := hx text p' hp'
      have hless := hshort text₀ p₀ hx₀
      simp only [Progress.charged]
      omega
    · obtain ⟨text₀, q₀, hy₀, hgas⟩ := hy text q' hq'
      have hless := hshort' text₀ q₀ hy₀
      simp only [Progress.charged]
      omega

end Matching

/-- The first state is like the second one, but for a variable that was put back. -/
def Unwound (K : List (Scope × Scope)) (c : Scope) (value : Option Value) (p q : Progress) : Prop :=
  ∃ s, Store.Corresponds K s q.world.store ∧ p.world.store = s.set c loopVariable value ∧
    p.world.supply = q.world.supply

abbrev Corresponding := Alike (Likeness.corresponding Library.standard_isLocal)

theorem Matched.deeper {l m : Limits} {K : List (Scope × Scope)} {c : Scope} {value : Option Value}
    {x : Step String} {y : EStateM.Result Failure Progress String} {p q : Progress}
    (h : Matched l m (Unwound K c value) { p with depth := p.depth + 1 } q
      (x { p with depth := p.depth + 1 }) y) :
    Matched l m (Unwound K c value) p q (Step.deeper x p) y := by
  unfold Step.deeper
  generalize x { p with depth := p.depth + 1 } = rx at h
  cases h with
  | ok text h hstep => exact .ok text h hstep
  | short hx hy =>
    refine .short (fun text p' hp' => ?_) hy
    cases rx with
    | ok text₀ p₀ =>
      cases hp'
      exact hx text p₀ rfl
    | error e p₀ => cases hp'

theorem inStep_round (loop : Loop) (c : Scope) (i : Int) (n : Nat) (p q : Progress) :
    InStep p (q.charged (3 * (n + 1))) (loop.entered i p) ((Renderer.round c i q).charged (3 * n)) := by
  refine ⟨?_, #[], by simp [Loop.entered_progress], by simp [Progress.charged, Renderer.round]⟩
  simp only [Loop.entered_progress, Progress.charged, Renderer.round]
  omega

namespace Corresponding

variable {K : List (Scope × Scope)} {l m : Limits} {p q : Progress}

theorem unwound (h : Corresponding K l m p q) {loop : Loop} {v : Option Value} (hv : loop.saved = some v) :
    Unwound K loop.parent v (loop.restore p) q := by
  refine ⟨p.world.store, h.store, ?_, ?_⟩
  · exact Loop.store_restore hv p
  · rw [Loop.restore_progress]
    simp only [Loop.restore, hv]
    exact h.supply

theorem round (h : Corresponding K l m p q) {loop : Loop} {c : Scope} (hc : (loop.scope, c) ∈ K) (i : Int) :
    Corresponding K l m (loop.entered i p) (Renderer.round c i q) :=
  ⟨h.store.set hc loopVariable _, h.supply, h.output, h.paced⟩

theorem body (h : Corresponding K l m p q) {c d : Scope} (hcd : (c, d) ∈ K) (node : Node) :
    Matched l m (Corresponding K l m) p q (Step.inlined ((Renderer.standard l).eval c node) p)
      (Step.inlined ((Renderer.standard m).eval d node) q) :=
  (((Renderer.standard l).composed_inlined_eval node).race _ l m K c d p q hcd h).matched

theorem stop (h : Corresponding K l m p q) {loop : Loop} {v : Option Value} (hv : loop.saved = some v)
    {c : Scope} {node : Node} {out : String} :
    Matched l m (Unwound K loop.parent v) p (q.charged 0) (.ok out (loop.restore p))
      ((Renderer.standard m).evalConcat c out (Node.rounds [] node) q) := by
  simp only [Node.rounds, List.flatMap_nil, Renderer.evalConcat]
  refine .ok out (h.unwound hv) (.of_eq ?_ rfl ?_ rfl) <;> rw [Loop.restore_progress]

/- By induction on the values to come. A round is the body on the side of the loop, and setting `iter` and
the body on the other side. -/
theorem drain (hl : l.output = none) {c : Scope} (node : Node) {v : Option Value} (outermost : Bool) (n : Nat) (loop : Loop)
    (hv : loop.saved = some v) (hc : (loop.scope, c) ∈ K) (hstep : loop.cursor.step ≠ 0)
    (hn : loop.cursor.size ≤ n) (out : String) (h : Corresponding K l m p q) :
    Matched l m (Unwound K loop.parent v) p (q.charged (3 * (loop.cursor.take n).1.length))
      (Step.drain l outermost (fun d => Step.inlined ((Renderer.standard l).eval d node)) (n + 1)
        loop out p)
      ((Renderer.standard m).evalConcat c out (Node.rounds (loop.cursor.take n).1 node) q) := by
  have hlimit : ∀ p out, Step.limitReached l p out = false := by
    intro p out
    simp only [Step.limitReached, hl]
  have hmetered : ∀ d, Step.Metered l (Step.inlined ((Renderer.standard l).eval d node)) :=
    fun d => (Renderer.standard l).metered_inlined_eval d node
  induction n generalizing loop out p q with
  | zero =>
    cases hpull : loop.cursor.pull with
    | mk next d =>
      cases next with
      | none =>
        rw [Step.drain_of_pull_none outermost _ 0 hv (hlimit p out) hpull]
        exact h.stop hv
      | some i =>
        have hless := Cursor.size_pull_lt hstep hpull
        omega
  | succ n ih =>
    cases hpull : loop.cursor.pull with
    | mk next d =>
      cases next with
      | none =>
        rw [Step.drain_of_pull_none outermost _ (n + 1) hv (hlimit p out) hpull,
          Cursor.take_of_pull_none hpull]
        exact h.stop hv
      | some i =>
        have hless := Cursor.size_pull_lt hstep hpull
        have hstep' : d.step ≠ 0 := by
          rw [Cursor.step_of_pull hpull]
          exact hstep
        rw [Cursor.take_of_pull_some hpull, List.length_cons, Renderer.evalConcat_rounds_cons]
        by_cases hq : q.gas + 3 ≤ m.gas.toNat
        · rw [Step.drain_of_pull_some outermost _ (n + 1) hv (hlimit p out) hpull,
            Act.bind_of_ok (Renderer.inlined_setLoopVariable_of_le c i hq), String.append_empty]
          refine .rebase (inStep_round loop c i _ p q) (((h.round hc i).body hc node).next ?_ ?_ ?_)
          · intro text p' hp'
            exact Step.Metered.afterBody_eq_ok hmetered (l := { loop with cursor := d }) hv hp'
          · intro text q' hq'
            obtain ⟨element, q₀, hy, hrounds⟩ := Act.bind_eq_ok hq'
            exact ⟨element, q₀, hy, Renderer.gas_evalConcat_rounds hrounds⟩
          · intro element p₀ q₀ hx hy h₀
            rw [hx, Act.bind_of_ok hy]
            have hcount : Corresponding K l m (Step.countElement outermost element p₀)
                (Step.countElement false element q₀) := h₀.countElement (.inl hl) element
            have hin := Alike.inStep_countElement outermost false element p₀ q₀
            exact .rebase (hin.charged _) (ih { loop with cursor := d } hv hc hstep'
              (by simp only; omega) (out ++ element) hcount)
        · obtain ⟨q', hspent⟩ := Renderer.spent_setLoopVariable m c i (q := q) (by omega)
          rw [Act.bind_of_error hspent]
          refine .short (fun text p' hp' => ?_) (fun text q'' hq' => by cases hq')
          have hgas := (Step.Metered.drain hmetered outermost (n + 1 + 1) hv out p).1
          rw [hp'] at hgas
          simp only [Progress.charged, Act.endState] at hgas ⊢
          omega

theorem loop (hl : l.output = none) {spec : String} {span : Span} (hspan : Span.parse spec = .ok span) {c d : Scope}
    (hcd : (c, d) ∈ K) (node : Node) (h : Corresponding K l m p q) :
    Matched l m (Unwound ((p.world.store.next, d) :: K) c (p.world.store.get? c loopVariable)) p
      (q.charged (3 * span.values.length))
      (Step.loop l c spec (fun d => Step.inlined ((Renderer.standard l).eval d node)) p)
      ((Renderer.standard m).evalConcat d "" (Node.rounds span.values node) q) := by
  rw [Step.loop_eq, hspan]
  have hstart : Corresponding ((p.world.store.next, d) :: K) l m
      { (Loop.start c span p).2 with depth := p.depth + 1 } q :=
    ⟨h.store.addSub_left hcd, h.supply, h.output, .inl hl⟩
  have hstep : InStep p (q.charged (3 * span.values.length)) (Loop.start c span p).2
      (q.charged (3 * span.values.length)) := .of_eq rfl rfl rfl rfl
  have hdrain := Corresponding.drain hl node (p.depth == 0) span.cursor.size
    (Loop.start c span p).1 rfl List.mem_cons_self (Span.step_ne_zero_of_parse hspan)
    (Nat.le_refl _) "" hstart
  exact .rebase hstep (.deeper hdrain)

end Corresponding

/-! ### Renders -/

def Node.unrolled (values : List Int) (body : Node) : Node :=
  .concat (Node.rounds values body)

theorem Renderer.eval_unrolled (limits : Limits) (c : Scope) (values : List Int) (body : Node) :
    (standard limits).eval c (.unrolled values body) = Step.ticks limits 1 >>= fun _ =>
      (standard limits).evalConcat c "" (Node.rounds values body) := by
  simp only [Node.unrolled, eval, Step.ticks, bind_assoc, pure_bind]
  rfl

/-- What a loop over `n` values and its unrolled form agree on, when both are rendered in the scope `c`
of one store: all but `iter`, which the loop leaves as it was. -/
structure Rendered.Unrolls (s : Store) (c : Scope) (n : Nat) (looped : Rendered × World)
    (unrolled : Rendered × World) : Prop where
  text : looped.1.text = unrolled.1.text
  reports : looped.1.reports = unrolled.1.reports
  gas : unrolled.1.gas + 1 = looped.1.gas + 3 * n
  supply : looped.2.supply = unrolled.2.supply
  bindings : ∀ d name, s.holds d → name ≠ loopVariable ∨ s.root d ≠ s.root c →
    looped.2.store.get? d name = unrolled.2.store.get? d name
  swapped : ∀ d, s.holds d →
    (looped.2.store.rootOf d).swapped = (unrolled.2.store.rootOf d).swapped
  restored : looped.2.store.get? c loopVariable = s.get? c loopVariable

section Renders

variable {l m : Limits} {c : Scope} {spec : String} {span : Span} {body : Node} {w : World}

theorem unfaulted_loopOver (hspan : Span.parse spec = .ok span) :
    Step.Unfaulted (Step.loop l c spec fun d => Step.inlined ((Renderer.standard l).eval d body)) :=
  .loop (fun _ => Step.unfaulted_inlined _) hspan c

theorem gas_loopOver (hspan : Span.parse spec = .ok span) {text : String} {p : Progress}
    (h : Step.inlined ((Renderer.standard l).eval c (.loopOver spec body)) { world := w } =
      .ok text p) : 2 ≤ l.gas.toNat ∧ 2 ≤ p.gas := by
  rw [Renderer.eval_loopOver] at h
  have hl := Step.le_of_inlined_ticks h
  rw [(unfaulted_loopOver hspan).inlined_ticks 2 hl] at h
  have hmetered : Step.Metered l (Step.loop l c spec
      fun d => Step.inlined ((Renderer.standard l).eval d body)) :=
    .loop (fun d => (Renderer.standard l).metered_inlined_eval d body) c spec
  have hgas := (hmetered { world := w, gas := 2 }).1
  simp only [Nat.zero_add] at hl h
  rw [h] at hgas
  exact ⟨hl, hgas⟩

theorem gas_unrolled {values : List Int} {text : String} {q : Progress}
    (h : Step.inlined ((Renderer.standard m).eval c (.unrolled values body)) { world := w } =
      .ok text q) : 1 ≤ m.gas.toNat ∧ 1 + 3 * values.length ≤ q.gas := by
  rw [Renderer.eval_unrolled] at h
  have hm := Step.le_of_inlined_ticks h
  rw [((Renderer.standard m).unfaulted_evalConcat c "" _).inlined_ticks 1 hm] at h
  have hgas := Renderer.gas_evalConcat_rounds h
  simp only [Nat.zero_add] at hm hgas
  exact ⟨hm, hgas⟩

/- Both renders, when each has the gas for what comes before its rounds. -/
theorem matched_renders (body : Node) (hl : l.output = none) (hm : m.output = none)
    (hspan : Span.parse spec = .ok span) (hw : w.store.WellFormed) (hc : w.store.holds c)
    (hlgas : 2 ≤ l.gas.toNat) (hmgas : 1 ≤ m.gas.toNat) :
    Matched l m
      (Unwound ((w.store.next, c) :: w.store.scopes) c (w.store.get? c loopVariable))
      { world := w, gas := 2 } { world := w, gas := 1 + 3 * span.values.length }
      (Step.inlined ((Renderer.standard l).eval c (.loopOver spec body)) { world := w })
      (Step.inlined ((Renderer.standard m).eval c (.unrolled span.values body)) { world := w }) := by
  have hrounds := (Renderer.standard m).unfaulted_evalConcat c "" (Node.rounds span.values body)
  have hstart : Corresponding w.store.scopes l m { world := w, gas := 2 } { world := w, gas := 1 } :=
    ⟨.scopes hw, rfl, hl.trans hm.symm, .inl hl⟩
  rw [Renderer.eval_loopOver, Renderer.eval_unrolled,
    (unfaulted_loopOver hspan).inlined_ticks 2 (by simpa using hlgas),
    hrounds.inlined_ticks 1 (by simpa using hmgas)]
  exact hstart.loop hl hspan (Store.mem_scopes.2 hc) body

namespace Unwound

variable {k : Scope × Scope} {s : Store} {p q : Progress}

theorem get?_eq_of_ne (h : Unwound (k :: s.scopes) c (s.get? c loopVariable) p q)
    (hq : s.Keeps q.world.store) (hc : s.holds c) {d : Scope} (hd : s.holds d) {name : String}
    (hname : name ≠ loopVariable ∨ s.root d ≠ s.root c) :
    p.world.store.get? d name = q.world.store.get? d name := by
  obtain ⟨t, ht, hp, -⟩ := h
  have hcK := List.mem_cons_of_mem k (Store.mem_scopes.2 hc)
  have hdK := List.mem_cons_of_mem k (Store.mem_scopes.2 hd)
  rw [Store.get?_eq, Store.get?_eq, hp, ht.left.rootOf_set (ht.holds _ hcK).1, ← ht.rootOf _ hdK]
  split
  · rename_i hroot
    have hsame : s.root d = s.root c := by
      rw [← hq.root hd, ← hq.root hc]
      exact (ht.shared _ hdK _ hcK).1 hroot
    rw [Root.get?_set _ loopVariable_ne, if_neg (hname.resolve_right fun hne => hne hsame)]
  · rfl

theorem supply_eq {K : List (Scope × Scope)} {value : Option Value} (h : Unwound K c value p q) :
    p.world.supply = q.world.supply := by
  obtain ⟨-, -, -, hsupply⟩ := h
  exact hsupply

theorem swapped_eq (h : Unwound (k :: s.scopes) c (s.get? c loopVariable) p q) (hc : s.holds c)
    {d : Scope} (hd : s.holds d) :
    (p.world.store.rootOf d).swapped = (q.world.store.rootOf d).swapped := by
  obtain ⟨t, ht, hp, -⟩ := h
  have hcK := List.mem_cons_of_mem k (Store.mem_scopes.2 hc)
  have hdK := List.mem_cons_of_mem k (Store.mem_scopes.2 hd)
  rw [hp, ht.left.rootOf_set (ht.holds _ hcK).1, ← ht.rootOf _ hdK]
  split
  · exact Root.swapped_set _ loopVariable_ne _
  · rfl

theorem get?_loopVariable (h : Unwound (k :: s.scopes) c (s.get? c loopVariable) p q)
    (hs : s.WellFormed) (hc : s.holds c) :
    p.world.store.get? c loopVariable = s.get? c loopVariable := by
  obtain ⟨t, ht, hp, -⟩ := h
  have hcK := List.mem_cons_of_mem k (Store.mem_scopes.2 hc)
  rw [hp, Store.get?_eq, ht.left.rootOf_set (ht.holds _ hcK).1, if_pos rfl,
    Root.get?_set _ loopVariable_ne, if_pos rfl]
  exact (hs.proper_rootOf hc).filter_get? loopVariable

end Unwound

theorem unrolls_of_unwound (hw : w.store.WellFormed) (hc : w.store.holds c) {k : Scope × Scope} {n : Nat}
    {text : String} {p q : Progress} {values : List Int}
    (hq : Step.inlined ((Renderer.standard m).eval c (.unrolled values body)) { world := w } = .ok text q)
    (hpq : Unwound (k :: w.store.scopes) c (w.store.get? c loopVariable) p q)
    (hstep : InStep { world := w, gas := 2 } { world := w, gas := 1 + 3 * n } p q) :
    Rendered.Unrolls w.store c n ({ text, reports := p.reports.toList, gas := p.gas }, p.world)
      ({ text, reports := q.reports.toList, gas := q.gas }, q.world) := by
  have hkeeps : w.store.Keeps q.world.store := by
    have hreach := (Renderer.standard m).public_eval Library.standard_isLocal.isPublic
      (.unrolled values body) c { world := w } hw hc
    dsimp only at hreach
    rw [hq] at hreach
    exact Store.Reaches.keeps hreach
  obtain ⟨hgas, new, hnew, hnew'⟩ := hstep
  simp only at hgas
  exact {
    text := rfl
    reports := by rw [hnew, hnew']
    gas := by simp only; omega
    supply := hpq.supply_eq
    bindings := fun d name hd hname => hpq.get?_eq_of_ne hkeeps hc hd hname
    swapped := fun d hd => hpq.swapped_eq hc hd
    restored := hpq.get?_loopVariable hw hc }

/-- A loop and its unrolled form render alike without a limit on output: when one of them succeeds, so
does the other, if it has the gas for it, with the same output and the same reports. Afterwards they agree
on all variables but `iter`, which the loop leaves as it was. -/
theorem loop_unrolls (l m : Limits) (c : Scope) (spec : String) (span : Span) (body : Node) (w : World)
    (hl : l.output = none) (hm : m.output = none) (hspan : Span.parse spec = .ok span)
    (hw : w.store.Reachable) (hc : w.store.holds c) :
    (∀ out v, (Renderer.standard l).render c (.loopOver spec body) w = (.ok out, v) →
      out.gas + 3 * span.values.length ≤ m.gas.toNat + 1 →
      ∃ out' v', (Renderer.standard m).render c (.unrolled span.values body) w = (.ok out', v') ∧
        Rendered.Unrolls w.store c span.values.length (out, v) (out', v')) ∧
    (∀ out' v', (Renderer.standard m).render c (.unrolled span.values body) w = (.ok out', v') →
      out'.gas + 1 ≤ l.gas.toNat + 3 * span.values.length →
      ∃ out v, (Renderer.standard l).render c (.loopOver spec body) w = (.ok out, v) ∧
        Rendered.Unrolls w.store c span.values.length (out, v) (out', v')) := by
  have hwf := hw.wellFormed
  refine ⟨?_, ?_⟩
  · rintro ⟨text, reports, gas⟩ v hrun henough
    obtain ⟨p, hp, rfl, rfl, rfl⟩ := Renderer.render_eq_ok.1 hrun
    obtain ⟨hlgas, hpgas⟩ := gas_loopOver hspan hp
    simp only at henough
    have hmatched := matched_renders body hl hm hspan hwf hc hlgas (by omega)
    rw [hp] at hmatched
    generalize hy : Step.inlined ((Renderer.standard m).eval c (.unrolled span.values body))
      { world := w } = y at hmatched
    cases hmatched with
    | ok _ hpq hstep =>
      exact ⟨_, _, Renderer.render_of_ok hy, unrolls_of_unwound hwf hc hy hpq hstep⟩
    | short hx _ =>
      have hless := hx text p rfl
      simp only at hless
      omega
  · rintro ⟨text, reports, gas⟩ v hrun henough
    obtain ⟨q, hq, rfl, rfl, rfl⟩ := Renderer.render_eq_ok.1 hrun
    obtain ⟨hmgas, hqgas⟩ := gas_unrolled hq
    simp only at henough
    have hmatched := matched_renders body hl hm hspan hwf hc (by omega) hmgas
    rw [hq] at hmatched
    generalize hx : Step.inlined ((Renderer.standard l).eval c (.loopOver spec body))
      { world := w } = x at hmatched
    cases hmatched with
    | ok _ hpq hstep =>
      exact ⟨_, _, Renderer.render_of_ok hx, unrolls_of_unwound hwf hc hq hpq hstep⟩
    | short _ hy =>
      have hless := hy text q rfl
      simp only at hless
      omega

end Renders

/-- A body with a loop of its own that unbinds `iter` and then faults, for two values. -/
theorem loop_unrolls_nested :
    let moment : Moment := { day := 0, second := 0, nano := 0 }
    let s : Store := (Store.empty.addRoot {}).2.set ⟨0⟩ loopVariable (some (.text "old"))
    let w : World := { store := s, supply := { draw := fun _ => 0, reading := fun _ => moment } }
    let body : Node := .concat [.loopOver "3" (.var "iter"), .var "iter",
      .call "set" [.text "iter"] [] none, .var "iter"]
    let missing : Report := { kind := .undefinedVariable, source := none,
                              message := "undefined variable 'iter'", cause := none }
    let out : Rendered := { text := "121<undefined variable 'iter'>122<undefined variable 'iter'>",
                            reports := [missing, missing], gas := 20 }
    ∃ v out' v', (Renderer.standard {}).render ⟨0⟩ (.loopOver "3" body) w = (.ok out, v) ∧
      (Renderer.standard {}).render ⟨0⟩ (.unrolled [1, 2] body) w = (.ok out', v') ∧
      Rendered.Unrolls s ⟨0⟩ 2 (out, v) (out', v') ∧
      ∃ out v, (Renderer.standard {}).render ⟨0⟩ (.loopOver "3" body) w = (.ok out, v) ∧
        Rendered.Unrolls s ⟨0⟩ 2 (out, v) (out', v') := by
  intro moment s w body missing out
  have hok : ((Renderer.standard {}).render ⟨0⟩ (.loopOver "3" body) w).1.toOption = some out := by
    decide +kernel
  have hrun := Renderer.render_of_toOption hok
  have hs : s.Reachable :=
    .tail (.tail .refl (.addRoot _ {})) (.set _ ⟨0⟩ (by decide) loopVariable _)
  have hunrolls := loop_unrolls {} {} ⟨0⟩ "3" { start := 1, stop := 3, step := 1 } body w rfl rfl rfl
    hs (by decide)
  obtain ⟨out', v', hrun', hout'⟩ := hunrolls.1 out _ hrun (by decide)
  have hgas : out'.gas + 1 = 20 + 3 * 2 := hout'.gas
  have hgas' : out'.gas + 1 ≤ (1000000 : UInt64).toNat + 3 * 2 := by
    rw [hgas]
    decide
  exact ⟨_, out', v', hrun, hrun', hout', hunrolls.2 out' v' hrun' hgas'⟩

end Stencil
