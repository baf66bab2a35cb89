import Stencil.Proofs.Gas

/-!
# Two runs side by side

The same step is run twice, from states that are alike and under limits that may differ in gas. As long
as both have gas they do the same: same outcome, same use of gas, same reports. The first one that runs
out of gas has less left than the other needs. `Likeness` says what states being alike rests on, and
`Composed.race` is the one induction over steps.
-/

namespace Stencil

/-- Two computations that end in the same way, in related states. -/
inductive Act.SameEnd {σ α : Type} (R : σ → σ → Prop) :
    EStateM.Result Failure σ α → EStateM.Result Failure σ α → Prop where
  | ok {s t : σ} (a : α) (h : R s t) : SameEnd R (.ok a s) (.ok a t)
  | error {s t : σ} (e : Failure) (h : R s t) : SameEnd R (.error e s) (.error e t)

/-- A way in which two stores can be alike, as far as some pairs of scopes can tell: one scope of a pair
sees in the first store what the other sees in the second, and what is done through both keeps this. -/
structure Likeness (registry : Registry) where
  rel : List (Scope × Scope) → Store → Store → Prop
  forget : ∀ {k K s t}, rel (k :: K) s t → rel K s t
  get? : ∀ {K s t c d}, rel K s t → (c, d) ∈ K → ∀ name, s.get? c name = t.get? d name
  set : ∀ {K s t c d}, rel K s t → (c, d) ∈ K → ∀ name value,
    rel K (s.set c name value) (t.set d name value)
  addSub : ∀ {K s t c d}, rel K s t → (c, d) ∈ K →
    rel ((s.next, t.next) :: K) (s.addSub c).2 (t.addSub d).2
  call : ∀ {K c d} {v w : World}, rel K v.store w.store → v.supply = w.supply → (c, d) ∈ K →
    ∀ name bare into args, Act.SameEnd (fun v w => rel K v.store w.store ∧ v.supply = w.supply)
      (registry.call name { scope := c, bare, into } args v)
      (registry.call name { scope := d, bare, into } args w)

/-- Two states of renders that are alike. How deep the loops are and how much they gave counts only where
loop output is limited. -/
structure Alike {registry : Registry} (B : Likeness registry) (K : List (Scope × Scope))
    (l m : Limits) (p q : Progress) : Prop where
  store : B.rel K p.world.store q.world.store
  supply : p.world.supply = q.world.supply
  output : l.output = m.output
  paced : l.output = none ∨ p.depth = q.depth ∧ p.looped = q.looped

/-- From the first two states to the second two, the same gas was used and the same was reported. -/
def InStep (p q p' q' : Progress) : Prop :=
  p'.gas + q.gas = q'.gas + p.gas ∧
    ∃ new, p'.reports = p.reports ++ new ∧ q'.reports = q.reports ++ new

theorem InStep.of_eq {p q p' q' : Progress} (hp : p'.gas = p.gas) (hq : q'.gas = q.gas)
    (hpr : p'.reports = p.reports) (hqr : q'.reports = q.reports) : InStep p q p' q' :=
  ⟨by omega, #[], by simp [hpr], by simp [hqr]⟩

theorem InStep.trans {p q p' q' p'' q'' : Progress} (h : InStep p q p' q')
    (h' : InStep p' q' p'' q'') : InStep p q p'' q'' := by
  obtain ⟨hgas, new, hp, hq⟩ := h
  obtain ⟨hgas', new', hp', hq'⟩ := h'
  exact ⟨by omega, new ++ new', by rw [hp', hp, Array.append_assoc], by rw [hq', hq, Array.append_assoc]⟩

/-- How two runs from two states can end: alike, or the one with less gas left ends by spent gas where the
other needs more than that. -/
inductive Race (l m : Limits) (R : Progress → Progress → Prop) (p q : Progress) {α : Type} :
    EStateM.Result Failure Progress α → EStateM.Result Failure Progress α → Prop where
  | same {x y} (h : Act.SameEnd (fun p' q' => R p' q' ∧ InStep p q p' q') x y) : Race l m R p q x y
  | leftSpent {x y} (h : Act.Spent x) (hless : l.gas.toNat + q.gas < m.gas.toNat + p.gas)
      (hneed : l.gas.toNat + q.gas < (Act.endState y).gas + p.gas) : Race l m R p q x y
  | rightSpent {x y} (h : Act.Spent y) (hless : m.gas.toNat + p.gas < l.gas.toNat + q.gas)
      (hneed : m.gas.toNat + p.gas < (Act.endState x).gas + q.gas) : Race l m R p q x y

namespace Race

variable {l m : Limits} {R R' : Progress → Progress → Prop} {p q p' q' : Progress} {α β : Type}

theorem ok (a : α) (h : R p' q') (hstep : InStep p q p' q') :
    Race l m R p q (.ok a p' : EStateM.Result Failure Progress α) (.ok a q') :=
  .same (.ok a ⟨h, hstep⟩)

theorem error (e : Failure) (h : R p' q') (hstep : InStep p q p' q') :
    Race l m R p q (.error e p' : EStateM.Result Failure Progress α) (.error e q') :=
  .same (.error e ⟨h, hstep⟩)

/-- What has been done in step before does not count in the comparison. -/
theorem rebase {x y : EStateM.Result Failure Progress α} (hstep : InStep p q p' q')
    (h : Race l m R p' q' x y) : Race l m R p q x y := by
  have hgas := hstep.1
  cases h with
  | same h =>
    cases h with
    | ok a h => exact ok a h.1 (hstep.trans h.2)
    | error e h => exact error e h.1 (hstep.trans h.2)
  | leftSpent h hless hneed => exact .leftSpent h (by omega) (by omega)
  | rightSpent h hless hneed => exact .rightSpent h (by omega) (by omega)

/-- What follows in both runs does not change that one of them has spent its gas. -/
theorem next {x y : EStateM.Result Failure Progress α} {x' y' : EStateM.Result Failure Progress β}
    (h : Race l m R p q x y) (hx : Act.Spent x → Act.Spent x') (hy : Act.Spent y → Act.Spent y')
    (hxg : (Act.endState x).gas ≤ (Act.endState x').gas)
    (hyg : (Act.endState y).gas ≤ (Act.endState y').gas)
    (hs : Act.SameEnd (fun p' q' => R p' q' ∧ InStep p q p' q') x y → Race l m R' p q x' y') :
    Race l m R' p q x' y' := by
  cases h with
  | same h => exact hs h
  | leftSpent h hless hneed => exact .leftSpent (hx h) hless (by omega)
  | rightSpent h hless hneed => exact .rightSpent (hy h) hless (by omega)

theorem imp {x y : EStateM.Result Failure Progress α} (h : Race l m R p q x y)
    (himp : ∀ p' q', R p' q' → R' p' q') : Race l m R' p q x y := by
  cases h with
  | same h =>
    cases h with
    | ok a h => exact ok a (himp _ _ h.1) h.2
    | error e h => exact error e (himp _ _ h.1) h.2
  | leftSpent h hless hneed => exact .leftSpent h hless hneed
  | rightSpent h hless hneed => exact .rightSpent h hless hneed

theorem bind {x y : Step α} {f g : α → Step β} (h : Race l m R p q (x p) (y q))
    (hf : ∀ a, Step.Metered l (f a)) (hg : ∀ a, Step.Metered m (g a))
    (hfg : ∀ a p' q', R p' q' → Race l m R p' q' (f a p') (g a q')) :
    Race l m R p q ((x >>= f) p) ((y >>= g) q) := by
  have spent : ∀ {z : Step α} {k : α → Step β} {s : Progress}, Act.Spent (z s) →
      Act.Spent ((z >>= k) s) := by
    rintro z k s ⟨t, ht⟩
    exact ⟨t, Act.bind_of_error ht⟩
  have more : ∀ {n : Limits} {z : Step α} {k : α → Step β} {s : Progress},
      (∀ a, Step.Metered n (k a)) →
      (Act.endState (z s)).gas ≤ (Act.endState ((z >>= k) s)).gas := by
    intro n z k s hk
    cases hz : z s with
    | ok a t =>
      rw [Act.bind_of_ok hz]
      exact (hk a t).1
    | error e t =>
      rw [Act.bind_of_error hz]
      exact Nat.le_refl _
  refine h.next spent spent (more hf) (more hg) fun hs => ?_
  generalize hx : x p = rx at hs
  generalize hy : y q = ry at hs
  cases hs with
  | ok a hr =>
    rw [Act.bind_of_ok hx, Act.bind_of_ok hy]
    exact rebase hr.2 (hfg a _ _ hr.1)
  | error e hr =>
    rw [Act.bind_of_error hx, Act.bind_of_error hy]
    exact error e hr.1 hr.2

end Race

namespace Alike

variable {registry : Registry} {B : Likeness registry} {K : List (Scope × Scope)} {l m : Limits}
variable {p q : Progress}

theorem tick (h : Alike B K l m p q) :
    Race l m (Alike B K l m) p q (Step.tick l p) (Step.tick m q) := by
  have hafter : Alike B K l m { p with gas := p.gas + 1 } { q with gas := q.gas + 1 } :=
    ⟨h.store, h.supply, h.output, h.paced⟩
  have hstep : InStep p q { p with gas := p.gas + 1 } { q with gas := q.gas + 1 } :=
    ⟨by dsimp only; omega, #[], by simp, by simp⟩
  simp only [Step.tick]
  split <;> split
  · exact .error .exhausted hafter hstep
  · exact .leftSpent ⟨_, rfl⟩ (by omega) (by simp only [Act.endState]; omega)
  · exact .rightSpent ⟨_, rfl⟩ (by omega) (by simp only [Act.endState]; omega)
  · exact .ok () hafter hstep

theorem inlined {x y : Step String} (h : Race l m (Alike B K l m) p q (x p) (y q)) :
    Race l m (Alike B K l m) p q (Step.inlined x p) (Step.inlined y q) := by
  refine h.next Step.spent_inlined Step.spent_inlined (Nat.le_of_eq (Step.gas_inlined x p).symm)
    (Nat.le_of_eq (Step.gas_inlined y q).symm) fun hs => ?_
  unfold Step.inlined
  generalize x p = rx at hs
  generalize y q = ry at hs
  cases hs with
  | ok a hr => exact .ok a hr.1 hr.2
  | error e hr =>
    rename_i p' q'
    cases e with
    | exhausted => exact .error .exhausted hr.1 hr.2
    | unprintable => exact .error .unprintable hr.1 hr.2
    | fault e =>
      obtain ⟨hgas, new, hp, hq⟩ := hr.2
      refine .ok e.display ⟨hr.1.store, hr.1.supply, hr.1.output, hr.1.paced⟩
        ⟨hgas, new.push e.report, ?_, ?_⟩
      · simp only [hp, Array.push_append]
      · simp only [hq, Array.push_append]

theorem operand {x y : Step String} (h : Race l m (Alike B K l m) p q (x p) (y q)) :
    Race l m (Alike B K l m) p q (Step.operand x p) (Step.operand y q) := by
  refine h.next Step.spent_operand Step.spent_operand (Nat.le_of_eq (Step.gas_operand x p).symm)
    (Nat.le_of_eq (Step.gas_operand y q).symm) fun hs => ?_
  unfold Step.operand
  generalize x p = rx at hs
  generalize y q = ry at hs
  cases hs with
  | ok a hr => exact .ok (Operand.text a) hr.1 hr.2
  | error e hr =>
    cases e with
    | exhausted => exact .error .exhausted hr.1 hr.2
    | unprintable => exact .error .unprintable hr.1 hr.2
    | fault e => exact .ok (Operand.failed e) hr.1 hr.2

theorem call (h : Alike B K l m p q) {c d : Scope} (hcd : (c, d) ∈ K) (name : String) (bare : Bool)
    (into : Option String) (args : Arguments) : Race l m (Alike B K l m) p q
      (Step.ofAction (registry.call name { scope := c, bare, into } args) p)
      (Step.ofAction (registry.call name { scope := d, bare, into } args) q) := by
  have hs := B.call h.store h.supply hcd name bare into args
  unfold Step.ofAction
  generalize registry.call name { scope := c, bare, into } args p.world = rx at hs
  generalize registry.call name { scope := d, bare, into } args q.world = ry at hs
  cases hs with
  | ok a hr => exact .ok a ⟨hr.1, hr.2, h.output, h.paced⟩ (.of_eq rfl rfl rfl rfl)
  | error e hr => exact .error e ⟨hr.1, hr.2, h.output, h.paced⟩ (.of_eq rfl rfl rfl rfl)

/-! ### Loops -/

theorem limitReached (h : Alike B K l m p q) (out : String) :
    Step.limitReached l p out = Step.limitReached m q out := by
  unfold Step.limitReached
  rw [← h.output]
  rcases h.paced with hn | ⟨hd, hl⟩
  · rw [hn]
  · rw [hd, hl]

theorem countElement (h : Alike B K l m p q) {outermost outermost' : Bool}
    (ho : l.output = none ∨ outermost = outermost') (text : String) :
    Alike B K l m (Step.countElement outermost text p) (Step.countElement outermost' text q) := by
  refine ⟨?_, ?_, h.output, ?_⟩
  · rw [Step.world_countElement, Step.world_countElement]
    exact h.store
  · rw [Step.world_countElement, Step.world_countElement]
    exact h.supply
  · rcases ho with hn | rfl
    · exact .inl hn
    · rcases h.paced with hn | ⟨hd, hl⟩
      · exact .inl hn
      · right
        cases outermost with
        | true => exact ⟨hd, by simp only [Step.countElement, if_true, hl]⟩
        | false => exact ⟨hd, hl⟩

/-- Two loops at the same place, whose scopes are paired. -/
structure Twins (K : List (Scope × Scope)) (a b : Loop) (v : Option Value) : Prop where
  cursor : a.cursor = b.cursor
  left : a.saved = some v
  right : b.saved = some v
  parents : (a.parent, b.parent) ∈ K
  scopes : (a.scope, b.scope) ∈ K

variable {a b : Loop} {v : Option Value}

theorem restore (h : Alike B K l m p q) (ht : Twins K a b v) :
    Alike B K l m (a.restore p) (b.restore q) := by
  rw [Loop.restore_progress, Loop.restore_progress]
  refine ⟨?_, ?_, h.output, h.paced⟩
  · have ha : (a.restore p.world).store = _ := Loop.store_restore ht.left p.world
    have hb : (b.restore q.world).store = _ := Loop.store_restore ht.right q.world
    simp only [ha, hb]
    exact B.set h.store ht.parents loopVariable v
  · simp only [Loop.restore, ht.left, ht.right]
    exact h.supply

theorem entered (h : Alike B K l m p q) (ht : Twins K a b v) (i : Int) :
    Alike B K l m (a.entered i p) (b.entered i q) :=
  ⟨B.set h.store ht.scopes loopVariable _, h.supply, h.output, h.paced⟩

theorem inStep_restore (a b : Loop) (p q : Progress) : InStep p q (a.restore p) (b.restore q) := by
  rw [Loop.restore_progress, Loop.restore_progress]
  exact .of_eq rfl rfl rfl rfl

theorem inStep_countElement (outermost outermost' : Bool) (text : String) (p q : Progress) :
    InStep p q (Step.countElement outermost text p) (Step.countElement outermost' text q) := by
  cases outermost <;> cases outermost' <;> exact .of_eq rfl rfl rfl rfl

theorem drain {body body' : Deferred Progress} {outermost outermost' : Bool}
    (ho : l.output = none ∨ outermost = outermost')
    (hm : ∀ c, Step.Metered l (body c)) (hm' : ∀ c, Step.Metered m (body' c))
    (hbody : ∀ p q, Alike B K l m p q →
      Race l m (Alike B K l m) p q (body a.scope p) (body' b.scope q))
    (fuel : Nat) (ht : Twins K a b v) (out : String) (h : Alike B K l m p q) :
    Race l m (Alike B K l m) p q (Step.drain l outermost body fuel a out p)
      (Step.drain m outermost' body' fuel b out q) := by
  have hstop : Race l m (Alike B K l m) p q (.ok out (a.restore p)) (.ok out (b.restore q)) :=
    .ok out (h.restore ht) (inStep_restore a b p q)
  induction fuel generalizing a b out p q with
  | zero => exact hstop
  | succ n ih =>
    rw [Step.drain_succ l outermost body n ht.left, Step.drain_succ m outermost' body' n ht.right,
      h.limitReached out, ht.cursor]
    split
    · exact hstop
    · split
      · exact hstop
      · rename_i i d _
        have hrace := hbody _ _ (h.entered ht i)
        have htwins : Twins K { a with cursor := d } { b with cursor := d } v :=
          ⟨rfl, ht.left, ht.right, ht.parents, ht.scopes⟩
        have hrest := fun out => Step.Metered.drain hm outermost n htwins.left out
        have hrest' := fun out => Step.Metered.drain hm' outermost' n htwins.right out
        have hstep : InStep p q (a.entered i p) (b.entered i q) := .of_eq rfl rfl rfl rfl
        refine .rebase hstep ?_
        refine hrace.next Step.spent_afterBody Step.spent_afterBody
          (Step.Metered.afterBody hrest out _).1 (Step.Metered.afterBody hrest' out _).1 fun hs => ?_
        generalize body a.scope (a.entered i p) = x at hs
        generalize body' b.scope (b.entered i q) = y at hs
        cases hs with
        | ok text hr =>
          have hcount := hr.1.countElement ho text
          exact .rebase (hr.2.trans (inStep_countElement outermost outermost' text _ _))
            (ih (a := { a with cursor := d }) (b := { b with cursor := d }) hbody htwins (out ++ text) hcount
              (.ok _ (hcount.restore htwins) (inStep_restore _ _ _ _)))
        | error e hr =>
          exact .error e (hr.1.restore htwins) (hr.2.trans (inStep_restore _ _ _ _))

theorem shift (h : Alike B K l m p q) (f : Nat → Nat) :
    Alike B K l m { p with depth := f p.depth } { q with depth := f q.depth } := by
  refine ⟨h.store, h.supply, h.output, h.paced.imp_right fun hd => ⟨?_, hd.2⟩⟩
  simp only [hd.1]

theorem deeper {α : Type} {x y : Step α}
    (h : Race l m (Alike B K l m) { p with depth := p.depth + 1 } { q with depth := q.depth + 1 }
      (x { p with depth := p.depth + 1 }) (y { q with depth := q.depth + 1 })) :
    Race l m (Alike B K l m) p q (Step.deeper x p) (Step.deeper y q) := by
  have hstep : InStep p q { p with depth := p.depth + 1 } { q with depth := q.depth + 1 } :=
    .of_eq rfl rfl rfl rfl
  refine (h.rebase hstep).next Step.spent_deeper Step.spent_deeper (Nat.le_of_eq (Step.gas_deeper x p).symm)
    (Nat.le_of_eq (Step.gas_deeper y q).symm) fun hs => ?_
  unfold Step.deeper
  generalize x { p with depth := p.depth + 1 } = rx at hs
  generalize y { q with depth := q.depth + 1 } = ry at hs
  cases hs with
  | ok a hr => exact .ok a (hr.1.shift (· - 1)) hr.2
  | error e hr => exact .error e (hr.1.shift (· - 1)) hr.2

theorem start (h : Alike B K l m p q) {c d : Scope} (hcd : (c, d) ∈ K) (span : Span) :
    Alike B ((p.world.store.next, q.world.store.next) :: K) l m
      (Loop.start c span p).2 (Loop.start d span q).2 ∧
    Twins ((p.world.store.next, q.world.store.next) :: K) (Loop.start c span p).1
      (Loop.start d span q).1 (p.world.store.get? c loopVariable) := by
  refine ⟨⟨B.addSub h.store hcd, h.supply, h.output, h.paced⟩, rfl, rfl, ?_,
    List.mem_cons_of_mem _ hcd, List.mem_cons_self⟩
  rw [B.get? h.store hcd]
  rfl

theorem loop (h : Alike B K l m p q) {c d : Scope} (hcd : (c, d) ∈ K) (spec : String)
    {body body' : Deferred Progress} (hm : ∀ c, Step.Metered l (body c))
    (hm' : ∀ c, Step.Metered m (body' c))
    (hbody : ∀ K c d p q, Alike B K l m p q → (c, d) ∈ K →
      Race l m (Alike B K l m) p q (body c p) (body' d q)) :
    Race l m (Alike B K l m) p q (Step.loop l c spec body p) (Step.loop m d spec body' q) := by
  rw [Step.loop_eq, Step.loop_eq]
  cases Span.parse spec with
  | error e => exact .error _ h (.of_eq rfl rfl rfl rfl)
  | ok span =>
    obtain ⟨hstart, htwins⟩ := h.start hcd span
    have houter : l.output = none ∨ (p.depth == 0) = (q.depth == 0) :=
      h.paced.imp_right fun hd => by rw [hd.1]
    have hdrain := (hstart.shift (· + 1)).drain houter hm hm'
      (fun p q hpq => hbody _ _ _ p q hpq htwins.scopes) (span.cursor.size + 1) htwins ""
    refine .imp (R := Alike B ((p.world.store.next, q.world.store.next) :: K) l m) ?_
      fun p' q' hpq => ⟨B.forget hpq.store, hpq.supply, hpq.output, hpq.paced⟩
    have hstep : InStep p q (Loop.start c span p).2 (Loop.start d span q).2 :=
      .of_eq rfl rfl rfl rfl
    exact .rebase hstep (deeper hdrain)

end Alike

theorem Composed.race {registry : Registry} (B : Likeness registry) {α : Type}
    {x : Limits → Scope → Step α} (h : Composed registry x) (l m : Limits)
    (K : List (Scope × Scope)) (c d : Scope) (p q : Progress) (hcd : (c, d) ∈ K)
    (hpq : Alike B K l m p q) : Race l m (Alike B K l m) p q (x l c p) (x m d q) := by
  induction h generalizing K c d p q with
  | pure a => exact .ok a hpq (.of_eq rfl rfl rfl rfl)
  | raise e => exact .error _ hpq (.of_eq rfl rfl rfl rfl)
  | bind hx hf ihx ihf =>
    exact .bind (ihx K c d p q hcd hpq) (fun a => (hf a).metered l c) (fun a => (hf a).metered m d)
      fun a p' q' hpq' => ihf a K c d p' q' hcd hpq'
  | tick => exact hpq.tick
  | inlined hx ihx => exact Alike.inlined (ihx K c d p q hcd hpq)
  | operand hx ihx => exact Alike.operand (ihx K c d p q hcd hpq)
  | lookup name =>
    simp only [Step.lookup, B.get? hpq.store hcd]
    exact .ok _ hpq (.of_eq rfl rfl rfl rfl)
  | call name bare into args => exact hpq.call hcd name bare into args
  | loop spec hb ihb =>
    exact hpq.loop hcd spec (fun c => hb.metered l c) (fun c => hb.metered m c)
      fun K c d p q hpq hcd => ihb K c d p q hcd hpq

end Stencil
