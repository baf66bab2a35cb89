import Stencil.Proofs.AnyGas
import Stencil.Proofs.Failures
import Stencil.Proofs.Unrolling

/-!
# The weight of a template

Every node of a template costs one unit of gas each time that it is evaluated, and a written span has fewer
than `2 ^ 64` values. So the tree alone bounds the gas of a render, however much of it there is. Without
conditions and loops every node is evaluated once, and the gas is the number of nodes.
-/

namespace Stencil

/-! ### What steps spend -/

namespace Step

variable {α β : Type} {n m : Nat}

/-- A step that uses some units of gas at most. -/
def Spends (n : Nat) (x : Step α) : Prop :=
  ∀ p, (Act.endState (x p)).gas ≤ p.gas + n

/-- A step that ends in spent gas only beyond the limit. -/
def Overdraws (most : Nat) (x : Step α) : Prop :=
  ∀ p, Act.Spent (x p) → most < (Act.endState (x p)).gas

theorem gas_tickWithin (most : Nat) (p : Progress) :
    (Act.endState (tickWithin most p)).gas = p.gas + 1 := by
  unfold tickWithin
  dsimp only
  split <;> rfl

namespace Spends

theorem mono {x : Step α} (h : Spends n x) (hle : n ≤ m) : Spends m x :=
  fun p => Nat.le_trans (h p) (Nat.add_le_add_left hle _)

theorem of_gas_eq {x : Step α} (h : ∀ p, (Act.endState (x p)).gas = p.gas) : Spends 0 x :=
  fun p => Nat.le_of_eq (h p)

theorem bind {x : Step α} {f : α → Step β} (hx : Spends n x) (hf : ∀ a, Spends m (f a)) :
    Spends (n + m) (x >>= f) := by
  intro p
  have hp := hx p
  cases hq : x p with
  | ok a q =>
    rw [hq] at hp
    rw [Act.bind_of_ok hq]
    have hrest := hf a q
    simp only [Act.endState] at hp
    omega
  | error e q =>
    rw [hq] at hp
    rw [Act.bind_of_error hq]
    simp only [Act.endState] at hp ⊢
    omega

theorem inlined {x : Step String} (h : Spends n x) : Spends n (inlined x) := by
  intro p
  rw [gas_inlined]
  exact h p

theorem operand {x : Step String} (h : Spends n x) : Spends n (operand x) := by
  intro p
  rw [gas_operand]
  exact h p

/- Every element of a loop pays for one of the values to come. -/
theorem drain {limits : Limits} {body : Deferred Progress} (hb : ∀ d, Spends n (body d)) (outermost : Bool)
    (fuel : Nat) {l : Loop} {v : Option Value} (hv : l.saved = some v) (hstep : l.cursor.step ≠ 0)
    (out : String) : Spends (l.cursor.size * n) (drain limits outermost body fuel l out) := by
  have hstop : ∀ (l : Loop) (p : Progress) (k : Nat), (l.restore p).gas ≤ p.gas + k := by
    intro l p k
    rw [gas_restore]
    exact Nat.le_add_right _ _
  induction fuel generalizing l out with
  | zero => exact fun p => hstop l p _
  | succ k ih =>
    intro p
    rw [drain_succ limits outermost body k hv]
    split
    · exact hstop l p _
    · rcases hpull : l.cursor.pull with ⟨next, d⟩
      cases next with
      | none => exact hstop l p _
      | some i =>
        have hlt := Cursor.size_pull_lt hstep hpull
        have hstep' : d.step ≠ 0 := by rw [Cursor.step_of_pull hpull]; exact hstep
        have hpaid : d.size * n + n ≤ l.cursor.size * n := by
          rw [← Nat.succ_mul]
          exact Nat.mul_le_mul_right n hlt
        have hbody : (Act.endState (body l.scope (l.entered i p))).gas ≤ p.gas + n :=
          hb l.scope (l.entered i p)
        simp only
        cases hx : body l.scope (l.entered i p) with
        | ok element q =>
          rw [hx] at hbody
          have hrest := ih (l := { l with cursor := d }) hv hstep' (out ++ element)
            (countElement outermost element q)
          rw [gas_countElement] at hrest
          simp only [afterBody, Act.endState] at hbody hrest ⊢
          omega
        | error e q =>
          rw [hx] at hbody
          simp only [afterBody, Act.endState, gas_restore] at hbody ⊢
          omega

theorem loopAsking {limits : Limits} {body : Deferred Progress} (hb : ∀ d, Spends n (body d)) (extra : Nat)
    (c : Scope) (spec : String) :
    Spends (Span.mostValues * n) (loopAsking limits extra c spec body) := by
  intro p
  rw [loopAsking_eq]
  cases hspan : Span.parse spec with
  | error e => exact Nat.le_add_right _ _
  | ok span =>
    simp only
    rw [gas_deeper]
    have hdrain : Spends (span.cursor.size * n) (Step.drain limits (p.depth == 0) body
        (span.cursor.size + 1 + extra) (Loop.start c span p).1 "") :=
      drain hb _ _ rfl (Span.step_ne_zero_of_parse hspan) ""
    have hsize : span.cursor.size * n ≤ Span.mostValues * n :=
      Nat.mul_le_mul_right n (Span.written_of_parse hspan).size_le
    exact Nat.le_trans (hdrain _) (Nat.add_le_add_left hsize _)

end Spends

namespace Overdraws

variable {most : Nat}

theorem of_not_spent {x : Step α} (h : ∀ p, ¬ Act.Spent (x p)) : Overdraws most x :=
  fun p hp => absurd hp (h p)

theorem tickWithin (most : Nat) : Overdraws most (tickWithin most) := by
  intro p hspent
  rw [gas_tickWithin]
  unfold Step.tickWithin at hspent
  dsimp only at hspent
  split at hspent
  · assumption
  · exact absurd hspent (Act.not_spent_ok _ _)

theorem bind {x : Step α} {f : α → Step β} (hx : Overdraws most x) (hf : ∀ a, Overdraws most (f a)) :
    Overdraws most (x >>= f) := by
  intro p hspent
  have hp := hx p
  cases hq : x p with
  | ok a q =>
    rw [Act.bind_of_ok hq] at hspent ⊢
    exact hf a q hspent
  | error e q =>
    rw [hq] at hp
    rw [Act.bind_of_error hq] at hspent ⊢
    obtain ⟨s, hs⟩ := hspent
    cases hs
    exact hp ⟨q, rfl⟩

theorem inlined {x : Step String} (h : Overdraws most x) : Overdraws most (inlined x) := by
  intro p hspent
  rw [gas_inlined]
  exact h p ((spent_inlined_iff x p).1 hspent)

theorem operand {x : Step String} (h : Overdraws most x) : Overdraws most (operand x) := by
  intro p hspent
  rw [gas_operand]
  exact h p ((spent_operand_iff x p).1 hspent)

theorem drain {limits : Limits} {body : Deferred Progress} (hb : ∀ d, Overdraws most (body d))
    (outermost : Bool) (fuel : Nat) {l : Loop} {v : Option Value} (hv : l.saved = some v) (out : String) :
    Overdraws most (drain limits outermost body fuel l out) := by
  induction fuel generalizing l out with
  | zero => exact of_not_spent fun p => Act.not_spent_ok _ _
  | succ k ih =>
    intro p hspent
    rw [drain_succ limits outermost body k hv] at hspent ⊢
    split at hspent
    · exact absurd hspent (Act.not_spent_ok _ _)
    · rename_i hlimit
      rw [if_neg hlimit]
      rcases hpull : l.cursor.pull with ⟨next, d⟩
      rw [hpull] at hspent
      cases next with
      | none => exact absurd hspent (Act.not_spent_ok _ _)
      | some i =>
        simp only at hspent ⊢
        have hbody := hb l.scope (l.entered i p)
        cases hx : body l.scope (l.entered i p) with
        | ok element q =>
          rw [hx] at hspent
          exact ih (l := { l with cursor := d }) hv (out ++ element) _ hspent
        | error e q =>
          rw [hx] at hspent hbody
          obtain ⟨s, hs⟩ := hspent
          cases hs
          simp only [afterBody, Act.endState, gas_restore]
          exact hbody ⟨q, rfl⟩

theorem loopAsking {limits : Limits} {body : Deferred Progress} (hb : ∀ d, Overdraws most (body d))
    (extra : Nat) (c : Scope) (spec : String) :
    Overdraws most (loopAsking limits extra c spec body) := by
  intro p hspent
  rw [loopAsking_eq] at hspent ⊢
  cases hspan : Span.parse spec with
  | error e =>
    rw [hspan] at hspent
    obtain ⟨s, hs⟩ := hspent
    cases hs
  | ok span =>
    rw [hspan] at hspent
    simp only at hspent ⊢
    rw [gas_deeper]
    exact drain hb _ _ (l := (Loop.start c span p).1) rfl "" _ ((spent_deeper_iff _ _).1 hspent)

end Overdraws

end Step

/- A standard builtin may fail, but not for gas. -/
theorem Library.standard_call_not_exhausted (name : String) (site : CallSite) (args : Arguments) :
    Act.FailsOnly (· ≠ .exhausted) (standard.call name site args) := by
  cases hb : standard.get? name with
  | none =>
    unfold Registry.call
    rw [hb]
    refine .raise ?_
    intro h
    cases h
  | some b =>
    refine (standard_call_failsOnly hb site args).mono ?_
    rintro _ hf rfl
    exact hf

theorem Script.overdraws_within (limits : Limits) (most extra : Nat) {α : Type} (x : Script α) (c : Scope) :
    Step.Overdraws most (x.within most extra (Renderer.standard limits) c) := by
  induction x generalizing c with
  | pure a => exact .of_not_spent fun p => Act.not_spent_ok _ _
  | raise e =>
    refine .of_not_spent fun p => ?_
    rintro ⟨s, hs⟩
    cases hs
  | bind x f ihx ihf => exact .bind (ihx c) fun a => ihf a c
  | tick => exact .tickWithin most
  | inlined x ih => exact .inlined (ih c)
  | operand x ih => exact .operand (ih c)
  | lookup name => exact .of_not_spent fun p => Act.not_spent_ok _ _
  | call name bare into args =>
    refine .of_not_spent fun p => ?_
    rintro ⟨q, hq⟩
    exact Act.FailsOnly.ofAction (Library.standard_call_not_exhausted name _ args) p _ q hq rfl
  | loop spec body ih => exact .loopAsking (fun d => .inlined (ih d)) extra c spec

/-! ### The weight of a node -/

mutual

/-- A bound on the gas of a node: one unit for each node, and the body of a loop as often as a loop can
run. -/
def Node.weight : Node → Nat
  | .text _ => 1
  | .var _ => 1
  | .concat children => 1 + weightAmong children
  | .call "loop" [range, body] _ _ => 1 + range.weight + Span.mostValues * body.weight
  | .call _ args named _ => 1 + weightAmong args + weightNamed named

def Node.weightAmong : List Node → Nat
  | [] => 0
  | node :: rest => node.weight + weightAmong rest

def Node.weightNamed : List (String × Node) → Nat
  | [] => 0
  | (_, node) :: rest => node.weight + weightNamed rest

end

namespace Node

/-- What a loop with these arguments costs beside its own node. -/
def loopWeight : List Node → Nat
  | [range, body] => range.weight + Span.mostValues * body.weight
  | _ => 0

theorem weight_call_of_ne {name : String} (h : name ≠ "loop") (args : List Node) (named : List (String × Node))
    (into : Option String) :
    (call name args named into).weight = 1 + weightAmong args + weightNamed named := by
  rw [weight]
  rintro range body rfl
  exact absurd rfl h

theorem one_le_weight (node : Node) : 1 ≤ node.weight := by
  fun_cases weight node <;> omega

theorem loopWeight_lt (args : List Node) (named : List (String × Node)) (into : Option String) :
    1 + loopWeight args ≤ (call "loop" args named into).weight := by
  unfold loopWeight
  split
  · simp only [weight]
    omega
  · exact one_le_weight _

end Node

namespace Script

section Spends

variable (limits : Limits) (most extra : Nat)

theorem spends_ofExcept {α : Type} (c : Scope) (name : String) (x : Except Fault α) :
    Step.Spends 0 ((ofExcept name x).within most extra (.standard limits) c) := by
  cases x <;> exact .of_gas_eq fun _ => rfl

theorem gas_bareName (c : Scope) (name : String) (p : Progress) :
    (Act.endState ((bareName Library.standard name).within most extra (.standard limits) c p)).gas = p.gas := by
  have hlookup : Step.lookup c name p = .ok (p.world.store.get? c name) p := rfl
  simp only [bareName, within, Act.bind_of_ok hlookup]
  cases p.world.store.get? c name with
  | some value => rfl
  | none =>
    dsimp only
    split
    · exact Step.gas_ofAction _ p
    · rfl

theorem spends_branch (c : Scope) (left : Operand) (name right : String) {onTrue : Script String}
    {onFalse : Option (Script String)} {n : Nat}
    (htrue : Step.Spends n (onTrue.within most extra (.standard limits) c))
    (hfalse : Step.Spends n ((onFalse.getD (.pure "")).within most extra (.standard limits) c)) :
    Step.Spends n ((branch left name right onTrue onFalse).within most extra (.standard limits) c) := by
  simp only [branch, within]
  refine ((spends_ofExcept limits most extra c "when" _).bind fun holds => ?_).mono
    (Nat.le_of_eq (Nat.zero_add n))
  cases holds with
  | true => exact htrue
  | false => exact hfalse

mutual

theorem spends_ofNode (c : Scope) (node : Node) :
    Step.Spends node.weight ((ofNode Library.standard node).within most extra (.standard limits) c) := by
  have htick : Step.Spends 1 (Step.tickWithin most) := fun p => Nat.le_of_eq (Step.gas_tickWithin most p)
  cases node with
  | text s =>
    simp only [ofNode, within, Node.weight]
    exact htick.bind (m := 0) fun _ => .of_gas_eq fun _ => rfl
  | var name =>
    simp only [ofNode, within, Node.weight]
    exact htick.bind (m := 0) fun _ => .of_gas_eq (gas_bareName limits most extra c name)
  | concat children =>
    simp only [ofNode, within, Node.weight]
    exact htick.bind fun _ => spends_ofConcat c "" children
  | call name args named into =>
    simp only [ofNode, within]
    cases hb : Library.standard.get? name with
    | none =>
      have hpos : 1 + 0 ≤ (Node.call name args named into).weight := Node.one_le_weight _
      exact (htick.bind (m := 0) fun _ => .of_gas_eq fun _ => rfl).mono hpos
    | some b =>
      dsimp only
      cases hkind : b.kind with
      | simple run =>
        have hname : name ≠ "loop" := mt (Library.isIteration_iff hb).2 (by rw [hkind]; simp)
        have hweight := Node.weight_call_of_ne hname args named into
        simp only [within]
        refine (htick.bind fun _ => (spends_ofEach c args).bind fun positional =>
          (spends_ofNamed c .empty named).bind (m := 0) fun keyword => ?_).mono (by omega)
        exact .of_gas_eq fun p => Step.gas_ofAction _ p
      | conditional =>
        have hname : name ≠ "loop" := mt (Library.isIteration_iff hb).2 (by rw [hkind]; simp)
        have hweight := Node.weight_call_of_ne hname args named into
        exact (htick.bind fun _ => spends_ofWhen c b.caps into args).mono (by omega)
      | iteration =>
        obtain rfl := (Library.isIteration_iff hb).1 hkind
        exact (htick.bind fun _ => spends_ofLoop c b.caps into args).mono
          (Node.loopWeight_lt args named into)

theorem spends_ofConcat (c : Scope) (out : String) (nodes : List Node) :
    Step.Spends (Node.weightAmong nodes)
      ((ofConcat Library.standard out nodes).within most extra (.standard limits) c) := by
  cases nodes with
  | nil =>
    simp only [ofConcat, within, Node.weightAmong]
    exact .of_gas_eq fun _ => rfl
  | cons node rest =>
    simp only [ofConcat, within, Node.weightAmong]
    exact (spends_ofNode c node).inlined.bind fun text => spends_ofConcat c (out ++ text) rest

theorem spends_ofEach (c : Scope) (nodes : List Node) :
    Step.Spends (Node.weightAmong nodes)
      ((ofEach Library.standard nodes).within most extra (.standard limits) c) := by
  cases nodes with
  | nil =>
    simp only [ofEach, within, Node.weightAmong]
    exact .of_gas_eq fun _ => rfl
  | cons node rest =>
    simp only [ofEach, within, Node.weightAmong]
    exact (spends_ofNode c node).inlined.bind fun text =>
      (spends_ofEach c rest).bind (m := 0) fun texts => .of_gas_eq fun _ => rfl

theorem spends_ofNamed (c : Scope) (done : NameMap String) (nodes : List (String × Node)) :
    Step.Spends (Node.weightNamed nodes)
      ((ofNamed Library.standard done nodes).within most extra (.standard limits) c) := by
  match nodes with
  | [] =>
    simp only [ofNamed, within, Node.weightNamed]
    exact .of_gas_eq fun _ => rfl
  | (name, node) :: rest =>
    simp only [ofNamed, within, Node.weightNamed]
    exact (spends_ofNode c node).inlined.bind fun text => spends_ofNamed c (done.insert name text) rest

theorem spends_ofWhen (c : Scope) (caps : Capabilities) (into : Option String) (args : List Node) :
    Step.Spends (Node.weightAmong args)
      ((ofWhen Library.standard caps into args).within most extra (.standard limits) c) := by
  have hcheck := spends_ofExcept limits most extra c "when" (CallSite.check { scope := ⟨0⟩, into } caps)
  match args with
  | [left, name, right, onTrue] =>
    simp only [ofWhen, within]
    refine (hcheck.bind fun _ => (spends_ofNode c left).operand.bind fun a =>
      (spends_ofNode c name).inlined.bind fun op => (spends_ofNode c right).inlined.bind fun b =>
        spends_branch limits most extra c a op b (spends_ofNode c onTrue).inlined ?_).mono ?_
    · exact (Step.Spends.of_gas_eq fun _ => rfl).mono (Nat.zero_le _)
    · simp only [Node.weightAmong]
      omega
  | [left, name, right, onTrue, onFalse] =>
    simp only [ofWhen, within]
    refine (hcheck.bind fun _ => (spends_ofNode c left).operand.bind fun a =>
      (spends_ofNode c name).inlined.bind fun op => (spends_ofNode c right).inlined.bind fun b =>
        spends_branch limits most extra c a op b (n := onTrue.weight + onFalse.weight)
          ((spends_ofNode c onTrue).inlined.mono (Nat.le_add_right _ _))
          ((spends_ofNode c onFalse).inlined.mono (Nat.le_add_left _ _))).mono ?_
    simp only [Node.weightAmong]
    omega
  | [] | [_] | [_, _] | [_, _, _] | _ :: _ :: _ :: _ :: _ :: _ :: _ =>
    simp only [ofWhen, within]
    exact (Step.Spends.of_gas_eq fun _ => rfl).mono (Nat.zero_le _)

theorem spends_ofLoop (c : Scope) (caps : Capabilities) (into : Option String) (args : List Node) :
    Step.Spends (Node.loopWeight args)
      ((ofLoop Library.standard caps into args).within most extra (.standard limits) c) := by
  match args with
  | [range, body] =>
    simp only [ofLoop, within, Node.loopWeight]
    refine ((spends_ofExcept limits most extra c "loop" _).bind fun _ => (spends_ofNode c range).inlined.bind
      fun spec => .loopAsking (fun d => (spends_ofNode d body).inlined) extra c spec).mono ?_
    omega
  | [] | [_] | _ :: _ :: _ :: _ =>
    simp only [ofLoop, within]
    exact (Step.Spends.of_gas_eq fun _ => rfl).mono (Nat.zero_le _)

end

end Spends

end Script

/-! ### Templates without conditions and loops -/

def Library.isSimple (name : String) : Bool :=
  match standard.get? name with
  | some b => match b.kind with
    | .simple _ => true
    | _ => false
  | none => false

mutual

def Node.size : Node → Nat
  | .text _ => 1
  | .var _ => 1
  | .concat children => 1 + sizeAmong children
  | .call _ args named _ => 1 + sizeAmong args + sizeNamed named

def Node.sizeAmong : List Node → Nat
  | [] => 0
  | node :: rest => node.size + sizeAmong rest

def Node.sizeNamed : List (String × Node) → Nat
  | [] => 0
  | (_, node) :: rest => node.size + sizeNamed rest

end

mutual

/-- Every call in the tree is one of a standard builtin that runs on evaluated arguments. -/
def Node.callsSimple : Node → Bool
  | .text _ => true
  | .var _ => true
  | .concat children => callsSimpleAmong children
  | .call name args named _ => Library.isSimple name && callsSimpleAmong args && callsSimpleNamed named

def Node.callsSimpleAmong : List Node → Bool
  | [] => true
  | node :: rest => node.callsSimple && callsSimpleAmong rest

def Node.callsSimpleNamed : List (String × Node) → Bool
  | [] => true
  | (_, node) :: rest => node.callsSimple && callsSimpleNamed rest

end

namespace Step

variable {α β : Type} {n m : Nat}

/-- The step uses just this much gas if it ends in a value or a fault. -/
def Uses (n : Nat) (x : Step α) : Prop :=
  ∀ p, (∀ f q, x p = .error f q → ∃ e, f = .fault e) → (Act.endState (x p)).gas = p.gas + n

/-- The step has no fault, and uses just this much gas if it ends in a value. -/
structure Exactly (n : Nat) (x : Step α) : Prop where
  unfaulted : Unfaulted x
  gas : ∀ {p a q}, x p = .ok a q → q.gas = p.gas + n

theorem Uses.of_gas_eq {x : Step α} (h : ∀ p, (Act.endState (x p)).gas = p.gas) : Uses 0 x :=
  fun p _ => h p

theorem Exactly.pure (a : α) : Exactly 0 (Pure.pure a : Step α) := by
  refine ⟨unfaulted_pure a, fun h => ?_⟩
  cases h
  rfl

theorem Exactly.tickWithin (most : Nat) : Exactly 1 (tickWithin most) := by
  refine ⟨fun p e q h => ?_, fun {p a q} h => ?_⟩
  · unfold Step.tickWithin at h
    dsimp only at h
    split at h <;> cases h
  · have hgas := gas_tickWithin most p
    rw [h] at hgas
    exact hgas

theorem Exactly.inlined {x : Step String} (hx : Uses n x) : Exactly n (inlined x) := by
  refine ⟨unfaulted_inlined x, fun {p text q} h => ?_⟩
  have hfault : ∀ f q, x p = .error f q → ∃ e, f = .fault e := by
    intro f q' hf
    cases f with
    | fault e => exact ⟨e, rfl⟩
    | exhausted =>
      simp only [Step.inlined, hf] at h
      cases h
    | unprintable =>
      simp only [Step.inlined, hf] at h
      cases h
  have hgas := hx p hfault
  rw [← gas_inlined, h] at hgas
  exact hgas

theorem Exactly.bind {x : Step α} {f : α → Step β} (hx : Exactly n x) (hf : ∀ a, Exactly m (f a)) :
    Exactly (n + m) (x >>= f) := by
  refine ⟨hx.unfaulted.bind fun a => (hf a).unfaulted, fun {p b q} h => ?_⟩
  obtain ⟨a, p', hp', hq⟩ := Act.bind_eq_ok h
  have hfirst := hx.gas hp'
  have hsecond := (hf a).gas hq
  omega

/- Since the first step has no fault, it has ended in a value if the whole has ended in a fault. -/
theorem Exactly.andThen {x : Step α} {f : α → Step β} (hx : Exactly n x) (hf : ∀ a, Uses m (f a)) :
    Uses (n + m) (x >>= f) := by
  intro p hp
  cases hq : x p with
  | ok a q =>
    rw [Act.bind_of_ok hq] at hp ⊢
    have hfirst := hx.gas hq
    have hsecond := hf a q hp
    omega
  | error f q =>
    obtain ⟨e, rfl⟩ := hp f q (Act.bind_of_error hq)
    exact absurd hq (hx.unfaulted p e q)

theorem Exactly.uses {x : Step α} (hx : Exactly n x) : Uses n x := by
  intro p hp
  cases hq : x p with
  | ok a q => exact hx.gas hq
  | error f q =>
    obtain ⟨e, rfl⟩ := hp f q hq
    exact absurd hq (hx.unfaulted p e q)

end Step

namespace Script

section Uses

variable (limits : Limits) (most extra : Nat)

mutual

theorem uses_ofNode (c : Scope) (node : Node) (h : node.callsSimple) :
    Step.Uses node.size ((ofNode Library.standard node).within most extra (.standard limits) c) := by
  have htick := Step.Exactly.tickWithin most
  cases node with
  | text s =>
    simp only [ofNode, within, Node.size]
    exact htick.andThen (m := 0) fun _ => .of_gas_eq fun _ => rfl
  | var name =>
    simp only [ofNode, within, Node.size]
    exact htick.andThen (m := 0) fun _ => .of_gas_eq (gas_bareName limits most extra c name)
  | concat children =>
    simp only [ofNode, within, Node.size]
    exact htick.andThen fun _ => (exactly_ofConcat c "" children h).uses
  | call name args named into =>
    simp only [Node.callsSimple, Bool.and_eq_true] at h
    obtain ⟨⟨hname, hargs⟩, hnamed⟩ := h
    simp only [ofNode, within, Node.size]
    unfold Library.isSimple at hname
    cases hb : Library.standard.get? name with
    | none =>
      rw [hb] at hname
      cases hname
    | some b =>
      rw [hb] at hname
      dsimp only at hname ⊢
      cases hkind : b.kind with
      | simple run =>
        simp only [within]
        rw [Nat.add_assoc]
        refine htick.andThen fun _ => (exactly_ofEach c args hargs).andThen fun positional =>
          (exactly_ofNamed c .empty named hnamed).andThen (m := 0) fun keyword => ?_
        exact .of_gas_eq fun p => Step.gas_ofAction _ p
      | conditional =>
        rw [hkind] at hname
        cases hname
      | iteration =>
        rw [hkind] at hname
        cases hname

theorem exactly_ofConcat (c : Scope) (out : String) (nodes : List Node) (h : Node.callsSimpleAmong nodes) :
    Step.Exactly (Node.sizeAmong nodes)
      ((ofConcat Library.standard out nodes).within most extra (.standard limits) c) := by
  cases nodes with
  | nil =>
    simp only [ofConcat, within, Node.sizeAmong]
    exact .pure out
  | cons node rest =>
    simp only [Node.callsSimpleAmong, Bool.and_eq_true] at h
    simp only [ofConcat, within, Node.sizeAmong]
    exact (Step.Exactly.inlined (uses_ofNode c node h.1)).bind fun text =>
      exactly_ofConcat c (out ++ text) rest h.2

theorem exactly_ofEach (c : Scope) (nodes : List Node) (h : Node.callsSimpleAmong nodes) :
    Step.Exactly (Node.sizeAmong nodes)
      ((ofEach Library.standard nodes).within most extra (.standard limits) c) := by
  cases nodes with
  | nil =>
    simp only [ofEach, within, Node.sizeAmong]
    exact .pure []
  | cons node rest =>
    simp only [Node.callsSimpleAmong, Bool.and_eq_true] at h
    simp only [ofEach, within, Node.sizeAmong]
    exact (Step.Exactly.inlined (uses_ofNode c node h.1)).bind fun text =>
      (exactly_ofEach c rest h.2).bind (m := 0) fun texts => .pure _

theorem exactly_ofNamed (c : Scope) (done : NameMap String) (nodes : List (String × Node))
    (h : Node.callsSimpleNamed nodes) :
    Step.Exactly (Node.sizeNamed nodes)
      ((ofNamed Library.standard done nodes).within most extra (.standard limits) c) := by
  match nodes with
  | [] =>
    simp only [ofNamed, within, Node.sizeNamed]
    exact .pure done
  | (name, node) :: rest =>
    simp only [Node.callsSimpleNamed, Bool.and_eq_true] at h
    simp only [ofNamed, within, Node.sizeNamed]
    exact (Step.Exactly.inlined (uses_ofNode c node h.1)).bind fun text =>
      exactly_ofNamed c (done.insert name text) rest h.2

end

end Uses

end Script

namespace Renderer

variable {limits : Limits} {most extra : Nat} {c : Scope} {node : Node} {w v : World} {out : Rendered}

theorem renderWithin_ne_exhausted (h : node.weight ≤ most) :
    ((standard limits).renderWithin most extra c node w).1 ≠ .error .exhausted := by
  intro hexhausted
  have hspends := (Script.spends_ofNode limits most extra c node).inlined { world := w }
  have hover := (Script.overdraws_within limits most extra
    (Script.ofNode Library.standard node) c).inlined { world := w }
  unfold renderWithin at hexhausted
  split at hexhausted
  · cases hexhausted
  · rename_i f p hrun
    cases hexhausted
    have hgas := hover ⟨p, hrun⟩
    simp only at hspends
    omega

theorem gas_of_renderWithin (h : (standard limits).renderWithin most extra c node w = (.ok out, v)) :
    ∃ p, Step.inlined ((Script.ofNode Library.standard node).within most extra (standard limits) c)
      { world := w } = .ok out.text p ∧ out.gas = p.gas := by
  unfold renderWithin at h
  split at h
  · rename_i text p hrun
    cases h
    exact ⟨p, hrun, rfl⟩
  · cases h

theorem gas_le_weight (h : (standard limits).renderWithin most extra c node w = (.ok out, v)) :
    out.gas ≤ node.weight := by
  obtain ⟨p, hrun, hgas⟩ := gas_of_renderWithin h
  have hspends := (Script.spends_ofNode limits most extra c node).inlined { world := w }
  rw [hrun] at hspends
  simp only [Act.endState] at hspends
  omega

theorem gas_eq_size (h : (standard limits).renderWithin most extra c node w = (.ok out, v))
    (hsimple : node.callsSimple) : out.gas = node.size := by
  obtain ⟨p, hrun, hgas⟩ := gas_of_renderWithin h
  have hexactly := (Step.Exactly.inlined (Script.uses_ofNode limits most extra c node hsimple)).gas hrun
  simp only at hexactly
  omega

/-- With the standard builtins a render whose limit on gas is the weight of its template or more does not run
out of gas, and one that succeeds has used no more than the weight; without conditions and loops it has used
one unit for each node. This is so for every natural number as a limit, however many elements more than it
has values a loop is asked for, and renders are among these. -/
theorem render_gas_le_weight (limits : Limits) (c : Scope) (node : Node) (w : World) :
    (node.weight ≤ limits.gas.toNat → ((standard limits).render c node w).1 ≠ .error .exhausted) ∧
    (∀ out v, (standard limits).render c node w = (.ok out, v) →
      out.gas ≤ node.weight ∧ (node.callsSimple → out.gas = node.size)) ∧
    (∀ extra, (standard limits).renderWithin limits.gas.toNat extra c node w =
      (standard limits).render c node w) ∧
    (∀ most extra : Nat,
      (node.weight ≤ most → ((standard limits).renderWithin most extra c node w).1 ≠ .error .exhausted) ∧
      ∀ out v, (standard limits).renderWithin most extra c node w = (.ok out, v) →
        out.gas ≤ node.weight ∧ (node.callsSimple → out.gas = node.size)) := by
  have hrender := fun extra => (standard limits).renderWithin_gas extra c node w
  refine ⟨fun hweight => ?_, fun out v h => ?_, hrender, fun most extra =>
    ⟨renderWithin_ne_exhausted, fun out v h => ⟨gas_le_weight h, gas_eq_size h⟩⟩⟩
  · rw [← hrender 0]
    exact renderWithin_ne_exhausted hweight
  · rw [← hrender 0] at h
    exact ⟨gas_le_weight h, gas_eq_size h⟩

/-- Calls that fail use the gas of all their nodes, named arguments included; and a loop within a loop does
not run out of gas when its limit is its weight, which is beyond 64 bits. -/
theorem render_gas_le_weight_nested :
    let moment : Moment := { day := 0, second := 0, nano := 0 }
    let w : World := { store := (Store.empty.addRoot {}).2,
                       supply := { draw := fun _ => 0, reading := fun _ => moment } }
    let calls : Node := .concat [.call "len" [] [("size", .call "slice" [.text "x", .var "iter"] [] none)] none,
      .call "void" [.text "a", .text "b"] [] none]
    let loops : Node := .call "loop" [.text "3", .call "loop" [.text "2", .text "x"] [] none] [] none
    calls.weight ≤ ({} : Limits).gas.toNat ∧ ((standard {}).render ⟨0⟩ calls w).1 ≠ .error .exhausted ∧
      (∃ out v, (standard {}).render ⟨0⟩ calls w = (.ok out, v) ∧ calls.callsSimple ∧
        out.reports.length = 4 ∧ out.gas = 8 ∧ out.gas = calls.size) ∧
      Span.mostValues * Span.mostValues ≤ loops.weight ∧
      ((standard {}).renderWithin loops.weight 5 ⟨0⟩ loops w).1 ≠ .error .exhausted := by
  intro moment w calls loops
  obtain ⟨henough, hused, -, -⟩ := render_gas_le_weight {} ⟨0⟩ calls w
  obtain ⟨-, -, -, hany⟩ := render_gas_le_weight {} ⟨0⟩ loops w
  have hweight : calls.weight ≤ ({} : Limits).gas.toNat := by decide +kernel
  have hsimple : calls.callsSimple := by decide +kernel
  have hok : ((standard {}).render ⟨0⟩ calls w).1.toOption.map
      (fun out => (out.reports.length, out.gas)) = some (4, 8) := by decide +kernel
  obtain ⟨out, hout, hfacts⟩ := Option.map_eq_some_iff.1 hok
  obtain ⟨hreports, hgas⟩ := Prod.mk.inj hfacts
  have hrun := render_of_toOption hout
  have hbeyond : Span.mostValues * Span.mostValues ≤ loops.weight := by
    simp only [loops, Node.weight, Span.mostValues]
    decide
  exact ⟨hweight, henough hweight,
    ⟨out, _, hrun, hsimple, hreports, hgas, (hused out _ hrun).2 hsimple⟩, hbeyond,
    (hany loops.weight 5).1 (Nat.le_refl _)⟩

end Renderer

end Stencil
