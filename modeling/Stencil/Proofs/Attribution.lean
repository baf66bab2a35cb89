import Stencil.Proofs.Failures
import Stencil.Proofs.Unrolling

/-!
# Whose fault it is

A fault belongs to one node: to a call or a bare name whose evaluation ended in it. It names the builtin of
that node, or nothing if there is no such builtin. Conditions, loops and calls around the node do not change
that, since they show or keep the faults of their parts and have only their own (`Renderer.eval_belongsTo`).
-/

namespace Stencil

/-! ### The faults of a node -/

/-- The fault names a builtin of this name, or says that there is none. -/
def Fault.Names (e : Fault) (name : String) (missing : Fault.Kind) : Prop :=
  if Library.standard.contains name then e.source = some name ∧ e.kind.isInner
  else e.source = none ∧ e.kind = missing

/-- The fault is one in which the evaluation of the node itself may end. -/
def Fault.BelongsTo (e : Fault) : Node → Prop
  | .text _ => False
  | .concat _ => False
  | .var name => e.Names name .undefinedVariable
  | .call name _ _ _ => e.Names name .unknownFunction

theorem Fault.names_of_contains {e : Fault} {name : String} {missing : Fault.Kind}
    (h : Library.standard.contains name) (hsource : e.source = some name) (hkind : e.kind.isInner) :
    e.Names name missing := by
  rw [Names, if_pos h]
  exact ⟨hsource, hkind⟩

theorem Fault.names_of_missing {e : Fault} {name : String} {missing : Fault.Kind}
    (h : ¬ Library.standard.contains name) (hsource : e.source = none) (hkind : e.kind = missing) :
    e.Names name missing := by
  rw [Names, if_neg h]
  exact ⟨hsource, hkind⟩

theorem Fault.Names.source_eq_none_iff {e : Fault} {name : String} {missing : Fault.Kind}
    (h : e.Names name missing) (hmissing : missing = .undefinedVariable ∨ missing = .unknownFunction) :
    (e.source = none ↔ e.kind = .undefinedVariable ∨ e.kind = .unknownFunction) ∧
      e.kind ≠ .gasExhausted ∧ e.kind ≠ .typeClash := by
  unfold Names at h
  split at h
  · obtain ⟨hsource, hkind⟩ := h
    rw [hsource]
    cases hk : e.kind <;> simp_all [Fault.Kind.isInner]
  · obtain ⟨hsource, hkind⟩ := h
    rw [hsource, hkind]
    rcases hmissing with rfl | rfl <;> decide

theorem Fault.BelongsTo.source_eq_none_iff {e : Fault} {node : Node} (h : e.BelongsTo node) :
    (e.source = none ↔ e.kind = .undefinedVariable ∨ e.kind = .unknownFunction) ∧
      e.kind ≠ .gasExhausted ∧ e.kind ≠ .typeClash := by
  cases node with
  | text s => exact h.elim
  | concat children => exact h.elim
  | var name => exact Names.source_eq_none_iff h (.inl rfl)
  | call name args named into => exact Names.source_eq_none_iff h (.inr rfl)

namespace Step

variable {α β : Type} {Q : Fault → Prop}

/-- A step all of whose faults have a property. -/
abbrev Faults (Q : Fault → Prop) (x : Step α) : Prop :=
  Act.FailsOnly (fun f => ∀ e, f = .fault e → Q e) x

theorem Unfaulted.faults {x : Step α} (hx : Unfaulted x) : Faults Q x := by
  rintro p _ q h e rfl
  exact absurd h (hx p e q)

theorem faults_raise {e : Fault} (he : Q e) : Faults Q (Act.raise e : Step α) := by
  refine .raise ?_
  intro e' h
  cases h
  exact he

theorem faults_of_builtin {name : String} {x : Step α} (hx : Act.FailsOnly (Failure.OfBuiltin name) x) :
    Faults (fun e => e.source = some name ∧ e.kind.isInner) x := by
  refine hx.mono ?_
  rintro _ hf e rfl
  exact hf

/- Only the condition itself can fail: branches show their faults. -/
theorem faults_branch (c : Scope) (left : Operand) (name right : String) {onTrue : Deferred Progress}
    {onFalse : Option (Deferred Progress)} (htrue : ∀ d, Unfaulted (onTrue d))
    (hfalse : ∀ run ∈ onFalse, ∀ d, Unfaulted (run d)) :
    Faults (fun e => e.source = some "when" ∧ e.kind.isInner)
      (branch c left name right onTrue onFalse) := by
  have hdecide := raises_decideCondition left name right
  refine .bind (faults_of_builtin (.attributed (.ofExcept hdecide) "when")) fun holds => ?_
  cases holds with
  | true => exact (htrue c).faults
  | false =>
    cases onFalse with
    | none => exact .pure ""
    | some run => exact (hfalse run rfl c).faults

theorem faults_loop (limits : Limits) (c : Scope) (spec : String) {body : Deferred Progress}
    (hb : ∀ d, Unfaulted (body d)) :
    Faults (fun e => e.source = some "loop" ∧ e.kind.isInner) (loop limits c spec body) := by
  cases hspan : Span.parse spec with
  | ok span => exact (Unfaulted.loop hb hspan c).faults
  | error e =>
    obtain ⟨hsource, hkind⟩ := Span.unnamed_of_parse hspan
    rintro p f q h e' rfl
    rw [loop_eq, hspan] at h
    cases h
    refine ⟨?_, hkind⟩
    simp only [Fault.attributed, hsource, Option.getD_none]

end Step

theorem Library.contains_of_get? {name : String} {b : Builtin} (h : standard.get? name = some b) :
    standard.contains name := by
  unfold NameMap.contains
  rw [h]
  rfl

namespace Renderer

variable (limits : Limits) (c : Scope)

theorem faults_bareName (name : String) :
    Step.Faults (fun e => e.Names name .undefinedVariable) ((standard limits).bareName c name) := by
  intro p f q h
  have hget : (get : Step Progress) p = .ok p p := rfl
  rw [bareName, Act.bind_of_ok hget] at h
  cases hvalue : p.world.store.get? c name with
  | some value =>
    simp only [hvalue] at h
    cases h
  | none =>
    simp only [hvalue] at h
    by_cases hcontains : Library.standard.contains name
    · obtain ⟨b, hb⟩ := Option.isSome_iff_exists.1 hcontains
      have hcall := Step.faults_of_builtin
        (.ofAction (Library.standard_call_failsOnly hb { scope := c, bare := true } {}))
      rw [show (standard limits).registry = Library.standard from rfl, if_pos hcontains] at h
      intro e he
      obtain ⟨hsource, hkind⟩ := hcall p f q h e he
      exact Fault.names_of_contains hcontains hsource hkind
    · rw [show (standard limits).registry = Library.standard from rfl, if_neg hcontains] at h
      exact Step.faults_raise (Fault.names_of_missing hcontains rfl rfl) p f q h

theorem faults_evalWhen {caps : Capabilities} (hcaps : caps.storage ≠ some .strict) (into : Option String)
    (args : List Node) :
    Step.Faults (fun e => e.source = some "when" ∧ e.kind.isInner)
      ((standard limits).evalWhen c caps into args) := by
  have hcheck : Step.Faults (fun e => e.source = some "when" ∧ e.kind.isInner)
      (checkSite caps c into "when") := Step.faults_of_builtin (.check hcaps _ "when")
  unfold evalWhen
  split
  · exact .bind hcheck fun _ => .bind (Step.unfaulted_operand _).faults fun a =>
      .bind (Step.unfaulted_inlined _).faults fun op => .bind (Step.unfaulted_inlined _).faults fun b =>
        Step.faults_branch c a op b (fun _ => Step.unfaulted_inlined _) fun x hx => by cases hx
  · refine .bind hcheck fun _ => .bind (Step.unfaulted_operand _).faults fun a =>
      .bind (Step.unfaulted_inlined _).faults fun op => .bind (Step.unfaulted_inlined _).faults fun b =>
        Step.faults_branch c a op b (fun _ => Step.unfaulted_inlined _) ?_
    rintro x hx d
    cases hx
    exact Step.unfaulted_inlined _
  · exact Step.faults_raise ⟨rfl, rfl⟩

theorem faults_evalLoop {caps : Capabilities} (hcaps : caps.storage ≠ some .strict) (into : Option String)
    (args : List Node) :
    Step.Faults (fun e => e.source = some "loop" ∧ e.kind.isInner)
      ((standard limits).evalLoop c caps into args) := by
  unfold evalLoop
  split
  · exact .bind (Step.faults_of_builtin (.check hcaps _ "loop")) fun _ =>
      .bind (Step.unfaulted_inlined _).faults fun spec =>
        Step.faults_loop _ c spec fun d => Step.unfaulted_inlined _
  · exact Step.faults_raise ⟨rfl, rfl⟩

/- No induction: what goes wrong in the parts of a node is shown or kept there and is not the node's. -/
theorem eval_belongsTo {limits : Limits} {c : Scope} {node : Node} {p q : Progress} {e : Fault}
    (h : (standard limits).eval c node p = .error (.fault e) q) : e.BelongsTo node := by
  have htick : ∀ {Q : Fault → Prop}, Step.Faults Q (Step.tick (standard limits).limits) :=
    (Step.unfaulted_tick _).faults
  suffices hfaults : Step.Faults (fun e => e.BelongsTo node) ((standard limits).eval c node) from
    hfaults p _ q h e rfl
  cases node with
  | text s =>
    simp only [eval]
    exact .bind htick fun _ => .pure s
  | concat children =>
    simp only [eval]
    exact .bind htick fun _ => (unfaulted_evalConcat _ c "" children).faults
  | var name =>
    simp only [eval]
    exact .bind htick fun _ => faults_bareName limits c name
  | call name args named into =>
    simp only [eval]
    refine .bind htick fun _ => ?_
    cases hb : (standard limits).registry.get? name with
    | none =>
      have hcontains : ¬ Library.standard.contains name := by
        rw [NameMap.contains, show Library.standard.get? name = none from hb]
        decide
      exact Step.faults_raise (Fault.names_of_missing hcontains rfl rfl)
    | some b =>
      have hstrict := Library.standard_notStrict hb
      have hnames : ∀ {α : Type} {x : Step α},
          Step.Faults (fun e => e.source = some name ∧ e.kind.isInner) x →
          Step.Faults (fun e => e.BelongsTo (.call name args named into)) x := by
        intro α x hx
        exact hx.mono fun f hf e he =>
          Fault.names_of_contains (Library.contains_of_get? hb) (hf e he).1 (hf e he).2
      dsimp only
      cases hkind : b.kind with
      | simple run =>
        refine .bind (unfaulted_evalEach _ c args).faults fun positional =>
          .bind (unfaulted_evalNamed _ c .empty named).faults fun keyword => hnames ?_
        rw [Library.standard_name hb]
        exact Step.faults_of_builtin (.ofAction (Library.standard_call_failsOnly hb _ _))
      | conditional =>
        obtain rfl := (Library.isConditional_iff hb).1 hkind
        exact hnames (faults_evalWhen limits c hstrict into args)
      | iteration =>
        obtain rfl := (Library.isIteration_iff hb).1 hkind
        exact hnames (faults_evalLoop limits c hstrict into args)

end Renderer

end Stencil
