import Stencil.Proofs.Builtins

/-!
# How builtins fail

Every fault that arises in a standard builtin is unnamed until the call names it, and is of a kind that says
something about the arguments. No builtin spends gas. `Raises` says this of pure computations and
`Act.FailsOnly` of those on a state; both pass through the steps that builtins are made of.
-/

namespace Stencil

/-- Kinds of faults that arise in builtins. The others are about names without a meaning, about calls that
only strict builtins refuse, and about gas. -/
def Fault.Kind.isInner : Fault.Kind → Bool
  | .undefinedVariable | .unknownFunction | .typeClash | .gasExhausted => false
  | _ => true

/-- A fault as it arises in a builtin, which it does not name yet. -/
structure Fault.Unnamed (e : Fault) : Prop where
  source : e.source = none
  kind : e.kind.isInner

def Failure.Inner : Failure → Prop
  | .fault e => e.Unnamed
  | .exhausted => False
  | .unprintable => True

def Failure.OfBuiltin (name : String) : Failure → Prop
  | .fault e => e.source = some name ∧ e.kind.isInner
  | .exhausted => False
  | .unprintable => True

/-! ### Pure computations -/

/-- All faults of a computation have a property. -/
def Raises {α : Type} (P : Fault → Prop) (x : Except Fault α) : Prop :=
  ∀ e, x = .error e → P e

namespace Raises

variable {α β : Type} {P : Fault → Prop}

theorem ok (a : α) : Raises P (.ok a) := by
  intro e h
  cases h

theorem error {e : Fault} (he : P e) : Raises P (.error e : Except Fault α) := by
  intro e' h
  cases h
  exact he

theorem bind {x : Except Fault α} {f : α → Except Fault β} (hx : Raises P x) (hf : ∀ a, Raises P (f a)) :
    Raises P (x >>= f) := by
  cases x with
  | ok a => exact hf a
  | error e => exact error (hx e rfl)

theorem map {x : Except Fault α} (hx : Raises P x) (f : α → β) : Raises P (x.map f) := by
  cases x with
  | ok a => exact ok (f a)
  | error e => exact error (hx e rfl)

theorem mapError {ε : Type} (x : Except ε α) {f : ε → Fault} (hf : ∀ e, P (f e)) :
    Raises P (x.mapError f) := by
  cases x with
  | ok a => exact ok a
  | error e => exact error (hf e)

theorem intArg (text : String) {kind : Fault.Kind} {message : String}
    (h : ∀ cause, P { kind, message, cause }) : Raises P (intArg text kind message) :=
  mapError _ fun _ => h _

theorem floatArg (text : String) {kind : Fault.Kind} {message : String}
    (h : ∀ cause, P { kind, message, cause }) : Raises P (floatArg text kind message) :=
  mapError _ fun _ => h _

theorem intArgOr (text : String) (default : Int) {kind : Fault.Kind} {message : String}
    (h : ∀ cause, P { kind, message, cause }) : Raises P (intArgOr text default kind message) := by
  unfold Stencil.intArgOr
  split
  · exact ok default
  · exact intArg text h

end Raises

/- A text that writes no span is always a fault about arguments. -/
theorem Span.raises_parse (spec : String) :
    Raises (fun e => e.kind = .invalidArguments ∧ e.source = none) (Span.parse spec) := by
  have hlimits : ∀ start stop step, Raises (fun e => e.kind = .invalidArguments ∧ e.source = none)
      (ofLimits start stop step) := by
    intro start stop step
    unfold ofLimits
    split
    · exact .error ⟨rfl, rfl⟩
    · exact .ok _
  unfold parse
  split
  · exact .bind (.intArg _ fun _ => ⟨rfl, rfl⟩) fun stop => hlimits 1 stop 1
  · exact .bind (.intArgOr _ 1 fun _ => ⟨rfl, rfl⟩) fun first =>
      .bind (.intArgOr _ 1 fun _ => ⟨rfl, rfl⟩) fun stride =>
        .bind (.intArg _ fun _ => ⟨rfl, rfl⟩) fun stop => hlimits first stop stride
  · exact .error ⟨rfl, rfl⟩

theorem Span.unnamed_of_parse {spec : String} {e : Fault} (h : Span.parse spec = .error e) : e.Unnamed := by
  obtain ⟨hkind, hsource⟩ := raises_parse spec e h
  refine ⟨hsource, ?_⟩
  rw [hkind]
  rfl

theorem Arguments.unnamed_invalid (message : String) : (Arguments.invalid message).Unnamed := ⟨rfl, rfl⟩

theorem Arguments.raises_require (args : Arguments) (index : Nat) (name : String) :
    Raises Fault.Unnamed (args.require index name) := by
  unfold require
  split
  · exact .ok _
  · exact .error (unnamed_invalid _)

theorem Arguments.raises_atMost (args : Arguments) (most : Nat) :
    Raises Fault.Unnamed (args.atMost most) := by
  unfold atMost
  split
  · exact .error (unnamed_invalid _)
  · exact .ok ()

/- Only a strict builtin refuses a call for its parentheses. -/
theorem CallSite.raises_check (site : CallSite) {caps : Capabilities} (hcaps : caps.storage ≠ some .strict) :
    Raises Fault.Unnamed (site.check caps) := by
  have hstrict : (caps.storage == some .strict) = false := beq_eq_false_iff_ne.2 hcaps
  unfold check
  split
  · exact .error ⟨rfl, rfl⟩
  · split
    · exact .error ⟨rfl, rfl⟩
    · rw [hstrict, Bool.false_and]
      exact .ok ()

/-! ### Conditions and arithmetic -/

theorem TypeTest.raises_parse (fits : String → Bool) (name : String) :
    Raises Fault.Unnamed (TypeTest.parse fits name) := by
  unfold parse
  split
  any_goals exact .ok _
  split
  · exact .error ⟨rfl, rfl⟩
  · split
    · exact .ok _
    · exact .error ⟨rfl, rfl⟩

theorem raises_compareInts {P : Fault → Prop}
    (hP : ∀ cause, P { kind := .invalidArgument, message := "args must be numbers", cause }) (left : Operand)
    (right : String) (holds : Int → Int → Bool) : Raises P (compareInts left right holds) := by
  have hright : ∀ a, Raises P (do
      let b ← intArg right .invalidArgument "args must be numbers"
      return holds a b) :=
    fun a => .bind (.intArg right hP) fun b => .ok (holds a b)
  cases left with
  | text s => exact .bind (.intArg s hP) hright
  | failed e => exact .error (hP none)

theorem raises_decideCondition (left : Operand) (name right : String) :
    Raises Fault.Unnamed (decideCondition left name right) := by
  unfold decideCondition
  cases Comparison.ofName? name with
  | none => exact .error ⟨rfl, rfl⟩
  | some c =>
    cases c with
    | eq => exact .ok _
    | ne => exact .ok _
    | lt => exact raises_compareInts (fun _ => ⟨rfl, rfl⟩) left right _
    | le => exact raises_compareInts (fun _ => ⟨rfl, rfl⟩) left right _
    | gt => exact raises_compareInts (fun _ => ⟨rfl, rfl⟩) left right _
    | ge => exact raises_compareInts (fun _ => ⟨rfl, rfl⟩) left right _
    | isIn =>
      cases left with
      | text s => exact .ok _
      | failed e => exact .error ⟨rfl, rfl⟩
    | isType => exact (TypeTest.raises_parse _ right).map _

namespace Arithmetic

theorem raises_readAll {α : Type} {read : String → Nat → Except Fault α}
    (hread : ∀ text n, Raises Fault.Unnamed (read text n)) (n : Nat) (texts : List String) :
    Raises Fault.Unnamed (readAll read n texts) := by
  induction texts generalizing n with
  | nil => exact .ok []
  | cons text rest ih => exact .bind (hread text n) fun a => .bind (ih (n + 1)) fun as => .ok _

def runKinds : List Fault.Kind :=
  [.divideByZero, .overflow, .underflow, .notANumber]

section

variable {P : Fault → Prop} (hP : ∀ kind ∈ runKinds, P (Fault.ofKind kind))

include hP

theorem Operator.raises_of_runFloats? {op : Operator} {values : List Float} {x : Except Fault Float}
    (h : op.runFloats? values = some x) : Raises P x := by
  obtain ⟨a, -, h⟩ := Option.bind_eq_some_iff.1 h
  cases op with
  | sub | pow =>
    obtain ⟨b, -, h⟩ := Option.bind_eq_some_iff.1 h
    cases h
    exact .ok _
  | div =>
    obtain ⟨b, -, h⟩ := Option.bind_eq_some_iff.1 h
    cases h
    split
    · exact .error (hP _ (by decide))
    · exact .ok _
  | add | mul | max | min | floor | ceil | round =>
    cases h
    exact .ok _
  | idiv | mod | and | or | xor | not => cases h

theorem raises_finiteText (x : Float) : Raises P (finiteText x) := by
  unfold finiteText
  split
  any_goals exact .error (hP _ (by decide))
  exact .ok _

omit hP in
theorem raises_of_map_ok {x : Option Int} {y : Except Fault Int} (h : x.map .ok = some y) : Raises P y := by
  obtain ⟨n, -, rfl⟩ := Option.map_eq_some_iff.1 h
  exact .ok n

theorem raises_of_floorDiv? {a b : Int} {y : Except Fault Int} (h : floorDiv? a b = some y) : Raises P y := by
  unfold floorDiv? at h
  split at h
  · cases h
    exact .error (hP _ (by decide))
  · split at h
    · cases h
      exact .error (hP _ (by decide))
    · obtain ⟨r, -, h⟩ := Option.bind_eq_some_iff.1 h
      split at h
      · exact raises_of_map_ok h
      · cases h
        exact .ok _

theorem raises_of_floorMod? {a b : Int} {y : Except Fault Int} (h : floorMod? a b = some y) : Raises P y := by
  unfold floorMod? at h
  split at h
  · cases h
    exact .error (hP _ (by decide))
  · dsimp only at h
    split at h
    · exact raises_of_map_ok h
    · cases h
      exact .ok _

theorem Operator.raises_of_runInts? {op : Operator} {values : List Int} {x : Except Fault Int}
    (h : op.runInts? values = some x) : Raises P x := by
  obtain ⟨a, -, h⟩ := Option.bind_eq_some_iff.1 h
  cases op with
  | idiv =>
    obtain ⟨b, -, h⟩ := Option.bind_eq_some_iff.1 h
    exact raises_of_floorDiv? hP h
  | mod =>
    obtain ⟨b, -, h⟩ := Option.bind_eq_some_iff.1 h
    exact raises_of_floorMod? hP h
  | xor =>
    obtain ⟨b, -, h⟩ := Option.bind_eq_some_iff.1 h
    cases h
    exact .ok _
  | and | or | not =>
    cases h
    exact .ok _
  | add | sub | mul | div | pow | max | min | floor | ceil | round => cases h

end

theorem unnamed_of_runKinds : ∀ kind ∈ runKinds, (Fault.ofKind kind).Unnamed := by
  intro kind h
  simp only [runKinds, List.mem_cons, List.not_mem_nil, or_false] at h
  rcases h with rfl | rfl | rfl | rfl
  any_goals exact ⟨rfl, rfl⟩

theorem Operator.raises_of_compute? {op : Operator} {operands : List String} {x : Except Fault String}
    (h : op.compute? operands = some x) : Raises Fault.Unnamed x := by
  unfold compute? at h
  split at h
  · split at h
    · obtain ⟨y, hy, rfl⟩ := Option.map_eq_some_iff.1 h
      exact .bind (raises_of_runFloats? unnamed_of_runKinds hy) (raises_finiteText unnamed_of_runKinds)
    · rename_i e hread
      cases h
      exact .error (raises_readAll (fun text n => .floatArg text fun _ => ⟨rfl, rfl⟩) 1 operands e hread)
  · split at h
    · obtain ⟨y, hy, rfl⟩ := Option.map_eq_some_iff.1 h
      exact .map (raises_of_runInts? unnamed_of_runKinds hy) toString
    · rename_i e hread
      cases h
      exact .error (raises_readAll (fun text n => .intArg text fun _ => ⟨rfl, rfl⟩) 1 operands e hread)

theorem Operator.raises_apply (op : Operator) (operands : List String) :
    Raises Fault.Unnamed (op.apply operands) := by
  have h := op.outcome?_eq operands
  unfold outcome? at h
  split at h
  · rw [← Option.some.inj h]
    exact .error ⟨rfl, rfl⟩
  · split at h
    · rw [← Option.some.inj h]
      exact .error ⟨rfl, rfl⟩
    · exact raises_of_compute? h

end Arithmetic

/-! ### Computations on a state -/

def Act.FailsOnly {σ α : Type} (P : Failure → Prop) (x : Act σ α) : Prop :=
  ∀ s f t, x s = .error f t → P f

namespace Act.FailsOnly

variable {σ α β : Type} {P Q : Failure → Prop}

theorem sure {x : Act σ α} (h : ∀ s, ∃ a t, x s = .ok a t) : FailsOnly P x := by
  intro s f t hf
  obtain ⟨a, u, hok⟩ := h s
  rw [hok] at hf
  cases hf

theorem pure (a : α) : FailsOnly P (Pure.pure a : Act σ α) := sure fun s => ⟨a, s, rfl⟩

theorem fail {f : Failure} (hf : P f) : FailsOnly P (EStateM.throw f : Act σ α) := by
  intro s f' t h
  cases h
  exact hf

theorem raise {e : Fault} (he : P (.fault e)) : FailsOnly P (Act.raise e : Act σ α) := fail he

theorem ofExcept {x : Except Fault α} (hx : Raises (fun e => P (.fault e)) x) :
    FailsOnly P (Act.ofExcept x : Act σ α) := by
  cases x with
  | ok a => exact pure a
  | error e => exact raise (hx e rfl)

theorem bind {x : Act σ α} {f : α → Act σ β} (hx : FailsOnly P x) (hf : ∀ a, FailsOnly P (f a)) :
    FailsOnly P (x >>= f) := by
  intro s e t h
  cases hr : x s with
  | ok a u =>
    rw [Act.bind_of_ok hr] at h
    exact hf a u e t h
  | error e' u =>
    rw [Act.bind_of_error hr] at h
    cases h
    exact hx s e t hr

theorem mono {x : Act σ α} (hx : FailsOnly P x) (h : ∀ f, P f → Q f) : FailsOnly Q x :=
  fun s f t hf => h f (hx s f t hf)

/- A fault that names no builtin is given the name of the one it arose in. -/
theorem attributed {x : Act σ α} (hx : FailsOnly Failure.Inner x) (name : String) :
    FailsOnly (Failure.OfBuiltin name) (x.attributed name) := by
  intro s f t h
  unfold Act.attributed at h
  split at h
  · rename_i e u hr
    cases h
    obtain ⟨hsource, hkind⟩ : e.Unnamed := hx s (.fault e) t hr
    refine ⟨?_, hkind⟩
    simp only [Fault.attributed, hsource, Option.getD_none]
  · rename_i hne
    have hf := hx s f t h
    cases f with
    | fault e => exact absurd h (hne e t)
    | exhausted => exact hf
    | unprintable => trivial

theorem ofAction {x : Action α} (hx : FailsOnly P x) : FailsOnly P (Step.ofAction x) := by
  intro p f q h
  unfold Step.ofAction at h
  split at h
  · cases h
  · rename_i e w hw
    cases h
    exact hx p.world f w hw

theorem store : FailsOnly P Action.store := sure fun w => ⟨w.store, w, rfl⟩

theorem update (f : Store → Store) : FailsOnly P (Action.update f) := sure fun _ => ⟨(), _, rfl⟩

theorem draw : FailsOnly P Action.draw := sure fun _ => ⟨_, _, rfl⟩

theorem now : FailsOnly P Action.now := sure fun _ => ⟨_, _, rfl⟩

theorem emit (site : CallSite) (caps : Capabilities) (value : Value) : FailsOnly P (site.emit caps value) := by
  unfold CallSite.emit
  split
  · exact .bind (.update _) fun _ => .pure ""
  · exact .pure _

theorem check {caps : Capabilities} (hcaps : caps.storage ≠ some .strict) (site : CallSite) (name : String) :
    FailsOnly (Failure.OfBuiltin name) ((Act.ofExcept (site.check caps) : Act σ Unit).attributed name) :=
  attributed (.ofExcept (site.raises_check hcaps)) name

theorem dispatch {caps : Capabilities} (hcaps : caps.storage ≠ some .strict) (name : String) (site : CallSite)
    {body : Action Value} (h : FailsOnly Failure.Inner body) :
    FailsOnly (Failure.OfBuiltin name) (dispatch name caps site body) :=
  .bind (check hcaps site name) fun _ => .bind (attributed h name) fun value => emit site caps value

end Act.FailsOnly

/-! ### The standard builtins -/

def Builtin.Kind.FailsInside : Builtin.Kind → Prop
  | .simple run => ∀ site args, Act.FailsOnly Failure.Inner (run site args)
  | _ => True

@[simp] theorem Builtin.Kind.conditional_failsInside : FailsInside .conditional := trivial

@[simp] theorem Builtin.Kind.iteration_failsInside : FailsInside .iteration := trivial

namespace Library

theorem pureRun_failsInside {f : Arguments → Except Fault String}
    (hf : ∀ args, Raises Fault.Unnamed (f args)) : Builtin.Kind.FailsInside (.simple (pureRun f)) :=
  fun _ args => .ofExcept ((hf args).map Value.text)

@[simp] theorem onContent_failsInside (f : String → String) : Builtin.Kind.FailsInside (.simple (onContent f)) :=
  pureRun_failsInside fun args => (args.raises_require 0 "content").map f

theorem raises_sliceBound (cs : List Char) (default length : Nat) :
    Raises Fault.Unnamed (sliceBound cs default length) := by
  unfold sliceBound
  split
  · exact .ok _
  · exact .map (.intArg _ fun _ => ⟨rfl, rfl⟩) _

theorem raises_sliceOf (spec : String) (cs : List Char) : Raises Fault.Unnamed (sliceOf spec cs) := by
  unfold sliceOf
  split
  · refine .bind (.intArg _ fun _ => ⟨rfl, rfl⟩) fun i => ?_
    split
    · exact .ok _
    · exact .error ⟨rfl, rfl⟩
  · exact .error ⟨rfl, rfl⟩
  · refine .bind (.intArgOr _ 1 fun _ => ⟨rfl, rfl⟩) fun stride => ?_
    split
    · exact .error ⟨rfl, rfl⟩
    · exact .bind (raises_sliceBound _ 0 _) fun begin => .bind (raises_sliceBound _ _ _) fun stop => .ok _
  · exact .error ⟨rfl, rfl⟩

@[simp] theorem slice_failsInside : Builtin.Kind.FailsInside (.simple slice) :=
  pureRun_failsInside fun args => .bind (args.raises_require 0 "spec") fun spec =>
    .bind (args.raises_require 1 "content") fun _ => .bind (raises_sliceOf spec _) fun _ => .ok _

@[simp] theorem parse_failsInside : Builtin.Kind.FailsInside (.simple parse) := by
  refine pureRun_failsInside fun args => ?_
  dsimp only
  split
  · exact .error ⟨rfl, rfl⟩
  · exact .ok _

@[simp] theorem rep_failsInside : Builtin.Kind.FailsInside (.simple rep) := by
  intro site args
  unfold rep
  split
  · exact .bind .store fun _ => .pure _
  · exact .raise ⟨rfl, rfl⟩

@[simp] theorem void_failsInside : Builtin.Kind.FailsInside (.simple void) :=
  pureRun_failsInside fun args => .bind (args.raises_atMost 1) fun _ => .ok ""

@[simp] theorem math_failsInside : Builtin.Kind.FailsInside (.simple math) := by
  refine pureRun_failsInside fun args => .bind (args.raises_require 0 "op") fun name => ?_
  split
  · exact Arithmetic.Operator.raises_apply _ _
  · exact .error ⟨rfl, rfl⟩

@[simp] theorem set_failsInside : Builtin.Kind.FailsInside (.simple set) := by
  intro site args
  refine .bind (.ofExcept (args.raises_atMost 2)) fun _ =>
    .bind (.ofExcept (args.raises_require 0 "name")) fun name => ?_
  split
  · exact .raise ⟨rfl, rfl⟩
  · exact .bind (.update _) fun _ => .pure _

@[simp] theorem split_failsInside : Builtin.Kind.FailsInside (.simple split) := by
  intro site args
  refine .bind (.ofExcept (args.raises_atMost 3)) fun _ =>
    .bind (.ofExcept (args.raises_require 0 "prefix")) fun name =>
      .bind (.ofExcept (args.raises_require 1 "content")) fun content => ?_
  dsimp only
  split
  · exact .raise ⟨rfl, rfl⟩
  · exact .bind (.update _) fun _ => .pure _

theorem raises_project (m : Member) (path : Option String) : Raises Fault.Unnamed (project m path) := by
  have hattr : ∀ name, Raises Fault.Unnamed (m.attr name) := by
    intro name
    unfold Member.attr
    split
    · exact .ok _
    · exact .error ⟨rfl, rfl⟩
  unfold project
  split
  · split
    · exact .ok _
    · exact (hattr _).map _
  · exact .ok _

theorem raises_readId (text : String) : Raises Fault.Unnamed (readId text) := by
  unfold readId
  split
  · exact .ok _
  · exact .error ⟨rfl, rfl⟩

@[simp] theorem user_failsInside : Builtin.Kind.FailsInside (.simple user) := by
  intro site args
  refine .bind (.ofExcept (args.raises_atMost 1)) fun _ => .bind .store fun s => ?_
  dsimp only
  split
  · exact .raise ⟨rfl, rfl⟩
  · refine .bind .draw fun d => ?_
    split
    · exact .ofExcept (raises_project _ _)
    · exact .raise ⟨rfl, rfl⟩

@[simp] theorem nameof_failsInside : Builtin.Kind.FailsInside (.simple nameof) := by
  intro site args
  refine .bind (.ofExcept (args.raises_atMost 2)) fun _ =>
    .bind (.ofExcept (.bind (args.raises_require 0 "id") raises_readId)) fun id => .bind .store fun s => ?_
  split
  · exact .bind (.ofExcept (raises_project _ _)) fun _ => .pure _
  · exact .raise ⟨rfl, rfl⟩

@[simp] theorem member_failsInside : Builtin.Kind.FailsInside (.simple member) := by
  intro site args
  refine .bind (.ofExcept (args.raises_atMost 2)) fun _ =>
    .bind (.ofExcept (args.raises_require 0 "key")) fun key =>
      .bind (.ofExcept (args.raises_require 1 "name")) fun name => .bind .store fun s => ?_
  split
  · exact .bind (.update _) fun _ => .pure _
  · exact .raise ⟨rfl, rfl⟩

@[simp] theorem choose_failsInside : Builtin.Kind.FailsInside (.simple choose) := by
  intro site args
  unfold choose
  dsimp only
  split
  · exact .raise ⟨rfl, rfl⟩
  · exact .bind .draw fun d => .pure _

theorem raises_readWeights (options : List (String × String)) :
    Raises Fault.Unnamed (readWeights options) := by
  induction options with
  | nil => exact .ok []
  | cons option rest ih => exact .bind (.floatArg _ fun _ => ⟨rfl, rfl⟩) fun w => .bind ih fun _ => .ok _

theorem raises_weightSums (weights : List Float) : Raises Fault.Unnamed (weightSums weights) := by
  unfold weightSums
  dsimp only
  split
  · exact .error ⟨rfl, rfl⟩
  · split
    · exact .error ⟨rfl, rfl⟩
    · split
      · exact .error ⟨rfl, rfl⟩
      · exact .ok _

@[simp] theorem wchoose_failsInside : Builtin.Kind.FailsInside (.simple wchoose) := by
  intro site args
  unfold wchoose
  split
  · exact .raise ⟨rfl, rfl⟩
  · split
    · exact .raise ⟨rfl, rfl⟩
    · exact .bind (.ofExcept (raises_readWeights _)) fun options =>
        .bind (.ofExcept (raises_weightSums _)) fun sums => .bind .draw fun d => .pure _

theorem raises_numBound (args : Arguments) (index : Nat) (name : String) (default : Int) :
    Raises Fault.Unnamed (numBound args index name default) := by
  unfold numBound
  split
  · exact .intArg _ fun _ => ⟨rfl, rfl⟩
  · exact .ok _

@[simp] theorem num_failsInside : Builtin.Kind.FailsInside (.simple num) := by
  intro site args
  refine .bind (.ofExcept (raises_numBound _ _ _ _)) fun start =>
    .bind (.ofExcept (raises_numBound _ _ _ _)) fun stop =>
      .bind (.ofExcept (raises_numBound _ _ _ _)) fun step => ?_
  split
  · exact .bind .draw fun d => .pure _
  · exact .raise ⟨rfl, rfl⟩

theorem raises_hoursArg (text : Option String) : Raises Fault.Unnamed (hoursArg text) := by
  unfold hoursArg
  split
  · exact .intArgOr _ 0 fun _ => ⟨rfl, rfl⟩
  · exact .ok 0

theorem inner_of_shiftedTime {m : Moment} {hours : Int} {template : String} {f : Failure}
    (h : shiftedTime m hours template = .error f) : f.Inner := by
  unfold shiftedTime at h
  split at h
  · cases h
    exact ⟨rfl, rfl⟩
  · split at h
    · cases h
      exact ⟨rfl, rfl⟩
    · split at h
      · cases h
      · cases h
        trivial

@[simp] theorem time_failsInside : Builtin.Kind.FailsInside (.simple time) := by
  intro site args
  refine .bind (.ofExcept (args.raises_atMost 2)) fun _ =>
    .bind (.ofExcept (raises_hoursArg _)) fun hours => .bind .now fun now => ?_
  split
  · exact .pure _
  · rename_i e he
    exact .fail (inner_of_shiftedTime he)

theorem builtins_failInside : ∀ e ∈ builtins, e.2.2.FailsInside := by
  simp [builtins, upper, lower, title, len]

theorem builtins_notStrict : ∀ e ∈ builtins, e.2.1.storage ≠ some .strict := by
  simp only [builtins, List.forall_mem_cons, List.not_mem_nil, false_implies, implies_true, plain, storable]
  decide

theorem standard_notStrict {name : String} {b : Builtin} (h : standard.get? name = some b) :
    b.caps.storage ≠ some .strict := by
  obtain ⟨e, he, -, rfl⟩ := mem_builtins_of_get? h
  exact builtins_notStrict e he

theorem standard_name {name : String} {b : Builtin} (h : standard.get? name = some b) : b.name = name := by
  obtain ⟨e, -, rfl, rfl⟩ := mem_builtins_of_get? h
  rfl

theorem isConditional_iff {name : String} {b : Builtin} (h : standard.get? name = some b) :
    b.kind = .conditional ↔ name = "when" := by
  have hall : ∀ e ∈ builtins, e.2.2 = .conditional ↔ e.1 = "when" := by simp [builtins]
  obtain ⟨e, he, rfl, rfl⟩ := mem_builtins_of_get? h
  exact hall e he

theorem isIteration_iff {name : String} {b : Builtin} (h : standard.get? name = some b) :
    b.kind = .iteration ↔ name = "loop" := by
  have hall : ∀ e ∈ builtins, e.2.2 = .iteration ↔ e.1 = "loop" := by simp [builtins]
  obtain ⟨e, he, rfl, rfl⟩ := mem_builtins_of_get? h
  exact hall e he

/- Whatever fails in a call of a standard builtin names that builtin, and is not about gas. -/
theorem standard_call_failsOnly {name : String} {b : Builtin} (h : standard.get? name = some b)
    (site : CallSite) (args : Arguments) :
    Act.FailsOnly (Failure.OfBuiltin name) (standard.call name site args) := by
  have hstrict := standard_notStrict h
  have hname := standard_name h
  have hdeferred : Act.FailsOnly (Failure.OfBuiltin name) (σ := World) (α := String) (do
      (Act.ofExcept (site.check b.caps)).attributed b.name
      Act.raise ((Arguments.invalid "needs deferred bodies").attributed b.name)) := by
    rw [hname]
    exact .bind (.check hstrict site name) fun _ => .raise ⟨rfl, rfl⟩
  unfold Registry.call
  rw [h]
  dsimp only
  split
  · rename_i run hkind
    obtain ⟨e, he, -, rfl⟩ := mem_builtins_of_get? h
    have hinside := builtins_failInside e he
    rw [show e.2.2 = .simple run from hkind] at hinside
    rw [hname]
    exact .dispatch hstrict name site (hinside site args)
  · exact hdeferred

end Library

end Stencil
