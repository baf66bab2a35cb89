import Stencil.Proofs.Attribution

/-!
# The reports of a render

`Renderer.failures` follows an evaluation and lists the evaluations inside it that end in a fault which is
then shown. The reports of a render are the reports on these, in this order, and no more of them than units
of gas: every node that fails has been paid for.
-/

namespace Stencil

/-- An evaluation of a node that ends in a fault. -/
structure FailedEval (r : Renderer) where
  scope : Scope
  node : Node
  start : Progress
  fault : Fault
  stop : Progress
  failed : r.eval scope node start = .error (.fault fault) stop

/-- The failed evaluations whose faults a step shows, by the state that it begins in. -/
abbrev FaultLog (r : Renderer) := Progress → List (FailedEval r)

namespace FaultLog

variable {r : Renderer} {α : Type}

def quiet : FaultLog r := fun _ => []

def andThen (x : Step α) (log : FaultLog r) (rest : α → FaultLog r) : FaultLog r := fun p =>
  log p ++ match x p with
    | .ok a q => rest a q
    | .error _ _ => []

/-- What is shown inside a node, and the fault of the node itself. -/
def shown (r : Renderer) (c : Scope) (node : Node) (inside : FaultLog r) : FaultLog r := fun p =>
  inside p ++ match h : r.eval c node p with
    | .error (.fault e) q => [{ scope := c, node, start := p, fault := e, stop := q, failed := h }]
    | _ => []

def ofDrain (limits : Limits) (outermost : Bool) (body : Deferred Progress) (log : Scope → FaultLog r) :
    (fuel : Nat) → Loop → (out : String) → FaultLog r
  | 0, _, _ => quiet
  | n + 1, l, out => fun p =>
    if Step.limitReached limits p out then []
    else match l.cursor.pull with
      | (none, _) => []
      | (some i, d) =>
        andThen (body l.scope) (log l.scope) (fun element q =>
          ofDrain limits outermost body log n { l with cursor := d } (out ++ element)
            (Step.countElement outermost element q)) (l.entered i p)

def ofLoop (limits : Limits) (c : Scope) (spec : String) (body : Deferred Progress)
    (log : Scope → FaultLog r) : FaultLog r := fun p =>
  match Span.parse spec with
  | .error _ => []
  | .ok span =>
    let (l, q) := Loop.start c span p
    ofDrain limits (p.depth == 0) body log (l.cursor.size + 1) l "" { q with depth := q.depth + 1 }

def ofBranch (left : Operand) (name right : String) (onTrue onFalse : FaultLog r) : FaultLog r :=
  andThen ((Act.ofExcept (decideCondition left name right)).attributed "when") quiet fun holds =>
    if holds then onTrue else onFalse

theorem andThen_quiet (x : Step α) (log : FaultLog r) : andThen x log (fun _ => quiet) = log := by
  funext p
  unfold andThen
  cases x p <;> exact List.append_nil _

end FaultLog

namespace Renderer

open FaultLog

mutual

/-- The failed evaluations inside a node whose faults are shown; a fault of the node itself is not shown
yet. -/
def failures (r : Renderer) (c : Scope) : Node → FaultLog r
  | .text _ => quiet
  | .var _ => quiet
  | .concat children => andThen (Step.tick r.limits) quiet fun _ => failuresAmong r c children
  | .call name args named into => andThen (Step.tick r.limits) quiet fun _ =>
    match r.registry.get? name with
    | none => quiet
    | some b =>
      match b.kind with
      | .simple _ =>
        andThen (r.evalEach c args) (failuresAmong r c args) fun _ => failuresNamed r c named
      | .conditional => failuresWhen r c b.caps into args
      | .iteration => failuresLoop r c b.caps into args

def failuresAmong (r : Renderer) (c : Scope) : List Node → FaultLog r
  | [] => quiet
  | node :: rest =>
    andThen (Step.inlined (r.eval c node)) (shown r c node (failures r c node)) fun _ =>
      failuresAmong r c rest

def failuresNamed (r : Renderer) (c : Scope) : List (String × Node) → FaultLog r
  | [] => quiet
  | (_, node) :: rest =>
    andThen (Step.inlined (r.eval c node)) (shown r c node (failures r c node)) fun _ =>
      failuresNamed r c rest

/-- The failed evaluations in a condition. The left operand keeps its fault. -/
def failuresWhen (r : Renderer) (c : Scope) (caps : Capabilities) (into : Option String) :
    List Node → FaultLog r
  | [left, name, right, onTrue] =>
    andThen (checkSite caps c into "when") quiet fun _ =>
    andThen (Step.operand (r.eval c left)) (failures r c left) fun a =>
    andThen (Step.inlined (r.eval c name)) (shown r c name (failures r c name)) fun op =>
    andThen (Step.inlined (r.eval c right)) (shown r c right (failures r c right)) fun b =>
    ofBranch a op b (shown r c onTrue (failures r c onTrue)) quiet
  | [left, name, right, onTrue, onFalse] =>
    andThen (checkSite caps c into "when") quiet fun _ =>
    andThen (Step.operand (r.eval c left)) (failures r c left) fun a =>
    andThen (Step.inlined (r.eval c name)) (shown r c name (failures r c name)) fun op =>
    andThen (Step.inlined (r.eval c right)) (shown r c right (failures r c right)) fun b =>
    ofBranch a op b (shown r c onTrue (failures r c onTrue)) (shown r c onFalse (failures r c onFalse))
  | _ => quiet

def failuresLoop (r : Renderer) (c : Scope) (caps : Capabilities) (into : Option String) :
    List Node → FaultLog r
  | [range, body] =>
    andThen (checkSite caps c into "loop") quiet fun _ =>
    andThen (Step.inlined (r.eval c range)) (shown r c range (failures r c range)) fun spec =>
    ofLoop r.limits c spec (fun d => Step.inlined (r.eval d body)) fun d =>
      shown r d body (failures r d body)
  | _ => quiet

end

/-- The failed evaluations of a render whose faults are shown. -/
def shownFailures (r : Renderer) (c : Scope) (node : Node) (w : World) : List (FailedEval r) :=
  shown r c node (failures r c node) { world := w }

end Renderer

/-! ### Steps and what they log -/

namespace Step

variable {r : Renderer} {α β : Type} {k : Nat}

/-- A step that reports just what it logs, and uses `k` units of gas more than it logs at least. -/
def Logs (k : Nat) (log : FaultLog r) (x : Step α) : Prop :=
  ∀ p, (Act.endState (x p)).reports.toList = p.reports.toList ++ (log p).map (·.fault.report) ∧
    p.gas + (log p).length + k ≤ (Act.endState (x p)).gas

namespace Logs

theorem quiet {x : Step α} (h : ∀ p, (Act.endState (x p)).reports = p.reports ∧
    (Act.endState (x p)).gas = p.gas) : Logs 0 (FaultLog.quiet : FaultLog r) x := by
  intro p
  obtain ⟨hreports, hgas⟩ := h p
  rw [hreports, hgas]
  exact ⟨by simp [FaultLog.quiet], by simp [FaultLog.quiet]⟩

theorem pure (a : α) : Logs 0 (FaultLog.quiet : FaultLog r) (Pure.pure a) := quiet fun _ => ⟨rfl, rfl⟩

theorem raise (e : Fault) : Logs 0 (FaultLog.quiet : FaultLog r) (Act.raise e : Step α) :=
  quiet fun _ => ⟨rfl, rfl⟩

theorem ofExcept (x : Except Fault α) (name : String) :
    Logs 0 (FaultLog.quiet : FaultLog r) ((Act.ofExcept x).attributed name) := by
  refine quiet fun p => ?_
  rw [Act.endState_attributed]
  cases x <;> exact ⟨rfl, rfl⟩

theorem ofAction (x : Action α) : Logs 0 (FaultLog.quiet : FaultLog r) (ofAction x) := by
  refine quiet fun p => ?_
  unfold Step.ofAction
  cases x p.world <;> exact ⟨rfl, rfl⟩

theorem tick (limits : Limits) : Logs 1 (FaultLog.quiet : FaultLog r) (tick limits) := by
  intro p
  have hend : Act.endState (Step.tick limits p) = { p with gas := p.gas + 1 } := by
    unfold Step.tick
    dsimp only
    split <;> rfl
  rw [hend]
  exact ⟨by simp [FaultLog.quiet], by simp [FaultLog.quiet]⟩

theorem weaken {log : FaultLog r} {x : Step α} (h : Logs k log x) : Logs 0 log x := by
  intro p
  obtain ⟨hreports, hgas⟩ := h p
  exact ⟨hreports, by omega⟩

theorem bind {log : FaultLog r} {rest : α → FaultLog r} {x : Step α} {f : α → Step β} (hx : Logs k log x)
    (hf : ∀ a, Logs 0 (rest a) (f a)) : Logs k (.andThen x log rest) (x >>= f) := by
  intro p
  obtain ⟨hreports, hgas⟩ := hx p
  cases hq : x p with
  | ok a q =>
    rw [hq] at hreports hgas
    obtain ⟨hreports', hgas'⟩ := hf a q
    simp only [FaultLog.andThen, hq, Act.bind_of_ok hq]
    simp only [Act.endState] at hreports hgas
    refine ⟨?_, ?_⟩
    · rw [hreports', hreports, List.append_assoc, List.map_append]
    · rw [List.length_append]
      omega
  | error e q =>
    rw [hq] at hreports hgas
    simp only [FaultLog.andThen, hq, Act.bind_of_error hq, List.append_nil]
    exact ⟨hreports, hgas⟩

theorem then_quiet {log : FaultLog r} {x : Step α} {f : α → Step β} (hx : Logs k log x)
    (hf : ∀ a, Logs 0 (FaultLog.quiet : FaultLog r) (f a)) : Logs k log (x >>= f) := by
  have h := hx.bind hf
  rw [FaultLog.andThen_quiet] at h
  exact h

/- A fault that is shown is paid by the node that ended in it. -/
theorem inlined {c : Scope} {node : Node} {log : FaultLog r} (h : Logs 1 log (r.eval c node)) :
    Logs 0 (.shown r c node log) (inlined (r.eval c node)) := by
  intro p
  obtain ⟨hreports, hgas⟩ := h p
  have hlog : FaultLog.shown r c node log p = log p ++ match hq : r.eval c node p with
      | .error (.fault e) q => [{ scope := c, node, start := p, fault := e, stop := q, failed := hq }]
      | _ => [] := rfl
  rw [hlog]
  unfold Step.inlined
  split
  · rename_i e q hq
    rw [hq] at hreports hgas
    split
    · rename_i e' q' hq'
      rw [hq] at hq'
      cases hq'
      simp only [Act.endState] at hreports hgas ⊢
      refine ⟨?_, ?_⟩
      · rw [Array.toList_push, hreports, List.map_append, List.append_assoc]
        rfl
      · rw [List.length_append, List.length_singleton]
        omega
    · rename_i hne
      exact absurd hq (hne e q)
  · rename_i hne
    split
    · rename_i e q hq
      exact absurd hq (hne e q)
    · rw [List.append_nil]
      exact ⟨hreports, by omega⟩

theorem operand {log : FaultLog r} {x : Step String} (h : Logs k log x) : Logs k log (operand x) := by
  intro p
  have hreports : (Act.endState (Step.operand x p)).reports = (Act.endState (x p)).reports := by
    unfold Step.operand
    cases x p with
    | ok s q => rfl
    | error e q => cases e <;> rfl
  rw [hreports, gas_operand]
  exact h p

theorem drain {limits : Limits} {body : Deferred Progress} {log : Scope → FaultLog r}
    (hb : ∀ d, Logs 0 (log d) (body d)) (outermost : Bool) (fuel : Nat) {l : Loop} {v : Option Value}
    (hv : l.saved = some v) (out : String) :
    Logs 0 (.ofDrain limits outermost body log fuel l out) (drain limits outermost body fuel l out) := by
  have hstop : ∀ (l : Loop) (out : String),
      Logs 0 (FaultLog.quiet : FaultLog r) (fun p => .ok out (l.restore p)) :=
    fun l out => quiet fun p => by
      rw [Loop.restore_progress]
      exact ⟨rfl, rfl⟩
  induction fuel generalizing l out with
  | zero => exact hstop l out
  | succ n ih =>
    intro p
    rw [drain_succ limits outermost body n hv, FaultLog.ofDrain]
    dsimp only
    split
    · exact hstop l out p
    · rcases l.cursor.pull with ⟨next, d⟩
      cases next with
      | none => exact hstop l out p
      | some i =>
        -- binding `iter` moves neither the reports nor the gas
        obtain ⟨hreports, hgas⟩ : (Act.endState (body l.scope (l.entered i p))).reports.toList =
              p.reports.toList ++ (log l.scope (l.entered i p)).map (·.fault.report) ∧
            p.gas + (log l.scope (l.entered i p)).length + 0 ≤
              (Act.endState (body l.scope (l.entered i p))).gas := hb l.scope (l.entered i p)
        cases hx : body l.scope (l.entered i p) with
        | ok element q =>
          simp only [hx, Act.endState] at hreports hgas
          have hcounted : (countElement outermost element q).reports = q.reports := by
            cases outermost <;> rfl
          obtain ⟨hmore, hmoreGas⟩ := ih (l := { l with cursor := d }) hv (out ++ element)
            (countElement outermost element q)
          rw [hcounted] at hmore
          rw [gas_countElement] at hmoreGas
          simp only [FaultLog.andThen, hx, afterBody]
          refine ⟨?_, ?_⟩
          · rw [hmore, hreports, List.map_append, List.append_assoc]
          · rw [List.length_append]
            omega
        | error e q =>
          simp only [hx, Act.endState] at hreports hgas
          simp only [FaultLog.andThen, hx, afterBody, Act.endState, Loop.restore_progress, List.append_nil]
          exact ⟨hreports, hgas⟩

theorem deeper {log : FaultLog r} {x : Step α} {p : Progress} (h : Logs 0 log x) :
    (Act.endState (deeper x p)).reports.toList = p.reports.toList ++
        (log { p with depth := p.depth + 1 }).map (·.fault.report) ∧
      p.gas + (log { p with depth := p.depth + 1 }).length ≤ (Act.endState (deeper x p)).gas := by
  have hreports : (Act.endState (Step.deeper x p)).reports =
      (Act.endState (x { p with depth := p.depth + 1 })).reports := by
    unfold Step.deeper
    cases x { p with depth := p.depth + 1 } <;> rfl
  rw [hreports, gas_deeper]
  exact h { p with depth := p.depth + 1 }

theorem loop {limits : Limits} {c : Scope} (spec : String) {body : Deferred Progress}
    {log : Scope → FaultLog r} (hb : ∀ d, Logs 0 (log d) (body d)) :
    Logs 0 (.ofLoop limits c spec body log) (loop limits c spec body) := by
  intro p
  rw [loop_eq, FaultLog.ofLoop]
  cases Span.parse spec with
  | error e => exact raise (α := String) (r := r) e p
  | ok span =>
    exact deeper (p := (Loop.start c span p).2)
      (drain hb (p.depth == 0) (span.cursor.size + 1) (l := (Loop.start c span p).1) rfl "")

theorem branch {c : Scope} (left : Operand) (name right : String) {onTrue : Deferred Progress}
    {onFalse : Option (Deferred Progress)} {logTrue logFalse : FaultLog r} (htrue : Logs 0 logTrue (onTrue c))
    (hfalse : Logs 0 logFalse (match onFalse with | some run => run c | none => Pure.pure "")) :
    Logs 0 (.ofBranch left name right logTrue logFalse) (branch c left name right onTrue onFalse) := by
  refine bind (ofExcept _ "when") fun holds => ?_
  cases holds with
  | true => exact htrue
  | false => cases onFalse <;> exact hfalse

end Logs

end Step

namespace Renderer

open Step

theorem logs_bareName (r : Renderer) (c : Scope) (name : String) :
    Logs 0 (FaultLog.quiet : FaultLog r) (r.bareName c name) := by
  intro p
  have hget : (get : Step Progress) p = .ok p p := rfl
  rw [bareName, Act.bind_of_ok hget]
  cases p.world.store.get? c name with
  | some value => exact Logs.pure value.toText p
  | none =>
    dsimp only
    split
    · exact Logs.ofAction _ p
    · exact Logs.raise _ p

mutual

/- One case for every kind of node; a node pays for itself before anything else. -/
theorem logs_eval (r : Renderer) (c : Scope) (node : Node) : Logs 1 (r.failures c node) (r.eval c node) := by
  cases node with
  | text s =>
    simp only [eval, failures]
    exact (Logs.tick r.limits).then_quiet fun _ => .pure s
  | var name =>
    simp only [eval, failures]
    exact (Logs.tick r.limits).then_quiet fun _ => r.logs_bareName c name
  | concat children =>
    simp only [eval, failures]
    exact (Logs.tick r.limits).bind fun _ => r.logs_evalConcat c "" children
  | call name args named into =>
    simp only [eval, failures]
    refine (Logs.tick r.limits).bind fun _ => ?_
    cases r.registry.get? name with
    | none => exact .raise _
    | some b =>
      dsimp only
      cases b.kind with
      | simple run =>
        exact (r.logs_evalEach c args).bind fun positional =>
          (r.logs_evalNamed c .empty named).then_quiet fun keyword => .ofAction _
      | conditional => exact r.logs_evalWhen c b.caps into args
      | iteration => exact r.logs_evalLoop c b.caps into args

theorem logs_evalConcat (r : Renderer) (c : Scope) (out : String) (nodes : List Node) :
    Logs 0 (r.failuresAmong c nodes) (r.evalConcat c out nodes) := by
  cases nodes with
  | nil =>
    simp only [evalConcat, failuresAmong]
    exact .pure out
  | cons node rest =>
    simp only [evalConcat, failuresAmong]
    exact (Logs.inlined (r.logs_eval c node)).bind fun text => r.logs_evalConcat c (out ++ text) rest

theorem logs_evalEach (r : Renderer) (c : Scope) (nodes : List Node) :
    Logs 0 (r.failuresAmong c nodes) (r.evalEach c nodes) := by
  cases nodes with
  | nil =>
    simp only [evalEach, failuresAmong]
    exact .pure []
  | cons node rest =>
    simp only [evalEach, failuresAmong]
    exact (Logs.inlined (r.logs_eval c node)).bind fun text =>
      (r.logs_evalEach c rest).then_quiet fun texts => .pure _

theorem logs_evalNamed (r : Renderer) (c : Scope) (done : NameMap String) (nodes : List (String × Node)) :
    Logs 0 (r.failuresNamed c nodes) (r.evalNamed c done nodes) := by
  match nodes with
  | [] =>
    simp only [evalNamed, failuresNamed]
    exact .pure done
  | (name, node) :: rest =>
    simp only [evalNamed, failuresNamed]
    exact (Logs.inlined (r.logs_eval c node)).bind fun text =>
      r.logs_evalNamed c (done.insert name text) rest

theorem logs_evalWhen (r : Renderer) (c : Scope) (caps : Capabilities) (into : Option String)
    (args : List Node) : Logs 0 (r.failuresWhen c caps into args) (r.evalWhen c caps into args) := by
  match args with
  | [left, name, right, onTrue] =>
    simp only [evalWhen, failuresWhen]
    exact (Logs.ofExcept _ "when").bind fun _ => (r.logs_eval c left).weaken.operand.bind fun a =>
      (Logs.inlined (r.logs_eval c name)).bind fun op => (Logs.inlined (r.logs_eval c right)).bind fun b =>
        .branch a op b (.inlined (r.logs_eval c onTrue)) (.pure "")
  | [left, name, right, onTrue, onFalse] =>
    simp only [evalWhen, failuresWhen]
    exact (Logs.ofExcept _ "when").bind fun _ => (r.logs_eval c left).weaken.operand.bind fun a =>
      (Logs.inlined (r.logs_eval c name)).bind fun op => (Logs.inlined (r.logs_eval c right)).bind fun b =>
        .branch a op b (.inlined (r.logs_eval c onTrue)) (.inlined (r.logs_eval c onFalse))
  | [] | [_] | [_, _] | [_, _, _] | _ :: _ :: _ :: _ :: _ :: _ :: _ =>
    simp only [evalWhen, failuresWhen, shapeFault]
    exact .raise _

theorem logs_evalLoop (r : Renderer) (c : Scope) (caps : Capabilities) (into : Option String)
    (args : List Node) : Logs 0 (r.failuresLoop c caps into args) (r.evalLoop c caps into args) := by
  match args with
  | [range, body] =>
    simp only [evalLoop, failuresLoop]
    exact (Logs.ofExcept _ "loop").bind fun _ => (Logs.inlined (r.logs_eval c range)).bind fun spec =>
      .loop spec fun d => .inlined (r.logs_eval d body)
  | [] | [_] | _ :: _ :: _ :: _ =>
    simp only [evalLoop, failuresLoop, shapeFault]
    exact .raise _

end

/-- The reports of a successful render with the standard builtins are those on the evaluations that failed
and were shown. Each of these faults belongs to the node whose evaluation failed: it names the builtin of
that node, and nothing just if there is no variable or no builtin of the name. None is about gas or about a
refused call, and there are no more of them than units of gas used. -/
theorem render_reports_attributed (limits : Limits) (c : Scope) (node : Node) (w v : World) (out : Rendered)
    (h : (standard limits).render c node w = (.ok out, v)) :
    out.reports = ((standard limits).shownFailures c node w).map (·.fault.report) ∧
      (∀ f ∈ (standard limits).shownFailures c node w, f.fault.BelongsTo f.node) ∧
      (∀ report ∈ out.reports,
        (report.source = none ↔ report.kind = .undefinedVariable ∨ report.kind = .unknownFunction) ∧
        report.kind ≠ .gasExhausted ∧ report.kind ≠ .typeClash) ∧
      out.reports.length ≤ out.gas := by
  obtain ⟨p, hp, hreports, hgas, -⟩ := render_eq_ok.1 h
  obtain ⟨hlog, hpaid⟩ := Logs.inlined ((standard limits).logs_eval c node) { world := w }
  rw [hp] at hlog hpaid
  have hall : out.reports = ((standard limits).shownFailures c node w).map (·.fault.report) := by
    rw [hreports]
    exact hlog
  have hbelongs : ∀ f ∈ (standard limits).shownFailures c node w, f.fault.BelongsTo f.node :=
    fun f _ => eval_belongsTo f.failed
  refine ⟨hall, hbelongs, fun report hreport => ?_, ?_⟩
  · rw [hall] at hreport
    obtain ⟨f, hf, rfl⟩ := List.mem_map.1 hreport
    exact (hbelongs f hf).source_eq_none_iff
  · rw [hall, List.length_map, hgas]
    have hcount : 0 + ((standard limits).shownFailures c node w).length + 0 ≤ p.gas := hpaid
    omega

/-- Faults of calls and of a bare name, in a call in a loop in a condition on a fault that is kept: each
names its own builtin or none. -/
theorem render_reports_attributed_nested :
    let moment : Moment := { day := 0, second := 0, nano := 0 }
    let w : World := { store := (Store.empty.addRoot {}).2,
                       supply := { draw := fun _ => 0, reading := fun _ => moment } }
    let node : Node := .call "when" [.call "slice" [.text "x", .text "abc"] [] none, .text "is", .text "error",
      .call "loop" [.text "2", .call "len" [.call "upper" [] [] none, .call "nope" [] [] none, .var "rep"]
        [] none] [] none] [] none
    ∃ out v, (standard {}).render ⟨0⟩ node w = (.ok out, v) ∧
      out.reports.map (fun report => (report.kind, report.source)) =
        [(.invalidArguments, some "upper"), (.unknownFunction, none), (.notCallableAsVariable, some "rep")] ∧
      (∀ f ∈ (standard {}).shownFailures ⟨0⟩ node w, f.fault.BelongsTo f.node) ∧
      out.reports.length ≤ out.gas := by
  intro moment w node
  have hok : ((standard {}).render ⟨0⟩ node w).1.toOption.map
      (fun out => out.reports.map fun report => (report.kind, report.source)) = some
      [(.invalidArguments, some "upper"), (.unknownFunction, none), (.notCallableAsVariable, some "rep")] := by
    decide +kernel
  obtain ⟨out, hout, hsources⟩ := Option.map_eq_some_iff.1 hok
  have hrun := render_of_toOption hout
  obtain ⟨-, hbelongs, -, hcount⟩ := render_reports_attributed {} ⟨0⟩ node w _ out hrun
  exact ⟨out, _, hrun, hsources, hbelongs, hcount⟩

end Renderer

end Stencil
