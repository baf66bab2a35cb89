import Stencil.Proofs.Failures
import Stencil.Proofs.Spans

/-!
# Loops pulled one element at a time

A loop is a small machine. It is under way until a body fails or its values are used up, and then it has
ended for good. `recording` runs a body and writes down each run, so that it can be said how often, where and
from which state a body has run after any number of pulls.
-/

namespace Stencil

theorem isEmpty_decimalText (i : Int) : (toString i).isEmpty = false := by
  rw [String.isEmpty_eq_false_iff]
  cases i with
  | ofNat n => exact Nat.repr_ne_empty
  | negSucc n =>
    intro h
    have hempty : "-" ++ Nat.repr (n + 1) = "" := h
    exact Nat.repr_ne_empty (String.append_eq_empty_iff.1 hempty).2

/-! ### Recorded runs -/

/-- One run of a body: the scope and the state it began in, and how it ended. -/
structure BodyRun (σ : Type) where
  scope : Scope
  entry : σ
  outcome : EStateM.Result Failure σ String

namespace BodyRun

variable {σ : Type}

def element (run : BodyRun σ) : Except Failure String :=
  match run.outcome with
  | .ok text _ => .ok text
  | .error e _ => .error e

def Succeeded (run : BodyRun σ) : Prop :=
  ∃ text, run.element = .ok text

end BodyRun

/-- A state, and the runs of a body so far. -/
structure Recorded (σ : Type) where
  state : σ
  runs : List (BodyRun σ) := []

instance {σ : Type} [HasStore σ] : HasStore (Recorded σ) where
  store u := HasStore.store u.state
  update f u := { u with state := HasStore.update f u.state }

instance {σ : Type} [HasStore σ] [LawfulStore σ] : LawfulStore (Recorded σ) :=
  ⟨fun f u => LawfulStore.store_update f u.state⟩

section Recording

variable {σ : Type}

def BodyRun.of (body : Deferred σ) (c : Scope) (s : σ) : BodyRun σ :=
  { scope := c, entry := s, outcome := body c s }

/-- The body, with its runs written down. -/
def recording (body : Deferred σ) : Deferred (Recorded σ) := fun c u =>
  let runs := u.runs ++ [.of body c u.state]
  match body c u.state with
  | .ok text t => .ok text { state := t, runs }
  | .error e t => .error e { state := t, runs }

theorem endState_recording (body : Deferred σ) (c : Scope) (u : Recorded σ) :
    Act.endState (recording body c u) =
      { state := Act.endState (body c u.state), runs := u.runs ++ [.of body c u.state] } := by
  unfold recording
  cases body c u.state <;> rfl

variable [HasStore σ]

theorem Public.recording {body : Deferred σ} (hb : Public body) : Public (recording body) := by
  intro c u hs hc
  rw [endState_recording]
  exact hb c u.state hs hc

namespace Loop

theorem restore_recorded (l : Loop) (u : Recorded σ) :
    l.restore u = { u with state := l.restore u.state } := by
  unfold restore
  cases l.saved <;> rfl

/- A pull at a value is a run of the body there, whatever it is that pulls. -/
theorem pull_recording_of_value {l : Loop} {v : Option Value} {i : Int} {d : Cursor} (hv : l.saved = some v)
    (hd : l.cursor.pull = (some i, d)) (body : Deferred σ) (u : Recorded σ) :
    l.pull (recording body) u =
      match body l.scope (l.entered i u.state) with
      | .ok text t => ((some (.ok text), { l with cursor := d }),
          { state := t, runs := u.runs ++ [.of body l.scope (l.entered i u.state)] })
      | .error e t => ((some (.error e), { l with cursor := d, saved := none }),
          { state := l.restore t, runs := u.runs ++ [.of body l.scope (l.entered i u.state)] }) := by
  have hentered : HasStore.update (·.setText l.scope loopVariable (toString i)) u =
      { u with state := l.entered i u.state } := rfl
  simp only [pull, hv, hd, hentered, recording, closed]
  cases body l.scope (l.entered i u.state) with
  | ok text t => rfl
  | error e t => simp only [restore_recorded]

/- Writing runs down changes nothing for the one who pulls. -/
theorem pull_recording (body : Deferred σ) (l : Loop) (u : Recorded σ) :
    (l.pull (recording body) u).1 = (l.pull body u.state).1 ∧
      (l.pull (recording body) u).2.state = (l.pull body u.state).2 := by
  rcases pull_cases body l u.state with ⟨hv, hp⟩ | ⟨v, d, hv, hd, hp⟩ | ⟨v, i, d, text, t, hv, hd, hx, hp⟩ |
    ⟨v, i, d, e, t, hv, hd, hx, hp⟩
  · rw [hp]
    simp only [pull, hv, and_self]
  · rw [hp]
    simp only [pull, hv, hd, closed, restore_recorded, and_self]
  · rw [hp, pull_recording_of_value hv hd, hx]
    exact ⟨rfl, rfl⟩
  · rw [hp, pull_recording_of_value hv hd, hx]
    exact ⟨rfl, rfl⟩

theorem pulls_succ (body : Deferred σ) (k : Nat) (l : Loop) (s : σ) :
    pulls body (k + 1) l s = (((pulls body k l s).1.pull body (pulls body k l s).2).1.2,
      ((pulls body k l s).1.pull body (pulls body k l s).2).2) := by
  induction k generalizing l s with
  | zero => rfl
  | succ k ih => exact ih (l.pull body s).1.2 (l.pull body s).2

theorem pulls_recording (body : Deferred σ) (k : Nat) (l : Loop) (u : Recorded σ) :
    pulls body k l u.state = ((pulls (recording body) k l u).1, (pulls (recording body) k l u).2.state) := by
  induction k generalizing l u with
  | zero => rfl
  | succ k ih =>
    obtain ⟨hloop, hstate⟩ := pull_recording body l u
    simp only [pulls, ← hloop, ← hstate, ih]

/-! ### The states of the machine -/

/-- A loop that is under way after `k` pulls: no body has failed, and the values from the `k`-th on are to
come. -/
structure Ongoing (start : Loop) (values : List Int) (k : Nat) (m : Loop) (u : Recorded σ) : Prop where
  saved : ∃ v, m.saved = some v
  scope : m.scope = start.scope
  step : m.cursor.step ≠ 0
  rest : m.cursor.rest = values.drop k
  le : k ≤ values.length
  succeeded : ∀ run ∈ u.runs, run.Succeeded

/-- A loop that has ended before the `k`-th pull or at it, by a failure or at its last value. -/
structure Ended (values : List Int) (k : Nat) (m : Loop) (u : Recorded σ) : Prop where
  saved : m.saved = none
  reason : (∃ run ∈ u.runs, ¬ run.Succeeded) ∨ values.length < k

variable {body : Deferred σ} {start m : Loop} {values : List Int} {k : Nat} {u : Recorded σ}

theorem Ended.pull_eq (h : Ended values k m u) (body : Deferred σ) :
    m.pull (recording body) u = ((none, m), u) := by
  simp only [pull, h.saved]

theorem Ended.pull (h : Ended values k m u) (body : Deferred σ) :
    Ended values (k + 1) (m.pull (recording body) u).1.2 (m.pull (recording body) u).2 := by
  rw [h.pull_eq]
  exact ⟨h.saved, h.reason.imp_right fun hlt => Nat.lt_succ_of_lt hlt⟩

omit [HasStore σ] in
theorem Ongoing.pull_cursor (h : Ongoing start values k m u) :
    (k = values.length ∧ ∃ d, m.cursor.pull = (none, d)) ∨
      ∃ i d, values[k]? = some i ∧ m.cursor.pull = (some i, d) ∧ d.rest = values.drop (k + 1) := by
  rcases hp : m.cursor.pull with ⟨next, d⟩
  have hrest := h.rest
  cases next with
  | none =>
    rw [Cursor.rest_of_pull_none hp] at hrest
    have hlength := List.drop_eq_nil_iff.1 hrest.symm
    exact .inl ⟨Nat.le_antisymm h.le hlength, d, rfl⟩
  | some i =>
    rw [Cursor.rest_of_pull_some h.step hp] at hrest
    have hvalue : values[k]? = some i := by
      rw [← List.head?_drop, ← hrest]
      rfl
    have htail : values.drop (k + 1) = d.rest := by
      rw [← List.tail_drop, ← hrest]
      rfl
    exact .inr ⟨i, d, hvalue, rfl, htail.symm⟩

/- At the last value nothing runs, and the loop ends. -/
theorem Ongoing.pull_of_end (h : Ongoing start values k m u) (hk : k = values.length) (body : Deferred σ) :
    (m.pull (recording body) u).1.1 = none ∧ (m.pull (recording body) u).2.runs = u.runs ∧
      Ended values (k + 1) (m.pull (recording body) u).1.2 (m.pull (recording body) u).2 := by
  obtain ⟨v, hv⟩ := h.saved
  rcases h.pull_cursor with ⟨-, d, hd⟩ | ⟨i, d, hi, -, -⟩
  · have hpull : m.pull (recording body) u =
        ((none, { m with cursor := d, saved := none }), { u with state := m.restore u.state }) := by
      simp only [pull, hv, hd, closed, restore_recorded]
    rw [hpull]
    exact ⟨rfl, rfl, rfl, .inr (by omega)⟩
  · rw [hk, List.getElem?_eq_none (Nat.le_refl _)] at hi
    cases hi

/- At a value the body runs once, for this value. The loop goes on or ends as the run does. -/
theorem Ongoing.pull_of_value (h : Ongoing start values k m u) {i : Int} (hi : values[k]? = some i)
    (body : Deferred σ) :
    (m.pull (recording body) u).1.1 =
        some (BodyRun.of body start.scope (start.entered i u.state)).element ∧
      (m.pull (recording body) u).2.runs = u.runs ++ [.of body start.scope (start.entered i u.state)] ∧
      (Ongoing start values (k + 1) (m.pull (recording body) u).1.2 (m.pull (recording body) u).2 ∨
        Ended values (k + 1) (m.pull (recording body) u).1.2 (m.pull (recording body) u).2) := by
  obtain ⟨v, hv⟩ := h.saved
  have hlt : k < values.length := (List.getElem?_eq_some_iff.1 hi).1
  rcases h.pull_cursor with ⟨hk, -⟩ | ⟨j, d, hj, hd, hrest⟩
  · omega
  · rw [hi] at hj
    cases hj
    have hentered : m.entered i u.state = start.entered i u.state := by
      simp only [entered, h.scope]
    rw [pull_recording_of_value hv hd, hentered, h.scope]
    cases hx : body start.scope (start.entered i u.state) with
    | ok text t =>
      have helement : (BodyRun.of body start.scope (start.entered i u.state)).element = .ok text := by
        simp only [BodyRun.element, BodyRun.of, hx]
      refine ⟨by rw [helement], rfl, .inl ⟨⟨v, hv⟩, rfl, ?_, hrest, hlt, ?_⟩⟩
      · rw [Cursor.step_of_pull hd]
        exact h.step
      · intro run hrun
        rcases List.mem_append.1 hrun with hold | hnew
        · exact h.succeeded run hold
        · rw [List.mem_singleton.1 hnew]
          exact ⟨text, helement⟩
    | error e t =>
      have helement : (BodyRun.of body start.scope (start.entered i u.state)).element = .error e := by
        simp only [BodyRun.element, BodyRun.of, hx]
      refine ⟨by rw [helement], rfl, .inr ⟨rfl, .inl ⟨_, List.mem_append_right _ List.mem_cons_self, ?_⟩⟩⟩
      rintro ⟨text, htext⟩
      rw [helement] at htext
      cases htext

/- After any number of pulls the loop is under way or has ended. -/
theorem ongoing_or_ended (h : Ongoing start values 0 start u) (body : Deferred σ) (k : Nat) :
    Ongoing start values k (pulls (recording body) k start u).1 (pulls (recording body) k start u).2 ∨
      Ended values k (pulls (recording body) k start u).1 (pulls (recording body) k start u).2 := by
  induction k with
  | zero => exact .inl h
  | succ k ih =>
    rw [pulls_succ]
    rcases ih with hongoing | hended
    · rcases hongoing.pull_cursor with ⟨hk, -⟩ | ⟨i, d, hi, -, -⟩
      · exact .inr (hongoing.pull_of_end hk body).2.2
      · exact (hongoing.pull_of_value hi body).2.2
    · exact .inr (hended.pull body)

theorem ongoing_start (c : Scope) {span : Span} (hstep : span.step ≠ 0) (s : σ) :
    Ongoing (Loop.start c span s).1 span.values 0 (Loop.start c span s).1 { state := (Loop.start c span s).2 } where
  saved := ⟨_, rfl⟩
  scope := rfl
  step := hstep
  rest := rfl
  le := Nat.zero_le _
  succeeded := by
    intro run hrun
    cases hrun

variable [LawfulStore σ]

/- Whatever the body has done to the store before, the scope of the loop is a Sub scope of the parent, and
`iter` is the value. -/
theorem entered_of_pulls {c : Scope} {s : σ} (hs : (HasStore.store s).WellFormed)
    (hc : (HasStore.store s).holds c) (hb : Public body) {span : Span}
    (hstart : start = (Loop.start c span s).1)
    (hpulls : pulls (recording body) k start { state := (Loop.start c span s).2 } = (m, u)) (i : Int) :
    (HasStore.store (start.entered i u.state)).kind start.scope = .sub ∧
      (HasStore.store (start.entered i u.state)).base start.scope = c ∧
      (HasStore.store (start.entered i u.state)).get? start.scope loopVariable =
        some (.text (toString i)) := by
  subst hstart
  have hnew := (placed_start hc span).2.scope
  have hbegun := (placed_start hc span).1.wellFormed hs
  have hreach : (HasStore.store (Loop.start c span s).2).Reaches (HasStore.store u.state) := by
    have hall := ((guards_start hs hc span).pulls (s := { state := (Loop.start c span s).2 }) hbegun
      hb.recording k).1
    rw [hpulls] at hall
    exact hall
  have hscope := hreach.holds hnew
  have hkeeps := Store.Reaches.keeps
    (hreach.trans (Store.Reaches.set hscope loopVariable (some (.text (toString i)))))
  have hframe : (HasStore.store (Loop.start c span s).2).frame? (Loop.start c span s).1.scope =
      some (.sub c ((HasStore.store s).root c)) := by
    rw [store_start, Store.frame?_addSub]
    exact if_pos rfl
  rw [store_entered]
  refine ⟨?_, ?_, ?_⟩
  · rw [hkeeps.kind hnew, Store.kind, hframe]
  · rw [hkeeps.base hnew, Store.base, hframe]
  · rw [Store.get?_eq, (hreach.wellFormed hbegun).rootOf_set hscope, if_pos rfl,
      Root.get?_set _ loopVariable_ne, if_pos rfl]
    simp only [Option.filter, Value.isEmpty, isEmpty_decimalText, Bool.not_false, if_true]

end Loop

/-- A loop over a malformed span fails before anything changes, with a fault about arguments that names
`loop`. Any other begins with one new scope and runs nothing. As long as no body has failed, the pull at a
value runs the body once and gives what it gives; the body begins in that Sub scope of the parent, in the
state that the pulls so far have left but for `iter`, which is the value. The pull after the last value gives
none and runs nothing. From a failure or the end on a pull gives none and changes nothing at all. -/
theorem loop_pulls_run_body_once [LawfulStore σ] (body : Deferred σ) (hb : Public body) (c : Scope)
    (spec : String) (s : σ) (hs : (HasStore.store s).Reachable) (hc : (HasStore.store s).holds c) :
    (∀ e, Span.parse spec = .error e → ∃ f : Fault, f.kind = .invalidArguments ∧ f.source = some "loop" ∧
      Loop.begin c spec s = .error (.fault f) s) ∧
    (∀ span, Span.parse spec = .ok span → ∃ l t, Loop.begin c spec s = .ok l t ∧
      ¬ (HasStore.store s).holds l.scope ∧ HasStore.store t = ((HasStore.store s).addSub c).2 ∧
      ∀ (k : Nat) (m : Loop) (u : Recorded σ), Loop.pulls (recording body) k l { state := t } = (m, u) →
        Loop.pulls body k l t = (m, u.state) ∧
        (∀ i, (∀ run ∈ u.runs, run.Succeeded) → span.values[k]? = some i → ∃ run : BodyRun σ,
          (m.pull (recording body) u).2.runs = u.runs ++ [run] ∧
          (m.pull (recording body) u).1.1 = some run.element ∧
          run.outcome = body run.scope run.entry ∧ run.scope = l.scope ∧
          run.entry = HasStore.update (·.setText l.scope loopVariable (toString i)) u.state ∧
          (HasStore.store run.entry).kind l.scope = .sub ∧ (HasStore.store run.entry).base l.scope = c ∧
          (HasStore.store run.entry).get? l.scope loopVariable = some (.text (toString i))) ∧
        ((∀ run ∈ u.runs, run.Succeeded) → k = span.values.length →
          (m.pull (recording body) u).1.1 = none ∧ (m.pull (recording body) u).2.runs = u.runs) ∧
        ((∃ run ∈ u.runs, ¬ run.Succeeded) ∨ span.values.length < k →
          m.pull (recording body) u = ((none, m), u))) := by
  refine ⟨fun e he => ?_, fun span hspan => ?_⟩
  · obtain ⟨hkind, hsource⟩ := Span.raises_parse spec e he
    refine ⟨e.attributed "loop", hkind, ?_, ?_⟩
    · simp only [Fault.attributed, hsource, Option.getD_none]
    · rw [Loop.begin_eq, he]
  · have hfresh : ¬ (HasStore.store s).holds (Loop.start c span s).1.scope := by
      simp [Loop.start, Store.holds, Store.next]
    refine ⟨(Loop.start c span s).1, (Loop.start c span s).2, by rw [Loop.begin_eq, hspan], hfresh,
      Loop.store_start c span s, fun k m u hpulls => ?_⟩
    have hplain := Loop.pulls_recording body k (Loop.start c span s).1 { state := (Loop.start c span s).2 }
    have hentered := Loop.entered_of_pulls hs.wellFormed hc hb rfl hpulls
    have hstate := Loop.ongoing_or_ended
      (Loop.ongoing_start c (Span.step_ne_zero_of_parse hspan) s) body k
    rw [hpulls] at hplain hstate
    refine ⟨hplain, fun i hall hi => ?_, fun hall hk => ?_, fun hover => ?_⟩
    · rcases hstate with hongoing | hended
      · obtain ⟨helement, hruns, -⟩ := hongoing.pull_of_value hi body
        obtain ⟨hkind, hbase, hiter⟩ := hentered i
        exact ⟨_, hruns, helement, rfl, rfl, rfl, hkind, hbase, hiter⟩
      · have hlt := (List.getElem?_eq_some_iff.1 hi).1
        rcases hended.reason with ⟨run, hrun, hfailed⟩ | hover
        · exact absurd (hall run hrun) hfailed
        · omega
    · rcases hstate with hongoing | hended
      · obtain ⟨hnone, hruns, -⟩ := hongoing.pull_of_end hk body
        exact ⟨hnone, hruns⟩
      · rcases hended.reason with ⟨run, hrun, hfailed⟩ | hover
        · exact absurd (hall run hrun) hfailed
        · omega
    · rcases hstate with hongoing | hended
      · rcases hover with ⟨run, hrun, hfailed⟩ | hlt
        · exact absurd (hongoing.succeeded run hrun) hfailed
        · have hle := hongoing.le
          omega
      · exact hended.pull_eq body

/-- A body that unbinds `iter` and fails at the second of three values: both runs begin with `iter` bound
anew, and the third pull finds the loop ended. -/
theorem loop_pulls_run_body_once_failing :
    let moment : Moment := { day := 0, second := 0, nano := 0 }
    let w : World := { store := (Store.empty.addRoot {}).2,
                       supply := { draw := fun _ => 0, reading := fun _ => moment } }
    let body : Deferred World := fun c v =>
      let after : World := { v with store := v.store.set c loopVariable none }
      if v.store.get? c loopVariable = some (.text "2") then .error .unprintable after else .ok "x" after
    let begun := Loop.start ⟨0⟩ { start := 1, stop := 4, step := 1 } w
    let once := Loop.pulls (recording body) 1 begun.1 { state := begun.2 }
    let twice := Loop.pulls (recording body) 2 begun.1 { state := begun.2 }
    Public body ∧ w.store.Reachable ∧ Span.parse "4" = .ok { start := 1, stop := 4, step := 1 } ∧
      (∃ run : BodyRun World, (once.1.pull (recording body) once.2).1.1 = some run.element ∧
        run.element.toOption = none ∧ run.scope = begun.1.scope ∧
        run.entry.store.get? begun.1.scope loopVariable = some (.text (toString (2 : Int)))) ∧
      twice.1.pull (recording body) twice.2 = ((none, twice.1), twice.2) := by
  intro moment w body begun once twice
  have hs : w.store.Reachable := .tail .refl (.addRoot _ {})
  have hb : Public body := by
    intro c v _ hc
    have hset := Store.Reaches.set hc loopVariable none
    dsimp only [body]
    split <;> exact hset
  have hspan : Span.parse "4" = .ok { start := 1, stop := 4, step := 1 } := rfl
  obtain ⟨l, t, hbegin, -, -, hpulls⟩ := (loop_pulls_run_body_once body hb ⟨0⟩ "4" w hs (by decide)).2 _ hspan
  obtain ⟨rfl, rfl⟩ : begun.1 = l ∧ begun.2 = t := by
    have hbegun : Loop.begin ⟨0⟩ "4" w = .ok begun.1 begun.2 := rfl
    rw [hbegun] at hbegin
    exact EStateM.Result.ok.inj hbegin
  have hfirst : ∀ run ∈ once.2.runs, run.Succeeded := by
    have hall : once.2.runs.map (·.element.toOption) = [some "x"] := by decide +kernel
    intro run hrun
    have hx := hall ▸ List.mem_map_of_mem hrun
    rw [List.mem_singleton] at hx
    cases helement : run.element with
    | ok text => exact ⟨text, helement⟩
    | error e =>
      rw [helement] at hx
      cases hx
  have hsecond : ∃ run ∈ twice.2.runs, ¬ run.Succeeded := by
    have hall : none ∈ twice.2.runs.map (·.element.toOption) := by decide +kernel
    obtain ⟨run, hrun, hnone⟩ := List.mem_map.1 hall
    refine ⟨run, hrun, ?_⟩
    rintro ⟨text, htext⟩
    rw [htext] at hnone
    cases hnone
  have hfails : (once.1.pull (recording body) once.2).1.1.map (·.toOption) = some none := by decide +kernel
  obtain ⟨-, hvalue, -, -⟩ := hpulls 1 once.1 once.2 (Prod.eta _).symm
  obtain ⟨run, -, helement, -, hscope, -, -, -, hiter⟩ := hvalue 2 hfirst rfl
  obtain ⟨-, -, -, hended⟩ := hpulls 2 twice.1 twice.2 (Prod.eta _).symm
  rw [helement] at hfails
  exact ⟨hb, hs, hspan, ⟨run, helement, Option.some.inj hfails, hscope, hiter⟩, hended (.inl hsecond)⟩

end Recording

end Stencil
