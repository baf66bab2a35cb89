import Stencil.Proofs.Composition
import Stencil.Proofs.Scopes

/-!
# Loops and the variable they borrow

A loop writes `iter` into the table of its Root and owes its parent what was there before. `Guards` says
that it still can put that back, or has done so. Every pull keeps this, whatever operations the body does.
-/

namespace Stencil

/-- States whose store is what it was changed to. -/
class LawfulStore (σ : Type) [HasStore σ] : Prop where
  store_update : ∀ (f : Store → Store) (s : σ),
    HasStore.store (HasStore.update f s) = f (HasStore.store s)

instance : LawfulStore World := ⟨fun _ _ => rfl⟩

instance : LawfulStore Progress := ⟨fun _ _ => rfl⟩

/-- A part put off that acts on the store by operations only. -/
def Public {σ : Type} [HasStore σ] (body : Deferred σ) : Prop :=
  ∀ (c : Scope) (s : σ), (HasStore.store s).WellFormed → (HasStore.store s).holds c →
    (HasStore.store s).Reaches (HasStore.store (Act.endState (body c s)))

theorem loopVariable_ne : loopVariable ≠ replaceOrderVariable := by decide

namespace Loop

section Equations

variable {σ : Type} [HasStore σ]

def pulls (body : Deferred σ) : Nat → Loop → σ → Loop × σ
  | 0, l, s => (l, s)
  | k + 1, l, s => pulls body k (l.pull body s).1.2 (l.pull body s).2

def entered (l : Loop) (i : Int) (s : σ) : σ :=
  HasStore.update (·.setText l.scope loopVariable (toString i)) s

theorem pull_cases (body : Deferred σ) (l : Loop) (s : σ) :
    (l.saved = none ∧ l.pull body s = ((none, l), s)) ∨
    (∃ v d, l.saved = some v ∧ l.cursor.pull = (none, d) ∧
      l.pull body s = ((none, { l with cursor := d, saved := none }), l.restore s)) ∨
    (∃ v i d text t, l.saved = some v ∧ l.cursor.pull = (some i, d) ∧
      body l.scope (l.entered i s) = .ok text t ∧
      l.pull body s = ((some (.ok text), { l with cursor := d }), t)) ∨
    (∃ v i d e t, l.saved = some v ∧ l.cursor.pull = (some i, d) ∧
      body l.scope (l.entered i s) = .error e t ∧
      l.pull body s = ((some (.error e), { l with cursor := d, saved := none }), l.restore t)) := by
  cases hv : l.saved with
  | none => exact .inl ⟨rfl, by simp only [pull, hv]⟩
  | some v =>
    cases hd : l.cursor.pull with
    | mk next d =>
      cases next with
      | none => exact .inr (.inl ⟨v, d, rfl, rfl, by simp only [pull, hv, hd, closed]⟩)
      | some i =>
        cases hb : body l.scope (l.entered i s) with
        | ok text t =>
          refine .inr (.inr (.inl ⟨v, i, d, text, t, rfl, rfl, hb, ?_⟩))
          rw [entered] at hb
          simp only [pull, hv, hd, hb]
        | error e t =>
          refine .inr (.inr (.inr ⟨v, i, d, e, t, rfl, rfl, hb, ?_⟩))
          rw [entered] at hb
          simp only [pull, hv, hd, hb, closed, restore]

theorem begin_eq (c : Scope) (spec : String) (s : σ) :
    Loop.begin c spec s = match Span.parse spec with
      | .ok span => .ok (Loop.start c span s).1 (Loop.start c span s).2
      | .error e => .error (.fault (e.attributed "loop")) s := by
  unfold Loop.begin
  cases Span.parse spec <;> rfl

theorem start_of_begin {c : Scope} {spec : String} {s t : σ} {l : Loop}
    (h : Loop.begin c spec s = .ok l t) : ∃ span, Span.parse spec = .ok span ∧
      l = (Loop.start c span s).1 ∧ t = (Loop.start c span s).2 := by
  rw [begin_eq] at h
  cases hspan : Span.parse spec with
  | error e => simp [hspan] at h
  | ok span =>
    simp only [hspan, EStateM.Result.ok.injEq] at h
    exact ⟨span, rfl, h.1.symm, h.2.symm⟩

end Equations

variable {σ : Type} [HasStore σ] [LawfulStore σ]
variable {l : Loop} {c : Scope} {value : Option Value} {body : Deferred σ} {s : σ}

/-! ### Operations of a loop -/

theorem store_restore {v : Option Value} (h : l.saved = some v) (s : σ) :
    HasStore.store (l.restore s) = (HasStore.store s).set l.parent loopVariable v := by
  simp only [restore, h, LawfulStore.store_update]

theorem store_entered (l : Loop) (i : Int) (s : σ) : HasStore.store (l.entered i s) =
    (HasStore.store s).set l.scope loopVariable (some (.text (toString i))) := by
  simp only [entered, LawfulStore.store_update, Store.setText]

theorem store_start (c : Scope) (span : Span) (s : σ) :
    HasStore.store (Loop.start c span s).2 = ((HasStore.store s).addSub c).2 :=
  LawfulStore.store_update _ s

structure Placed (l : Loop) (s : Store) : Prop where
  parent : s.holds l.parent
  scope : s.holds l.scope

theorem Placed.mono {s t : Store} (h : l.Placed s) (hr : s.Reaches t) (d : Cursor)
    (saved : Option (Option Value)) : Placed { l with cursor := d, saved } t :=
  ⟨hr.holds h.parent, hr.holds h.scope⟩

theorem Placed.restore (h : l.Placed (HasStore.store s)) :
    (HasStore.store s).Reaches (HasStore.store (l.restore s)) := by
  cases hv : l.saved with
  | none =>
    simp only [Loop.restore, hv]
    exact .refl
  | some v =>
    rw [store_restore hv]
    exact Store.Reaches.set h.parent loopVariable v

theorem Placed.run (h : l.Placed (HasStore.store s)) (hs : (HasStore.store s).WellFormed)
    (hb : Public body) (i : Int) :
    (HasStore.store s).Reaches (HasStore.store (Act.endState (body l.scope (l.entered i s)))) := by
  have hi : (HasStore.store s).Reaches (HasStore.store (l.entered i s)) := by
    rw [store_entered]
    exact Store.Reaches.set h.scope _ _
  exact hi.trans (hb l.scope (l.entered i s) (hi.wellFormed hs) (hi.holds h.scope))

theorem Placed.pull (h : l.Placed (HasStore.store s)) (hs : (HasStore.store s).WellFormed)
    (hb : Public body) :
    (HasStore.store s).Reaches (HasStore.store (l.pull body s).2) ∧
      (l.pull body s).1.2.Placed (HasStore.store (l.pull body s).2) := by
  rcases pull_cases body l s with ⟨-, hp⟩ | ⟨v, d, -, -, hp⟩ | ⟨v, i, d, text, t, -, -, hx, hp⟩ |
    ⟨v, i, d, e, t, -, -, hx, hp⟩
  · rw [hp]
    exact ⟨.refl, h⟩
  · rw [hp]
    have hr := h.restore
    exact ⟨hr, h.mono hr d none⟩
  · have hr := h.run hs hb i
    rw [hx] at hr
    rw [hp]
    exact ⟨hr, h.mono hr d l.saved⟩
  · have hr : (HasStore.store s).Reaches (HasStore.store t) := by
      have hr := h.run hs hb i
      rw [hx] at hr
      exact hr
    have hr' := hr.trans (h.mono hr l.cursor l.saved).restore
    rw [hp]
    exact ⟨hr', h.mono hr' d none⟩

theorem placed_start (hc : (HasStore.store s).holds c) (span : Span) :
    (HasStore.store s).Reaches (HasStore.store (Loop.start c span s).2) ∧
      (Loop.start c span s).1.Placed (HasStore.store (Loop.start c span s).2) := by
  rw [store_start]
  have hr : (HasStore.store s).Reaches ((HasStore.store s).addSub c).2 := Store.Reaches.addSub hc
  exact ⟨hr, hr.holds hc, Store.holds_next_addSub _ c⟩

/-! ### What a loop owes -/

/-- The loop of a parent can put a value of `iter` back, or has put it back. -/
structure Guards (l : Loop) (c : Scope) (value : Option Value) (s : Store) : Prop where
  placed : l.Placed s
  parent : l.parent = c
  filter_value : value.filter (fun v => !v.isEmpty) = value
  saved : l.saved = some value ∨ l.saved = none ∧ s.get? c loopVariable = value

namespace Guards

theorem restore (h : l.Guards c value (HasStore.store s)) (hs : (HasStore.store s).WellFormed) :
    (HasStore.store (l.restore s)).get? c loopVariable = value := by
  rcases h.saved with hv | ⟨hv, hc⟩
  · have hp : (HasStore.store s).holds c := h.parent ▸ h.placed.parent
    rw [store_restore hv, h.parent, Store.get?_eq, hs.rootOf_set hp, if_pos rfl,
      Root.get?_set _ loopVariable_ne, if_pos rfl, h.filter_value]
  · simp only [Loop.restore, hv]
    exact hc

omit [HasStore σ] [LawfulStore σ] in
theorem saved_of_open {s : Store} (h : l.Guards c value s) {v : Option Value}
    (hv : l.saved = some v) : l.saved = some value := by
  rcases h.saved with hn | ⟨hn, -⟩
  · exact hn
  · rw [hv] at hn
    cases hn

/- One pull. The value is saved until it is put back, and then there is nothing left to pull. -/
theorem pull (h : l.Guards c value (HasStore.store s)) (hs : (HasStore.store s).WellFormed)
    (hb : Public body) :
    (l.pull body s).1.2.Guards c value (HasStore.store (l.pull body s).2) ∧
      ((∀ text, (l.pull body s).1.1 ≠ some (.ok text)) →
        (HasStore.store (l.pull body s).2).get? c loopVariable = value) := by
  have hplaced := (h.placed.pull hs hb).2
  rcases pull_cases body l s with ⟨hv, hp⟩ | ⟨v, d, hv, hd, hp⟩ | ⟨v, i, d, text, t, hv, hd, hx, hp⟩ |
    ⟨v, i, d, e, t, hv, hd, hx, hp⟩
  · rw [hp]
    rcases h.saved with hn | ⟨-, hc⟩
    · rw [hv] at hn
      cases hn
    · exact ⟨h, fun _ => hc⟩
  · rw [hp] at hplaced ⊢
    have hc := h.restore hs
    exact ⟨⟨hplaced, h.parent, h.filter_value, .inr ⟨rfl, hc⟩⟩, fun _ => hc⟩
  · rw [hp] at hplaced ⊢
    exact ⟨⟨hplaced, h.parent, h.filter_value, .inl (h.saved_of_open hv)⟩,
      fun hn => absurd rfl (hn text)⟩
  · rw [hp] at hplaced ⊢
    have hr : (HasStore.store s).Reaches (HasStore.store t) := by
      have hr := h.placed.run hs hb i
      rw [hx] at hr
      exact hr
    have hg : l.Guards c value (HasStore.store t) :=
      ⟨h.placed.mono hr l.cursor l.saved, h.parent, h.filter_value, .inl (h.saved_of_open hv)⟩
    have hc := hg.restore (hr.wellFormed hs)
    exact ⟨⟨hplaced, h.parent, h.filter_value, .inr ⟨rfl, hc⟩⟩, fun _ => hc⟩

theorem pulls (h : l.Guards c value (HasStore.store s)) (hs : (HasStore.store s).WellFormed)
    (hb : Public body) (k : Nat) :
    (HasStore.store s).Reaches (HasStore.store (Loop.pulls body k l s).2) ∧
      (Loop.pulls body k l s).1.Guards c value (HasStore.store (Loop.pulls body k l s).2) := by
  induction k generalizing l s with
  | zero => exact ⟨.refl, h⟩
  | succ k ih =>
    have hr := (h.placed.pull hs hb).1
    obtain ⟨hr', hg'⟩ := ih (h.pull hs hb).1 (hr.wellFormed hs)
    exact ⟨hr.trans hr', hg'⟩

end Guards

theorem guards_start (hs : (HasStore.store s).WellFormed) (hc : (HasStore.store s).holds c)
    (span : Span) : (Loop.start c span s).1.Guards c ((HasStore.store s).get? c loopVariable)
      (HasStore.store (Loop.start c span s).2) where
  placed := (placed_start hc span).2
  parent := rfl
  filter_value := (hs.proper_rootOf hc).filter_get? loopVariable
  saved := .inl rfl

end Loop

/-! ### Loops of a render -/

theorem Loop.restore_progress (l : Loop) (p : Progress) :
    l.restore p = { p with world := l.restore p.world } := by
  unfold Loop.restore
  cases l.saved <;> rfl

theorem Loop.entered_progress (l : Loop) (i : Int) (p : Progress) :
    l.entered i p = { p with world := l.entered i p.world } := rfl

namespace Step

theorem world_countElement (outermost : Bool) (element : String) (p : Progress) :
    (countElement outermost element p).world = p.world := by
  cases outermost <;> rfl

theorem world_deeper {α : Type} (x : Step α) (p : Progress) :
    (Act.endState (deeper x p)).world =
      (Act.endState (x { p with depth := p.depth + 1 })).world := by
  unfold deeper
  cases x { p with depth := p.depth + 1 } <;> rfl

theorem loop_eq (limits : Limits) (c : Scope) (spec : String) (body : Deferred Progress)
    (p : Progress) : Step.loop limits c spec body p = match Span.parse spec with
      | .ok span => deeper (drain limits (p.depth == 0) body (span.cursor.size + 1)
          (Loop.start c span p).1 "") (Loop.start c span p).2
      | .error e => .error (.fault (e.attributed "loop")) p := by
  have hb : Step.loop limits c spec body p = match Loop.begin c spec p with
      | .ok l q => deeper (drain limits (q.depth == 0) body (l.cursor.size + 1) l "") q
      | .error e q => .error e q := by
    simp only [Step.loop, bind, EStateM.bind]
    cases Loop.begin c spec p <;> rfl
  rw [hb, Loop.begin_eq]
  cases Span.parse spec <;> rfl

/-- What follows a run of the body, the loop being at the next value. -/
def afterBody (limits : Limits) (outermost : Bool) (body : Deferred Progress) (n : Nat) (l : Loop)
    (out : String) : EStateM.Result Failure Progress String → EStateM.Result Failure Progress String
  | .ok text q => drain limits outermost body n l (out ++ text) (countElement outermost text q)
  | .error e q => .error e (l.restore q)

theorem afterBody_eq_ok {limits : Limits} {outermost : Bool} {body : Deferred Progress} {n : Nat}
    {l : Loop} {out text : String} {x : EStateM.Result Failure Progress String} {q : Progress}
    (h : afterBody limits outermost body n l out x = .ok text q) : ∃ element p, x = .ok element p ∧
      drain limits outermost body n l (out ++ element) (countElement outermost element p) =
        .ok text q := by
  cases x with
  | ok element p => exact ⟨element, p, rfl, h⟩
  | error e p => cases h

/- A loop under way stays so while elements are taken from it, so that closed loops need no case. -/
theorem drain_succ (limits : Limits) (outermost : Bool) (body : Deferred Progress) (n : Nat)
    {l : Loop} {v : Option Value} (hv : l.saved = some v) (out : String) (p : Progress) :
    drain limits outermost body (n + 1) l out p =
      if limitReached limits p out then .ok out (l.restore p)
      else match l.cursor.pull with
        | (none, _) => .ok out (l.restore p)
        | (some i, d) => afterBody limits outermost body n { l with cursor := d } out
            (body l.scope (l.entered i p)) := by
  simp only [drain]
  split
  · rfl
  · rcases Loop.pull_cases body l p with ⟨hn, hp⟩ | ⟨w, d, -, hd, hp⟩ |
      ⟨w, i, d, text, q, -, hd, hx, hp⟩ | ⟨w, i, d, e, q, -, hd, hx, hp⟩
    · rw [hv] at hn
      cases hn
    · simp only [hp, hd]
    · simp only [hp, hd, hx, afterBody]
    · simp only [hp, hd, hx, afterBody, Loop.restore]

theorem drain_of_pull_none {limits : Limits} (outermost : Bool) (body : Deferred Progress) (n : Nat)
    {l : Loop} {v : Option Value} (hv : l.saved = some v) {out : String} {p : Progress} {d : Cursor}
    (hlimit : limitReached limits p out = false) (hpull : l.cursor.pull = (none, d)) :
    drain limits outermost body (n + 1) l out p = .ok out (l.restore p) := by
  rw [drain_succ limits outermost body n hv, hlimit, hpull]
  rfl

theorem drain_of_pull_some {limits : Limits} (outermost : Bool) (body : Deferred Progress) (n : Nat)
    {l : Loop} {v : Option Value} (hv : l.saved = some v) {out : String} {p : Progress} {d : Cursor}
    {i : Int} (hlimit : limitReached limits p out = false) (hpull : l.cursor.pull = (some i, d)) :
    drain limits outermost body (n + 1) l out p =
      afterBody limits outermost body n { l with cursor := d } out (body l.scope (l.entered i p)) := by
  rw [drain_succ limits outermost body n hv, hlimit, hpull]
  rfl

/- However taking elements ends, at the limit, at the last value or in a failure of the body, `iter` is
put back. -/
theorem drain_restores {body : Deferred Progress} (hb : Public body) (limits : Limits)
    (outermost : Bool) (fuel : Nat) {l : Loop} {c : Scope} {value : Option Value} (out : String)
    {p : Progress} (h : l.Guards c value p.world.store) (hs : p.world.store.WellFormed) :
    p.world.store.Reaches (Act.endState (drain limits outermost body fuel l out p)).world.store ∧
      (Act.endState (drain limits outermost body fuel l out p)).world.store.get? c loopVariable =
        value := by
  have hdrop : p.world.store.Reaches (l.restore p).world.store ∧
      (l.restore p).world.store.get? c loopVariable = value :=
    ⟨Loop.Placed.restore (s := p) h.placed, Loop.Guards.restore (s := p) h hs⟩
  induction fuel generalizing l out p with
  | zero => exact hdrop
  | succ n ih =>
    simp only [drain]
    split
    · exact hdrop
    · have hr := (Loop.Placed.pull (s := p) h.placed hs hb).1
      obtain ⟨hg, hc⟩ := Loop.Guards.pull (s := p) h hs hb
      split
      · rename_i heq
        rw [heq] at hr hc
        exact ⟨hr, hc fun text => by simp⟩
      · rename_i heq
        rw [heq] at hr hc
        exact ⟨hr, hc fun text => by simp⟩
      · rename_i element m q heq
        rw [heq] at hr hg
        have hw := world_countElement outermost element q
        have hq : m.Guards c value (countElement outermost element q).world.store := hw ▸ hg
        have hqs : (countElement outermost element q).world.store.WellFormed :=
          hw ▸ hr.wellFormed hs
        obtain ⟨hr', hc'⟩ := ih (out ++ element) hq hqs
          ⟨Loop.Placed.restore (s := countElement outermost element q) hq.placed,
            Loop.Guards.restore (s := countElement outermost element q) hq hqs⟩
        rw [hw] at hr'
        exact ⟨hr.trans hr', hc'⟩

theorem loop_restores {body : Deferred Progress} (hb : Public body) (limits : Limits)
    {c : Scope} (spec : String) {p : Progress} (hs : p.world.store.WellFormed)
    (hc : p.world.store.holds c) :
    p.world.store.Reaches (Act.endState (Step.loop limits c spec body p)).world.store ∧
      (Act.endState (Step.loop limits c spec body p)).world.store.get? c loopVariable =
        p.world.store.get? c loopVariable := by
  rw [loop_eq]
  cases Span.parse spec with
  | error e => exact ⟨.refl, rfl⟩
  | ok span =>
    have hr := (Loop.placed_start (s := p) hc span).1
    have hg := Loop.guards_start (s := p) hs hc span
    dsimp only
    rw [world_deeper]
    obtain ⟨hr', hc'⟩ := drain_restores hb limits (p.depth == 0) (span.cursor.size + 1) ""
      (p := { (Loop.start c span p).2 with depth := (Loop.start c span p).2.depth + 1 })
      hg (hr.wellFormed hs)
    exact ⟨hr.trans hr', hc'⟩

end Step

end Stencil
