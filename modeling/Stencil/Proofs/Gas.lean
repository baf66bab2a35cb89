import Stencil.Proofs.Renders

/-!
# Gas

Gas is only ever used up, and a step that ends otherwise than by spent gas has kept to the limit.
-/

namespace Stencil

/-- The computation ended by spent gas. -/
def Act.Spent {σ α : Type} (x : EStateM.Result Failure σ α) : Prop :=
  ∃ s, x = .error .exhausted s

theorem Act.not_spent_ok {σ α : Type} (a : α) (s : σ) :
    ¬ Act.Spent (.ok a s : EStateM.Result Failure σ α) := by
  rintro ⟨t, ht⟩
  cases ht

namespace Step

theorem gas_inlined (x : Step String) (p : Progress) :
    (Act.endState (inlined x p)).gas = (Act.endState (x p)).gas := by
  unfold inlined
  cases x p with
  | ok s q => rfl
  | error e q => cases e <;> rfl

theorem spent_inlined {x : Step String} {p : Progress} (h : Act.Spent (x p)) :
    Act.Spent (inlined x p) := by
  obtain ⟨q, hq⟩ := h
  exact ⟨q, by simp only [inlined, hq]⟩

theorem spent_inlined_iff (x : Step String) (p : Progress) : Act.Spent (inlined x p) ↔ Act.Spent (x p) := by
  refine ⟨fun h => ?_, spent_inlined⟩
  unfold inlined at h
  split at h
  · exact absurd h (Act.not_spent_ok _ _)
  · exact h

theorem gas_operand (x : Step String) (p : Progress) :
    (Act.endState (operand x p)).gas = (Act.endState (x p)).gas := by
  unfold operand
  cases x p with
  | ok s q => rfl
  | error e q => cases e <;> rfl

theorem spent_operand {x : Step String} {p : Progress} (h : Act.Spent (x p)) :
    Act.Spent (operand x p) := by
  obtain ⟨q, hq⟩ := h
  exact ⟨q, by simp only [operand, hq]⟩

theorem spent_operand_iff (x : Step String) (p : Progress) : Act.Spent (operand x p) ↔ Act.Spent (x p) := by
  refine ⟨fun h => ?_, spent_operand⟩
  unfold operand at h
  split at h
  · exact absurd h (Act.not_spent_ok _ _)
  · exact absurd h (Act.not_spent_ok _ _)
  · rename_i f q _ hx
    obtain ⟨s, hs⟩ := h
    cases hs
    exact ⟨q, hx⟩

theorem gas_deeper {α : Type} (x : Step α) (p : Progress) :
    (Act.endState (deeper x p)).gas = (Act.endState (x { p with depth := p.depth + 1 })).gas := by
  unfold deeper
  cases x { p with depth := p.depth + 1 } <;> rfl

theorem spent_deeper {α : Type} {x : Step α} {p : Progress}
    (h : Act.Spent (x { p with depth := p.depth + 1 })) : Act.Spent (deeper x p) := by
  obtain ⟨q, hq⟩ := h
  exact ⟨{ q with depth := q.depth - 1 }, by simp only [deeper, hq]⟩

theorem spent_deeper_iff {α : Type} (x : Step α) (p : Progress) :
    Act.Spent (deeper x p) ↔ Act.Spent (x { p with depth := p.depth + 1 }) := by
  refine ⟨fun h => ?_, spent_deeper⟩
  unfold deeper at h
  split at h
  · exact absurd h (Act.not_spent_ok _ _)
  · rename_i f q hx
    obtain ⟨s, hs⟩ := h
    cases hs
    exact ⟨q, hx⟩

theorem gas_ofAction {α : Type} (x : Action α) (p : Progress) :
    (Act.endState (ofAction x p)).gas = p.gas := by
  unfold ofAction
  cases x p.world <;> rfl

theorem gas_restore (l : Loop) (p : Progress) : (l.restore p).gas = p.gas := by
  rw [Loop.restore_progress]

theorem gas_countElement (outermost : Bool) (element : String) (p : Progress) :
    (countElement outermost element p).gas = p.gas := by
  cases outermost <;> rfl

theorem spent_afterBody {limits : Limits} {outermost : Bool} {body : Deferred Progress} {n : Nat}
    {l : Loop} {out : String} {x : EStateM.Result Failure Progress String} (h : Act.Spent x) :
    Act.Spent (afterBody limits outermost body n l out x) := by
  obtain ⟨q, rfl⟩ := h
  exact ⟨l.restore q, rfl⟩

/-! ### Gas paid at once -/

def ticks (limits : Limits) : Nat → Step Unit
  | 0 => pure ()
  | n + 1 => do
    tick limits
    ticks limits n

theorem ticks_of_le {limits : Limits} (n : Nat) {p : Progress} (h : p.gas + n ≤ limits.gas.toNat) :
    ticks limits n p = .ok () { p with gas := p.gas + n } := by
  induction n generalizing p with
  | zero => rfl
  | succ n ih =>
    have htick : tick limits p = .ok () { p with gas := p.gas + 1 } := by
      simp only [tick, if_neg (show ¬ limits.gas.toNat < p.gas + 1 by omega)]
    have hrest : p.gas + 1 + n ≤ limits.gas.toNat := by omega
    rw [ticks, Act.bind_of_ok htick, ih hrest, Nat.add_assoc, Nat.add_comm 1 n]

theorem ticks_of_lt {limits : Limits} (n : Nat) {p : Progress}
    (h : limits.gas.toNat < p.gas + (n + 1)) : Act.Spent (ticks limits (n + 1) p) := by
  have spent : ∀ {p : Progress} (n : Nat), limits.gas.toNat < p.gas + 1 →
      Act.Spent (ticks limits (n + 1) p) := by
    intro p n hp
    have htick : tick limits p = .error .exhausted { p with gas := p.gas + 1 } := by
      simp only [tick, if_pos hp]
    exact ⟨_, Act.bind_of_error htick⟩
  induction n generalizing p with
  | zero => exact spent 0 h
  | succ n ih =>
    by_cases hp : limits.gas.toNat < p.gas + 1
    · exact spent (n + 1) hp
    · have htick : tick limits p = .ok () { p with gas := p.gas + 1 } := by
        simp only [tick, if_neg hp]
      have hrest : limits.gas.toNat < p.gas + 1 + (n + 1) := by omega
      rw [ticks, Act.bind_of_ok htick]
      exact ih (p := { p with gas := p.gas + 1 }) hrest

theorem spent_inlined_ticks (limits : Limits) (x : Step String) (n : Nat) {p : Progress}
    (h : limits.gas.toNat < p.gas + (n + 1)) :
    Act.Spent (inlined (ticks limits (n + 1) >>= fun _ => x) p) := by
  obtain ⟨q, hq⟩ := ticks_of_lt n h
  exact spent_inlined ⟨q, Act.bind_of_error hq⟩

theorem le_of_inlined_ticks {limits : Limits} {x : Step String} {n : Nat} {p q : Progress}
    {text : String} (h : inlined (ticks limits (n + 1) >>= fun _ => x) p = .ok text q) :
    p.gas + (n + 1) ≤ limits.gas.toNat := by
  by_cases hle : p.gas + (n + 1) ≤ limits.gas.toNat
  · exact hle
  · have hspent := spent_inlined_ticks limits x n (p := p) (by omega)
    exact absurd (h ▸ hspent) (Act.not_spent_ok text q)

/-! ### The meter -/

/-- A step that gives no gas back and overdraws it only by ending in spent gas. -/
def Metered {α : Type} (limits : Limits) (x : Step α) : Prop :=
  ∀ p, p.gas ≤ (Act.endState (x p)).gas ∧
    (¬ Act.Spent (x p) → p.gas ≤ limits.gas.toNat → (Act.endState (x p)).gas ≤ limits.gas.toNat)

namespace Metered

variable {limits : Limits} {α β : Type}

theorem of_gas_eq {x : Step α} (h : ∀ p, (Act.endState (x p)).gas = p.gas) : Metered limits x := by
  intro p
  rw [h p]
  exact ⟨Nat.le_refl _, fun _ hp => hp⟩

theorem of_metered {x : Step α} {y : Step β} (hx : Metered limits x)
    (h : ∀ p, (Act.endState (y p)).gas = (Act.endState (x p)).gas ∧
      (Act.Spent (x p) → Act.Spent (y p))) : Metered limits y := by
  intro p
  obtain ⟨hgas, hspent⟩ := h p
  rw [hgas]
  exact ⟨(hx p).1, fun hn => (hx p).2 fun hs => hn (hspent hs)⟩

theorem bind {x : Step α} {f : α → Step β} (hx : Metered limits x)
    (hf : ∀ a, Metered limits (f a)) : Metered limits (x >>= f) := by
  intro p
  obtain ⟨hle, hlim⟩ := hx p
  cases hq : x p with
  | ok a q =>
    rw [hq] at hle hlim
    obtain ⟨hle', hlim'⟩ := hf a q
    rw [Act.bind_of_ok hq]
    exact ⟨Nat.le_trans hle hle', fun hn hp => hlim' hn (hlim (Act.not_spent_ok a q) hp)⟩
  | error e q =>
    rw [hq] at hle hlim
    rw [Act.bind_of_error hq]
    refine ⟨hle, fun hn hp => hlim (fun hs => hn ?_) hp⟩
    obtain ⟨s, hs⟩ := hs
    cases hs
    exact ⟨q, rfl⟩

theorem tick : Metered limits (tick limits) := by
  intro p
  unfold Step.tick
  dsimp only
  split
  · exact ⟨Nat.le_succ _, fun hn => absurd ⟨_, rfl⟩ hn⟩
  · rename_i hle
    exact ⟨Nat.le_succ _, fun _ _ => Nat.le_of_not_lt hle⟩

theorem inlined {x : Step String} (hx : Metered limits x) : Metered limits (inlined x) :=
  hx.of_metered fun p => ⟨gas_inlined x p, spent_inlined⟩

theorem operand {x : Step String} (hx : Metered limits x) : Metered limits (operand x) :=
  hx.of_metered fun p => ⟨gas_operand x p, spent_operand⟩

theorem ofAction (x : Action α) : Metered limits (ofAction x) :=
  of_gas_eq (gas_ofAction x)

theorem deeper {x : Step α} (hx : Metered limits x) : Metered limits (deeper x) := by
  intro p
  obtain ⟨hle, hlim⟩ := hx { p with depth := p.depth + 1 }
  rw [gas_deeper]
  exact ⟨hle, fun hn => hlim fun hs => hn (spent_deeper hs)⟩

theorem afterBody {outermost : Bool} {body : Deferred Progress} {n : Nat} {l : Loop}
    (h : ∀ out, Metered limits (Step.drain limits outermost body n l out)) (out : String)
    (x : EStateM.Result Failure Progress String) :
    (Act.endState x).gas ≤ (Act.endState (afterBody limits outermost body n l out x)).gas ∧
      (¬ Act.Spent (afterBody limits outermost body n l out x) →
        (Act.endState x).gas ≤ limits.gas.toNat →
        (Act.endState (afterBody limits outermost body n l out x)).gas ≤ limits.gas.toNat) := by
  cases x with
  | ok text q =>
    have hq := h (out ++ text) (countElement outermost text q)
    rw [gas_countElement] at hq
    exact hq
  | error e q =>
    simp only [Step.afterBody, Act.endState, Loop.restore_progress]
    exact ⟨Nat.le_refl _, fun _ hq => hq⟩

theorem drain {body : Deferred Progress} (hb : ∀ c, Metered limits (body c)) (outermost : Bool)
    (fuel : Nat) {l : Loop} {v : Option Value} (hv : l.saved = some v) (out : String) :
    Metered limits (drain limits outermost body fuel l out) := by
  have hstop : ∀ out : String, Metered limits fun p => .ok out (l.restore p) :=
    fun out => of_gas_eq fun p => by rw [Loop.restore_progress]; rfl
  induction fuel generalizing l out with
  | zero => exact hstop out
  | succ n ih =>
    intro p
    rw [drain_succ limits outermost body n hv]
    split
    · exact hstop out p
    · split
      · exact hstop out p
      · rename_i i d _
        obtain ⟨hle, hlim⟩ := hb l.scope (l.entered i p)
        obtain ⟨hle', hlim'⟩ := afterBody (fun out => ih (l := { l with cursor := d }) hv out hstop)
          out (body l.scope (l.entered i p))
        rw [Loop.entered_progress] at hle hlim hle' hlim' ⊢
        exact ⟨Nat.le_trans hle hle',
          fun hn hp => hlim' hn (hlim (fun hs => hn (spent_afterBody hs)) hp)⟩

/- A loop that goes on after an element and succeeds has used the gas of that element. -/
theorem afterBody_eq_ok {body : Deferred Progress} (hb : ∀ c, Metered limits (body c))
    {outermost : Bool} {n : Nat} {l : Loop} {v : Option Value} (hv : l.saved = some v)
    {out text : String} {x : EStateM.Result Failure Progress String} {q : Progress}
    (h : Step.afterBody limits outermost body n l out x = .ok text q) :
    ∃ element p, x = .ok element p ∧ p.gas ≤ q.gas := by
  obtain ⟨element, p, hx, hdrain⟩ := Step.afterBody_eq_ok h
  have hgas := (drain hb outermost n hv (out ++ element) (countElement outermost element p)).1
  rw [hdrain, gas_countElement] at hgas
  exact ⟨element, p, hx, hgas⟩

theorem loop {body : Deferred Progress} (hb : ∀ c, Metered limits (body c)) (c : Scope)
    (spec : String) : Metered limits (Step.loop limits c spec body) := by
  intro p
  rw [loop_eq]
  cases Span.parse spec with
  | error e => exact ⟨Nat.le_refl _, fun _ hp => hp⟩
  | ok span =>
    exact deeper (drain hb (p.depth == 0) (span.cursor.size + 1) rfl "") (Loop.start c span p).2

end Metered

end Step

theorem Composed.metered {registry : Registry} {α : Type} {x : Limits → Scope → Step α}
    (h : Composed registry x) (limits : Limits) (c : Scope) : Step.Metered limits (x limits c) := by
  induction h generalizing c with
  | pure a => exact .of_gas_eq fun _ => rfl
  | raise e => exact .of_gas_eq fun _ => rfl
  | bind hx hf ihx ihf => exact .bind (ihx c) fun a => ihf a c
  | tick => exact .tick
  | inlined hx ihx => exact .inlined (ihx c)
  | operand hx ihx => exact .operand (ihx c)
  | lookup name => exact .of_gas_eq fun _ => rfl
  | call name bare into args => exact .ofAction _
  | loop spec hb ihb => exact .loop ihb c spec

theorem Renderer.metered_inlined_eval (r : Renderer) (c : Scope) (node : Node) :
    Step.Metered r.limits (Step.inlined (r.eval c node)) :=
  (r.composed_inlined_eval node).metered r.limits c

end Stencil
