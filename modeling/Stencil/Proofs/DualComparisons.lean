import Stencil.Proofs.Faults
import Stencil.Library.Standard

/-!
# Dual comparisons

Three pairs of comparisons decide every condition the opposite way and refuse the same operands. A condition with two
branches is therefore the one with the dual comparison and its branches exchanged, whatever operands and branches do.
-/

namespace Stencil

/-- Names of comparisons of which the second holds where the first does not. -/
def dualNames : List (String × String) :=
  [("eq", "ne"), ("lt", "ge"), ("gt", "le")]

/- Both operands are read, or refused, before anything is compared. -/
theorem compareInts_not {holds fails : Int → Int → Bool} (h : ∀ a b, fails a b = !holds a b)
    (left : Operand) (right : String) :
    compareInts left right fails = (compareInts left right holds).map (!·) := by
  cases left with
  | failed e => rfl
  | text s =>
    simp only [compareInts]
    cases intArg s .invalidArgument "args must be numbers" with
    | error e => rfl
    | ok a =>
      cases intArg right .invalidArgument "args must be numbers" with
      | error e => rfl
      | ok b => exact congrArg Except.ok (h a b)

theorem decideCondition_dual {name dual : String} (h : (name, dual) ∈ dualNames) (left : Operand)
    (right : String) : decideCondition left dual right = (decideCondition left name right).map (!·) := by
  simp only [dualNames, List.mem_cons, Prod.mk.injEq, List.not_mem_nil, or_false] at h
  rcases h with ⟨rfl, rfl⟩ | ⟨rfl, rfl⟩ | ⟨rfl, rfl⟩
  · rfl
  · refine compareInts_not (fun a b => ?_) left right
    have hge : a ≥ b ↔ ¬ a < b := by omega
    simp only [hge, decide_not]
  · refine compareInts_not (fun a b => ?_) left right
    have hle : a ≤ b ↔ ¬ a > b := by omega
    simp only [hle, decide_not]

theorem branch_dual {σ : Type} {name dual : String} (h : (name, dual) ∈ dualNames) (c : Scope) (left : Operand)
    (right : String) (onTrue onFalse : Deferred σ) :
    branch c left name right onTrue (some onFalse) = branch c left dual right onFalse (some onTrue) := by
  simp only [branch, decideCondition_dual h]
  cases decideCondition left name right with
  | error e => rfl
  | ok holds => cases holds <;> rfl

namespace Renderer

theorem inlined_eval_text (r : Renderer) (c : Scope) (s : String) :
    Step.inlined (r.eval c (.text s)) = Step.tick r.limits >>= fun _ => pure s := by
  simp only [eval]
  exact Step.inlined_tick_pure r.limits s

/- The two names cost the same gas, so that the runs only part where the branch is chosen. -/
theorem evalWhen_dual {name dual : String} (h : (name, dual) ∈ dualNames) (r : Renderer) (c : Scope)
    (caps : Capabilities) (into : Option String) (left right onTrue onFalse : Node) :
    r.evalWhen c caps into [left, .text name, right, onTrue, onFalse] =
      r.evalWhen c caps into [left, .text dual, right, onFalse, onTrue] := by
  simp only [evalWhen, inlined_eval_text, bind_assoc, pure_bind, branch_dual h]

theorem eval_dual {name dual : String} (h : (name, dual) ∈ dualNames) {r : Renderer} {callee : String} {b : Builtin}
    (hb : r.registry.get? callee = some b) (hkind : b.kind = .conditional) (c : Scope)
    (left right onTrue onFalse : Node) (named : List (String × Node)) (into : Option String) :
    r.eval c (.call callee [left, .text name, right, onTrue, onFalse] named into) =
      r.eval c (.call callee [left, .text dual, right, onFalse, onTrue] named into) := by
  simp only [eval, hb, hkind, evalWhen_dual h]

/-- A condition gives the same render as the one with the dual comparison and its branches exchanged: the same text,
reports, gas and world, or the same failure in the same world. -/
theorem render_dual_condition (limits : Limits) (c : Scope) (left right onTrue onFalse : Node) (name dual : String)
    (h : (name, dual) ∈ dualNames ∨ (dual, name) ∈ dualNames) (named : List (String × Node))
    (into : Option String) (w : World) :
    let r : Renderer := { registry := Library.standard, limits }
    r.render c (.call "when" [left, .text name, right, onTrue, onFalse] named into) w =
      r.render c (.call "when" [left, .text dual, right, onFalse, onTrue] named into) w := by
  intro r
  have hwhen : ∃ b, r.registry.get? "when" = some b ∧ b.kind = .conditional := ⟨_, rfl, rfl⟩
  obtain ⟨b, hb, hkind⟩ := hwhen
  simp only [render]
  rcases h with h | h
  · rw [eval_dual h hb hkind]
  · rw [eval_dual h hb hkind]

/-- A left operand that failed is refused by both comparisons. Of integers at the two ends of the range one branch is
chosen, which sets a variable and runs a loop. -/
theorem render_dual_condition_effects :
    let moment : Moment := { day := 0, second := 0, nano := 0 }
    let w : World := { store := (Store.empty.addRoot {}).2,
                       supply := { draw := fun _ => 0, reading := fun _ => moment } }
    let r : Renderer := { registry := Library.standard }
    let effects : Node := .concat [.call "set" [.text "x", .text "1"] [] none,
      .call "loop" [.text "3", .var "iter"] [] none]
    let failing : Node := .var "missing"
    let least : Node := .text "-9223372036854775808"
    let most : Node := .text " 9223372036854775807"
    let whenLt := fun a b => Node.call "when" [a, .text "lt", b, effects, failing] [] none
    let whenGe := fun a b => Node.call "when" [a, .text "ge", b, failing, effects] [] none
    (r.render ⟨0⟩ (whenLt least most) w).1.toOption = some { text := "12", reports := [], gas := 12 } ∧
      r.render ⟨0⟩ (whenGe least most) w = r.render ⟨0⟩ (whenLt least most) w ∧
      (r.render ⟨0⟩ (whenLt failing most) w).1.toOption.map Rendered.text = some "<when:args must be numbers>" ∧
      r.render ⟨0⟩ (whenGe failing most) w = r.render ⟨0⟩ (whenLt failing most) w := by
  intro moment w r effects failing least most whenLt whenGe
  have hpair : ("ge", "lt") ∈ dualNames ∨ ("lt", "ge") ∈ dualNames := .inr (by decide)
  exact ⟨by decide +kernel, render_dual_condition {} ⟨0⟩ least most failing effects "ge" "lt" hpair [] none w,
    by decide +kernel, render_dual_condition {} ⟨0⟩ failing most failing effects "ge" "lt" hpair [] none w⟩

end Renderer

end Stencil
