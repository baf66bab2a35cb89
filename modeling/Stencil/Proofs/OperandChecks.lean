import Stencil.Proofs.Failures
import Stencil.Proofs.FloorDivision

/-!
# Checks of operands

An operator looks first at how many operands there are, then reads all of them, also those that it passes over, and
only then runs. What it takes from a place is therefore there, and no operator runs on numbers of the other kind.
-/

namespace Stencil.Arithmetic

open Number (signed64)

/-! ### Reading -/

section

variable {α : Type} {read : String → Nat → Except Fault α} {k : Nat} {texts : List String}

/- The first text that cannot be read decides the fault, under its own number. -/
theorem readAll_of_unread {reads : String → Bool} (hread : ∀ text k, (read text k).isOk = reads text)
    (h : ∃ text ∈ texts, reads text = false) :
    ∃ text e, readAll read k texts = .error e ∧ read text (k + texts.findIdx (!reads ·)) = .error e := by
  induction texts generalizing k with
  | nil =>
    obtain ⟨text, hmem, -⟩ := h
    cases hmem
  | cons text texts ih =>
    have htext := hread text k
    cases hr : read text k with
    | error e =>
      have hunread : reads text = false := by rw [← htext, hr]; rfl
      refine ⟨text, e, ?_, ?_⟩
      · rw [readAll, hr]
        rfl
      · rw [List.findIdx_cons, hunread]
        exact hr
    | ok a =>
      have hreads : reads text = true := by rw [← htext, hr]; rfl
      have hlater : ∃ text ∈ texts, reads text = false := by
        obtain ⟨other, hmem, hother⟩ := h
        rcases List.mem_cons.1 hmem with rfl | hmem
        · rw [hreads] at hother
          cases hother
        · exact ⟨other, hmem, hother⟩
      obtain ⟨other, e, hall, hother⟩ := ih (k := k + 1) hlater
      refine ⟨other, e, ?_, ?_⟩
      · rw [readAll, hr]
        show (readAll read (k + 1) texts >>= _) = _
        rw [hall]
        rfl
      · rw [List.findIdx_cons, hreads]
        have hnumber : k + (texts.findIdx (!reads ·) + 1) = k + 1 + texts.findIdx (!reads ·) := by omega
        show read other (k + (texts.findIdx (!reads ·) + 1)) = _
        rw [hnumber]
        exact hother

end

/-! ### Kinds of operands -/

namespace OperandKind

def reads (kind : OperandKind) (text : String) : Bool :=
  match kind with
  | .float => (Number.decimal? text).isOk
  | .int => (Number.integer? text).isOk

def unread (kind : OperandKind) (number : Nat) : Fault.Kind × String :=
  match kind with
  | .float => (.nonFloatArgument, "non-float arg " ++ toString number)
  | .int => (.nonIntArgument, "non-int arg " ++ toString number)

theorem unread_kind_ne (kind : OperandKind) (number : Nat) : (kind.unread number).1 ≠ .invalidArguments := by
  cases kind with
  | float => nofun
  | int => nofun

end OperandKind

/-! ### Outcomes -/

theorem isOk_mapError {ε α : Type} (x : Except ε α) (f : ε → Fault) : (x.mapError f).isOk = x.isOk := by
  cases x <;> rfl

theorem isOk_floatOperand (text : String) (k : Nat) : (floatOperand text k).isOk = OperandKind.float.reads text :=
  isOk_mapError _ _

theorem isOk_intOperand (text : String) (k : Nat) : (intOperand text k).isOk = OperandKind.int.reads text :=
  isOk_mapError _ _

theorem unread_of_floatOperand {text : String} {k : Nat} {e : Fault} (h : floatOperand text k = .error e) :
    (e.kind, e.message) = OperandKind.float.unread k :=
  Raises.floatArg (P := fun e => (e.kind, e.message) = OperandKind.float.unread k) text (fun _ => rfl) e h

theorem unread_of_intOperand {text : String} {k : Nat} {e : Fault} (h : intOperand text k = .error e) :
    (e.kind, e.message) = OperandKind.int.unread k :=
  Raises.intArg (P := fun e => (e.kind, e.message) = OperandKind.int.unread k) text (fun _ => rfl) e h

theorem Operator.compute?_of_unread (op : Operator) {operands : List String}
    (h : ∃ text ∈ operands, op.operandKind.reads text = false) :
    ∃ e : Fault, (e.kind, e.message) = op.operandKind.unread (1 + operands.findIdx (!op.operandKind.reads ·)) ∧
      op.compute? operands = some (.error e) := by
  unfold compute?
  cases hkind : op.operandKind with
  | float =>
    rw [hkind] at h
    obtain ⟨text, e, hall, he⟩ := readAll_of_unread (k := 1) isOk_floatOperand h
    refine ⟨e, unread_of_floatOperand he, ?_⟩
    simp only [hall]
  | int =>
    rw [hkind] at h
    obtain ⟨text, e, hall, he⟩ := readAll_of_unread (k := 1) isOk_intOperand h
    refine ⟨e, unread_of_intOperand he, ?_⟩
    simp only [hall]

def RunFault (e : Fault) : Prop :=
  ∃ kind ∈ runKinds, e = Fault.ofKind kind

theorem runFault_of_runKinds : ∀ kind ∈ runKinds, RunFault (Fault.ofKind kind) :=
  fun kind hkind => ⟨kind, hkind, rfl⟩

/- All operands are read, so that only the run can fail. -/
theorem Operator.raises_of_reads (op : Operator) {operands : List String}
    (h : ∀ text ∈ operands, op.operandKind.reads text = true) {x : Except Fault String}
    (hx : op.compute? operands = some x) : Raises RunFault x := by
  unfold compute? at hx
  cases hkind : op.operandKind with
  | float =>
    rw [hkind] at h
    obtain ⟨values, hvalues⟩ := readAll_of_reads floatOperand
      (fun text htext k => isOk_iff_exists.1 ((isOk_floatOperand text k).trans (h text htext))) 1
    simp only [hkind, hvalues] at hx
    obtain ⟨y, hy, rfl⟩ := Option.map_eq_some_iff.1 hx
    exact .bind (raises_of_runFloats? runFault_of_runKinds hy) (raises_finiteText runFault_of_runKinds)
  | int =>
    rw [hkind] at h
    obtain ⟨values, hvalues⟩ := readAll_of_reads intOperand
      (fun text htext k => isOk_iff_exists.1 ((isOk_intOperand text k).trans (h text htext))) 1
    simp only [hkind, hvalues] at hx
    obtain ⟨y, hy, rfl⟩ := Option.map_eq_some_iff.1 hx
    exact .map (raises_of_runInts? runFault_of_runKinds hy) toString

theorem Operator.apply_of_few (op : Operator) {operands : List String}
    (h : operands = [] ∨ operands.length < op.arity) :
    ∃ e : Fault, e.kind = .invalidArguments ∧ op.apply operands = .error e := by
  have happly := op.outcome?_eq operands
  unfold outcome? at happly
  split at happly
  · exact ⟨_, rfl, (Option.some.inj happly).symm⟩
  · rename_i hempty
    have hfew : operands.length < op.arity := h.resolve_left (by simpa using hempty)
    rw [if_pos hfew] at happly
    exact ⟨_, rfl, (Option.some.inj happly).symm⟩

theorem Operator.compute?_of_enough (op : Operator) {operands : List String}
    (h : ¬ (operands = [] ∨ operands.length < op.arity)) : op.compute? operands = some (op.apply operands) := by
  obtain ⟨hne, hfew⟩ := not_or.1 h
  rw [← op.outcome?_eq, outcome?, if_neg (by simpa using hne), if_neg hfew]

theorem Operator.apply_of_unread (op : Operator) {operands : List String}
    (hfew : ¬ (operands = [] ∨ operands.length < op.arity))
    (h : ∃ text ∈ operands, op.operandKind.reads text = false) :
    ∃ e : Fault, (e.kind, e.message) = op.operandKind.unread (1 + operands.findIdx (!op.operandKind.reads ·)) ∧
      op.apply operands = .error e := by
  obtain ⟨e, hfault, he⟩ := op.compute?_of_unread h
  exact ⟨e, hfault, Option.some.inj ((op.compute?_of_enough hfew).symm.trans he)⟩

/- The faults of operands and of the run are of other kinds than those of the arguments. -/
theorem Operator.kind_of_enough (op : Operator) {operands : List String}
    (h : ¬ (operands = [] ∨ operands.length < op.arity)) {e : Fault} (he : op.apply operands = .error e) :
    e.kind ≠ .invalidArguments := by
  by_cases hunread : ∃ text ∈ operands, op.operandKind.reads text = false
  · obtain ⟨e', hfault, he'⟩ := op.apply_of_unread h hunread
    obtain rfl : e' = e := Except.error.inj (he'.symm.trans he)
    have hkind : e'.kind = _ := congrArg Prod.fst hfault
    rw [hkind]
    exact op.operandKind.unread_kind_ne _
  · have hreads : ∀ text ∈ operands, op.operandKind.reads text = true := by simpa using hunread
    obtain ⟨kind, hkind, rfl⟩ := op.raises_of_reads hreads (op.compute?_of_enough h) e he
    show kind ≠ _
    rintro rfl
    exact absurd hkind (by decide)

/-- The checks of an operator. It refuses its arguments exactly when there are none or fewer than it takes. Otherwise
the first operand that is not of its kind is named by its number, whether or not the operator looks at it. Otherwise
there is a text, or a fault of the run itself. The run always has an outcome: no place it looks at is empty, and no
operator runs on the other kind of numbers. -/
theorem apply_checks_operands_in_order (op : Operator) (operands : List String) :
    let few := operands = [] ∨ operands.length < op.arity
    let unread := ∃ text ∈ operands, op.operandKind.reads text = false
    ((∃ e : Fault, e.kind = .invalidArguments ∧ op.apply operands = .error e) ↔ few) ∧
    (¬ few → unread →
      ∃ e : Fault, (e.kind, e.message) = op.operandKind.unread (1 + operands.findIdx (!op.operandKind.reads ·)) ∧
        op.apply operands = .error e) ∧
    (¬ few → ¬ unread → (∃ text, op.apply operands = .ok text) ∨
      ∃ kind ∈ [.divideByZero, .overflow, .underflow, .notANumber], op.apply operands = .error (Fault.ofKind kind)) ∧
    op.outcome? operands = some (op.apply operands) := by
  intro few unread
  refine ⟨⟨?_, op.apply_of_few⟩, fun hfew hunread => op.apply_of_unread hfew hunread, fun hfew hunread => ?_,
    op.outcome?_eq operands⟩
  · rintro ⟨e, hkind, he⟩
    by_contra hfew
    exact op.kind_of_enough hfew he hkind
  · have hreads : ∀ text ∈ operands, op.operandKind.reads text = true := by simpa [unread] using hunread
    have hraises := op.raises_of_reads hreads (op.compute?_of_enough hfew)
    cases happly : op.apply operands with
    | ok text => exact .inl ⟨text, rfl⟩
    | error e =>
      obtain ⟨kind, hkind, rfl⟩ := hraises e happly
      exact .inr ⟨kind, hkind, rfl⟩

/-- An operand that is passed over and is no number, for both kinds of operators; one operand too few; and a run. -/
theorem apply_checks_operands_in_order_passed_over :
    (∃ e : Fault, (e.kind, e.message) = (.nonFloatArgument, "non-float arg 3") ∧
      Operator.sub.apply ["1e400", " 2 ", "x", ""] = .error e) ∧
    (∃ e : Fault, (e.kind, e.message) = (.nonIntArgument, "non-int arg 2") ∧
      Operator.not.apply ["5", "1.0"] = .error e) ∧
    (∃ e : Fault, e.kind = .invalidArguments ∧ Operator.xor.apply ["x"] = .error e) ∧
    Operator.xor.outcome? ["6", "3", "0"] = some (.ok "5") := by
  obtain ⟨-, hfloat, -, -⟩ := apply_checks_operands_in_order .sub ["1e400", " 2 ", "x", ""]
  obtain ⟨-, hint, -, -⟩ := apply_checks_operands_in_order .not ["5", "1.0"]
  obtain ⟨hfew, -, -, -⟩ := apply_checks_operands_in_order .xor ["x"]
  obtain ⟨-, -, -, hplaces⟩ := apply_checks_operands_in_order .xor ["6", "3", "0"]
  refine ⟨?_, ?_, hfew.2 (by decide), ?_⟩
  · exact hfloat (by decide) ⟨"x", by decide, by decide +kernel⟩
  · exact hint (by decide) ⟨"1.0", by decide, by decide +kernel⟩
  · rw [hplaces]
    decide +kernel

end Stencil.Arithmetic
