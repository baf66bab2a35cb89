import Mathlib.Data.Rat.Floor
import Stencil.Arithmetic
import Stencil.Proofs.Integers

/-!
# Division that rounds down

The quotient of 64 bits rounds toward zero and its remainder has the sign of the dividend. Where that is not the
sign of the divisor, one step brings both to the quotient rounded down: one less for the quotient, one divisor more
for the remainder. The two functions look for that case in different ways, and both find it.
-/

namespace Stencil.Arithmetic

open Number (signed64)

variable {a b : Int}

/-! ### Quotient and remainder -/

theorem floor_eq_of_remainder {q r : Int} (ha : a = b * q + r) (hr : 0 ≤ r ∧ r < b ∨ b < r ∧ r ≤ 0) :
    ⌊(a : ℚ) / b⌋ = q := by
  have hmul : (q + 1) * b = b * q + b := by ring
  have hcomm : q * b = b * q := Int.mul_comm q b
  rw [Int.floor_eq_iff]
  rcases hr with ⟨hnonneg, hlt⟩ | ⟨hlt, hnonpos⟩
  · have hpos : (0 : ℚ) < b := by exact_mod_cast Int.lt_of_le_of_lt hnonneg hlt
    rw [le_div_iff₀ hpos, div_lt_iff₀ hpos]
    norm_cast
    omega
  · have hneg : (b : ℚ) < 0 := by exact_mod_cast Int.lt_of_lt_of_le hlt hnonpos
    rw [le_div_iff_of_neg hneg, div_lt_iff_of_neg hneg]
    norm_cast
    omega

/- The test of the remainder and the test of the dividend agree: a remainder other than zero has the sign of the
dividend. -/
theorem signsDiffer_tmod (hb : b ≠ 0) :
    Int.tmod a b ≠ 0 ∧ signsDiffer (Int.tmod a b) b = true ↔ Int.tmod a b ≠ 0 ∧ signsDiffer a b = true := by
  obtain ⟨-, hnonneg, hnonpos⟩ := tmod_bounds a hb
  rw [signsDiffer_iff, signsDiffer_iff]
  omega

theorem floor_of_rounded (hb : b ≠ 0) (h : Int.tmod a b ≠ 0 ∧ signsDiffer a b = true) :
    ⌊(a : ℚ) / b⌋ = Int.tdiv a b - 1 := by
  obtain ⟨hr, hsigns⟩ := h
  obtain ⟨hlt, hnonneg, hnonpos⟩ := tmod_bounds a hb
  have hdiv := Int.mul_tdiv_add_tmod a b
  rw [signsDiffer_iff] at hsigns
  have hmul : b * (Int.tdiv a b - 1) = b * Int.tdiv a b - b := by ring
  apply floor_eq_of_remainder (r := Int.tmod a b + b)
  · omega
  · omega

theorem floor_of_exact (hb : b ≠ 0) (h : ¬ (Int.tmod a b ≠ 0 ∧ signsDiffer a b = true)) :
    ⌊(a : ℚ) / b⌋ = Int.tdiv a b := by
  obtain ⟨hlt, hnonneg, hnonpos⟩ := tmod_bounds a hb
  have hdiv := Int.mul_tdiv_add_tmod a b
  rw [signsDiffer_iff] at h
  apply floor_eq_of_remainder (r := Int.tmod a b)
  · omega
  · omega

theorem remainder_of_rounded (hb : b ≠ 0) (h : Int.tmod a b ≠ 0 ∧ signsDiffer a b = true) :
    a - b * ⌊(a : ℚ) / b⌋ = Int.tmod a b + b := by
  have hdiv := Int.mul_tdiv_add_tmod a b
  have hmul : b * (Int.tdiv a b - 1) = b * Int.tdiv a b - b := by ring
  rw [floor_of_rounded hb h]
  omega

theorem remainder_of_exact (hb : b ≠ 0) (h : ¬ (Int.tmod a b ≠ 0 ∧ signsDiffer a b = true)) :
    a - b * ⌊(a : ℚ) / b⌋ = Int.tmod a b := by
  have hdiv := Int.mul_tdiv_add_tmod a b
  rw [floor_of_exact hb h]
  omega

/-! ### Sixty-four bits -/

theorem tmod_eq_zero_of_not_holds (ha : signed64.holds a) (hb : b ≠ 0) (h : ¬ signed64.holds (Int.tdiv a b)) :
    Int.tmod a b = 0 := by
  by_contra hr
  have hbounds := tdiv_bounds_of_tmod ha hb hr
  rw [Number.holds_signed64_iff] at h
  omega

theorem floorDiv?_eq (ha : signed64.holds a) (hb : b ≠ 0) :
    floorDiv? a b = some (if signed64.holds ⌊(a : ℚ) / b⌋ then .ok ⌊(a : ℚ) / b⌋
      else .error (Fault.ofKind .overflow)) := by
  by_cases hq : signed64.holds (Int.tdiv a b)
  · rw [floorDiv?_of_holds ha hb hq]
    by_cases hrounded : Int.tmod a b ≠ 0 ∧ signsDiffer a b = true
    · rw [floor_of_rounded hb hrounded, if_pos hrounded, if_pos (holds_tdiv_pred ha hb hrounded.1)]
    · rw [floor_of_exact hb hrounded, if_neg hrounded, if_pos hq]
  · have hexact := tmod_eq_zero_of_not_holds ha hb hq
    rw [floorDiv?_of_not_holds hb hq, floor_of_exact hb fun hrounded => hrounded.1 hexact, if_neg hq]

theorem floorMod?_eq (hb : b ≠ 0) (hfits : signed64.holds b) :
    floorMod? a b = some (.ok (a - b * ⌊(a : ℚ) / b⌋)) := by
  rw [floorMod?_of_holds hb hfits]
  simp only [signsDiffer_tmod hb]
  by_cases hrounded : Int.tmod a b ≠ 0 ∧ signsDiffer a b = true
  · rw [remainder_of_rounded hb hrounded, if_pos hrounded]
  · rw [remainder_of_exact hb hrounded, if_neg hrounded]

theorem floor_remainder_bounds (a : Int) (hb : b ≠ 0) :
    let r := a - b * ⌊(a : ℚ) / b⌋
    0 ≤ r ∧ r < b ∨ b < r ∧ r ≤ 0 := by
  intro r
  obtain ⟨hlt, hnonneg, hnonpos⟩ := tmod_bounds a hb
  by_cases hrounded : Int.tmod a b ≠ 0 ∧ signsDiffer a b = true
  · have hr : r = Int.tmod a b + b := remainder_of_rounded hb hrounded
    rw [signsDiffer_iff] at hrounded
    omega
  · have hr : r = Int.tmod a b := remainder_of_exact hb hrounded
    rw [signsDiffer_iff] at hrounded
    omega

theorem sign_eq_of_remainder {r : Int} (h : 0 ≤ r ∧ r < b ∨ b < r ∧ r ≤ 0) : r = 0 ∨ r.sign = b.sign := by
  rcases h with ⟨hnonneg, hlt⟩ | ⟨hlt, hnonpos⟩
  · rcases Int.le_iff_lt_or_eq.1 hnonneg with hpos | hzero
    · exact .inr (by rw [Int.sign_eq_one_of_pos hpos, Int.sign_eq_one_of_pos (by omega)])
    · exact .inl hzero.symm
  · rcases Int.le_iff_lt_or_eq.1 hnonpos with hneg | hzero
    · exact .inr (by rw [Int.sign_eq_neg_one_of_neg hneg, Int.sign_eq_neg_one_of_neg (by omega)])
    · exact .inl hzero

/-! ### Written operands -/

theorem readAll_of_reads {α : Type} (read : String → Nat → Except Fault α) {texts : List String}
    (h : ∀ t ∈ texts, ∀ k, ∃ a, read t k = .ok a) (k : Nat) : ∃ as, readAll read k texts = .ok as := by
  induction texts generalizing k with
  | nil => exact ⟨[], rfl⟩
  | cons text rest ih =>
    obtain ⟨a, ha⟩ := h text List.mem_cons_self k
    obtain ⟨as, has⟩ := ih (fun t ht => h t (List.mem_cons_of_mem text ht)) (k + 1)
    refine ⟨a :: as, ?_⟩
    rw [readAll, ha]
    show (readAll read (k + 1) rest >>= fun as => Except.ok (a :: as)) = _
    rw [has]
    rfl

theorem readAll_intOperand {texts : List String} (h : ∀ t ∈ texts, ∃ n, Number.integer? t = .ok n) (k : Nat) :
    ∃ ns, readAll intOperand k texts = .ok ns := by
  refine readAll_of_reads intOperand (fun t ht k => ?_) k
  obtain ⟨n, hn⟩ := h t ht
  refine ⟨n, ?_⟩
  rw [intOperand, intArg, hn]
  rfl

theorem apply_int (op : Operator) (hkind : op.operandKind = .int) {x y : String} {more : List String}
    (hx : Number.integer? x = .ok a) (hy : Number.integer? y = .ok b)
    (hmore : ∀ t ∈ more, ∃ n, Number.integer? t = .ok n) :
    ∃ ns, some (op.apply (x :: y :: more)) = (op.runInts? (a :: b :: ns)).map (·.map toString) := by
  obtain ⟨ns, hns⟩ := readAll_intOperand hmore 3
  have hall : readAll intOperand 1 (x :: y :: more) = .ok (a :: b :: ns) := by
    simp only [readAll, intOperand, intArg, hx, hy, hns]
    rfl
  have hlength : ¬ (x :: y :: more).length < op.arity := by
    have harity : op.arity ≤ 2 := by cases op <;> decide
    simp only [List.length_cons]
    omega
  refine ⟨ns, ?_⟩
  rw [← op.outcome?_eq, Operator.outcome?, if_neg (by simp), if_neg hlength]
  simp only [Operator.compute?, hkind, hall]

/-- Integer division and remainder round down. By zero both are a fault. Otherwise the quotient is the text of
`⌊a / b⌋`, or an overflow where that leaves 64 bits, and the remainder is what that leaves: zero or of the sign of
the divisor, and smaller than it. Further operands do not count, and no step on the way leaves 64 bits. -/
theorem division_rounds_down {x y : String} {more : List String} {a b : Int} (hx : Number.integer? x = .ok a)
    (hy : Number.integer? y = .ok b) (hmore : ∀ t ∈ more, ∃ n, Number.integer? t = .ok n) :
    let q := ⌊(a : ℚ) / b⌋
    let r := a - b * q
    (b = 0 →
      Operator.idiv.apply (x :: y :: more) = .error (Fault.ofKind .divideByZero) ∧
      Operator.mod.apply (x :: y :: more) = .error (Fault.ofKind .divideByZero)) ∧
    (b ≠ 0 →
      (signed64.holds q → Operator.idiv.apply (x :: y :: more) = .ok (toString q)) ∧
      (¬ signed64.holds q → Operator.idiv.apply (x :: y :: more) = .error (Fault.ofKind .overflow)) ∧
      Operator.mod.apply (x :: y :: more) = .ok (toString r) ∧
      (r = 0 ∨ r.sign = b.sign) ∧ r.natAbs < b.natAbs) ∧
    (floorDiv? a b).isSome ∧ (floorMod? a b).isSome := by
  intro q r
  have ha := Number.holds_of_integer? hx
  have hb := Number.holds_of_integer? hy
  obtain ⟨ns, hidiv⟩ := apply_int .idiv rfl hx hy hmore
  obtain ⟨ms, hmod⟩ := apply_int .mod rfl hx hy hmore
  have hquotient : some (Operator.idiv.apply (x :: y :: more)) = (floorDiv? a b).map (·.map toString) := hidiv
  have hremainder : some (Operator.mod.apply (x :: y :: more)) = (floorMod? a b).map (·.map toString) := hmod
  by_cases hzero : b = 0
  · subst hzero
    exact ⟨fun _ => ⟨Option.some.inj hquotient, Option.some.inj hremainder⟩, fun hne => absurd rfl hne, rfl, rfl⟩
  · have hbounds : 0 ≤ r ∧ r < b ∨ b < r ∧ r ≤ 0 := floor_remainder_bounds a hzero
    have hsmaller : r.natAbs < b.natAbs := by omega
    rw [floorDiv?_eq ha hzero] at hquotient ⊢
    rw [floorMod?_eq hzero hb] at hremainder ⊢
    refine ⟨fun h => absurd h hzero, fun _ => ⟨fun hq => ?_, fun hq => ?_, Option.some.inj hremainder,
      sign_eq_of_remainder hbounds, hsmaller⟩, rfl, rfl⟩
    · rw [if_pos hq] at hquotient
      exact Option.some.inj hquotient
    · rw [if_neg hq] at hquotient
      exact Option.some.inj hquotient

/-- The quotient that leaves 64 bits, with its remainder; and a quotient below zero with blanks around an operand
and a further operand that is passed over. -/
theorem division_rounds_down_at_limits :
    Operator.idiv.apply ["-9223372036854775808", "-1"] = .error (Fault.ofKind .overflow) ∧
      Operator.mod.apply ["-9223372036854775808", "-1"] = .ok "0" ∧
      Operator.idiv.apply [" -7 ", "+2", "0"] = .ok "-4" ∧
      Operator.mod.apply [" -7 ", "+2", "0"] = .ok "1" := by
  have hleast : ⌊((-9223372036854775808 : Int) : ℚ) / (-1 : Int)⌋ = 9223372036854775808 := by norm_num
  have hseven : ⌊((-7 : Int) : ℚ) / (2 : Int)⌋ = -4 := by norm_num
  have hnone : ∀ t ∈ ([] : List String), ∃ n, Number.integer? t = .ok n := by simp
  have hmore : ∀ t ∈ ["0"], ∃ n, Number.integer? t = .ok n := by
    intro t ht
    rw [List.mem_singleton.1 ht]
    exact ⟨0, rfl⟩
  obtain ⟨-, hlimit, -, -⟩ := division_rounds_down (x := "-9223372036854775808") (y := "-1")
    (a := -9223372036854775808) (b := -1) rfl rfl hnone
  obtain ⟨-, hsmall, -, -⟩ := division_rounds_down (x := " -7 ") (y := "+2") (a := -7) (b := 2) rfl rfl hmore
  rw [hleast] at hlimit
  rw [hseven] at hsmall
  obtain ⟨-, hover, hzero, -⟩ := hlimit (by decide)
  obtain ⟨hquotient, -, hone, -⟩ := hsmall (by decide)
  exact ⟨hover (by decide), hzero, hquotient (by decide), hone⟩

end Stencil.Arithmetic
