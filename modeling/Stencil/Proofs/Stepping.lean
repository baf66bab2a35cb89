import Mathlib.Data.Rat.Floor
import Stencil.Proofs.Integers

/-!
# Stepping through a span

A cursor stops for one of two reasons: it has come to the end of its span, or the next value does not fit 64 bits.
The second one never cuts a value off. A value before the end lies between two limits that fit, so the sum that
leads to it fits as well, and a sum that does not fit leads to nothing.
-/

namespace Stencil

namespace Cursor

def after (c : Cursor) : (k : Nat) → Cursor
  | 0 => c
  | k + 1 => (c.after k).pull.2

theorem before_iff (c : Cursor) (n : Int) :
    c.before n = true ↔ 0 < c.step ∧ n < c.stop ∨ c.step ≤ 0 ∧ c.stop < n := by
  unfold before
  split
  · simp only [decide_eq_true_eq]
    omega
  · simp only [decide_eq_true_eq]
    omega

theorem pull_of_before {c : Cursor} {n : Int} (hn : c.next = some n) (h : c.before n = true) :
    c.pull = (some n, { c with next := if Number.signed64.holds (n + c.step) then some (n + c.step) else none }) := by
  simp only [pull, hn, h, if_true]

theorem pull_of_past {c : Cursor} {n : Int} (hn : c.next = some n) (h : ¬ c.before n = true) :
    c.pull = (none, { c with next := none }) := by
  simp only [pull, hn, if_neg h]

theorem pull_of_none {c : Cursor} (hn : c.next = none) : c.pull = (none, c) := by
  simp only [pull, hn]

/- Nothing comes after nothing. -/
theorem pull_again {c : Cursor} (h : c.pull.1 = none) : c.pull.2.pull.1 = none := by
  cases hn : c.next with
  | none =>
    rw [pull_of_none hn]
    exact congrArg Prod.fst (pull_of_none hn)
  | some n =>
    by_cases hbefore : c.before n = true
    · rw [pull_of_before hn hbefore] at h
      cases h
    · rw [pull_of_past hn hbefore]
      rfl

theorem step_after (c : Cursor) (k : Nat) : (c.after k).step = c.step := by
  induction k with
  | zero => rfl
  | succ k ih => exact (step_of_pull (c := c.after k) (d := (c.after k).pull.2) rfl).trans ih

theorem stop_after (c : Cursor) (k : Nat) : (c.after k).stop = c.stop := by
  induction k with
  | zero => rfl
  | succ k ih =>
    rw [← ih, after]
    unfold pull
    split
    · rfl
    · split <;> rfl

theorem before_after (c : Cursor) (k : Nat) : (c.after k).before = c.before := by
  unfold before
  rw [step_after, stop_after]

theorem after_pull (c : Cursor) (k : Nat) : c.pull.2.after k = c.after (k + 1) := by
  induction k with
  | zero => rfl
  | succ k ih =>
    rw [after, ih]
    rfl

/- What is taken is what the pulls give, one after another. -/
theorem getElem?_take (c : Cursor) {n : Nat} (k : Nat) (hk : k < n) : (c.take n).1[k]? = (c.after k).pull.1 := by
  induction n generalizing c k with
  | zero => omega
  | succ n ih =>
    rcases hp : c.pull with ⟨next, d⟩
    have hrest : ∀ j, c.after (j + 1) = d.after j := by
      intro j
      rw [← after_pull, hp]
    cases next with
    | none =>
      have hnone : ∀ j, (c.after j).pull.1 = none := by
        intro j
        induction j with
        | zero => exact congrArg Prod.fst hp
        | succ j ih => exact pull_again ih
      rw [take_of_pull_none hp, hnone, List.getElem?_nil]
    | some i =>
      rw [take_of_pull_some hp]
      cases k with
      | zero => exact (congrArg Prod.fst hp).symm
      | succ k => rw [List.getElem?_cons_succ, ih d k (by omega), hrest]

theorem length_take_le (c : Cursor) (n : Nat) : (c.take n).1.length ≤ n := by
  induction n generalizing c with
  | zero => exact Nat.le_refl 0
  | succ n ih =>
    rcases hp : c.pull with ⟨next, d⟩
    cases next with
    | none =>
      rw [take_of_pull_none hp]
      exact Nat.zero_le _
    | some i =>
      rw [take_of_pull_some hp]
      exact Nat.succ_le_succ (ih d)

end Cursor

namespace Span

variable {span : Span}

/-- The value at an index, were there no end. -/
def value (span : Span) (k : Nat) : Int :=
  span.start + k * span.step

theorem value_succ (span : Span) (k : Nat) : span.value (k + 1) = span.value k + span.step := by
  simp only [value]
  push_cast
  ring

theorem value_inj (hstep : span.step ≠ 0) {j k : Nat} (h : span.value j = span.value k) : j = k := by
  have hmul : (j : Int) * span.step = k * span.step := Int.add_left_cancel h
  exact Int.ofNat_inj.1 (Int.eq_of_mul_eq_mul_right hstep hmul)

/- An index is below the size exactly when that many steps fall short of the length of the span. -/
theorem lt_size_iff (hstep : span.step ≠ 0) (k : Nat) :
    k < span.size ↔ span.cursor.before (span.value k) = true := by
  have hs : 0 < span.step.natAbs := Int.natAbs_pos.2 hstep
  have hdiv : k < span.size ↔ k * span.step.natAbs + span.step.natAbs ≤
      (if 0 < span.step then span.stop - span.start else span.start - span.stop).toNat + span.step.natAbs - 1 := by
    rw [← Nat.succ_mul]
    exact Nat.le_div_iff_mul_le hs
  rw [hdiv, Cursor.before_iff]
  simp only [cursor, value]
  by_cases hpos : 0 < span.step
  · have hsteps : ((k * span.step.natAbs : Nat) : Int) = k * span.step := by
      rw [Int.natCast_mul, Int.natAbs_of_nonneg (Int.le_of_lt hpos)]
    rw [if_pos hpos]
    omega
  · have hsteps : ((k * span.step.natAbs : Nat) : Int) = -(k * span.step) := by
      rw [Int.natCast_mul, Int.ofNat_natAbs_of_nonpos (Int.not_lt.1 hpos), Int.mul_neg]
    rw [if_neg hpos]
    omega

theorem holds_value (h : span.Written) {k : Nat} (hk : k < span.size) :
    Number.signed64.holds (span.value k) = true := by
  have hstart := Number.holds_signed64_iff.1 h.start
  have hstop := Number.holds_signed64_iff.1 h.stop
  have hbefore := (lt_size_iff h.step k).1 hk
  rw [Cursor.before_iff] at hbefore
  rw [Number.holds_signed64_iff]
  simp only [cursor, value] at hbefore ⊢
  rcases hbefore with ⟨hpos, hlt⟩ | ⟨hneg, hlt⟩
  · have hsteps : 0 ≤ (k : Int) * span.step := Int.mul_nonneg (Int.natCast_nonneg k) (Int.le_of_lt hpos)
    omega
  · have hsteps : (k : Int) * span.step ≤ 0 := Int.mul_nonpos_of_nonneg_of_nonpos (Int.natCast_nonneg k) hneg
    omega

/-! ### Pull after pull -/

theorem before_after_iff (hstep : span.step ≠ 0) (j k : Nat) :
    (span.cursor.after j).before (span.value k) = true ↔ k < span.size := by
  rw [Cursor.before_after, lt_size_iff hstep]

/- From a value on, the cursor goes to the next one if that fits. -/
theorem next_after_succ {k : Nat} (hstep : span.step ≠ 0) (hk : k < span.size)
    (hnext : (span.cursor.after k).next = some (span.value k)) :
    (span.cursor.after (k + 1)).next =
      if Number.signed64.holds (span.value (k + 1)) then some (span.value (k + 1)) else none := by
  have hbefore := (before_after_iff hstep k k).2 hk
  have hsum : span.value k + (span.cursor.after k).step = span.value (k + 1) := by
    rw [Cursor.step_after, value_succ]
    rfl
  rw [Cursor.after, Cursor.pull_of_before hnext hbefore, hsum]

theorem next_after (h : span.Written) {k : Nat} (hk : k < span.size) :
    (span.cursor.after k).next = some (span.value k) := by
  induction k with
  | zero => simp [Cursor.after, cursor, value]
  | succ k ih =>
    have hlt : k < span.size := by omega
    rw [next_after_succ h.step hlt (ih hlt), if_pos (holds_value h hk)]

theorem pull_after_of_lt (h : span.Written) {k : Nat} (hk : k < span.size) :
    (span.cursor.after k).pull.1 = some (span.value k) := by
  rw [Cursor.pull_of_before (next_after h hk) ((before_after_iff h.step k k).2 hk)]

/- After the last value the cursor stands nowhere, or at a value past the end. -/
theorem pull_after_size (h : span.Written) : (span.cursor.after span.size).pull.1 = none := by
  have hnext : (span.cursor.after span.size).next = some (span.value span.size) ∨
      (span.cursor.after span.size).next = none := by
    cases hsize : span.size with
    | zero => exact .inl (by simp [Cursor.after, cursor, value])
    | succ k =>
      have hlt : k < span.size := by omega
      rw [next_after_succ h.step hlt (next_after h hlt)]
      by_cases hfits : Number.signed64.holds (span.value (k + 1)) = true
      · exact .inl (if_pos hfits)
      · exact .inr (if_neg hfits)
  rcases hnext with hnext | hnext
  · have hpast : ¬ (span.cursor.after span.size).before (span.value span.size) = true := by
      rw [before_after_iff h.step]
      exact Nat.lt_irrefl _
    rw [Cursor.pull_of_past hnext hpast]
  · rw [Cursor.pull_of_none hnext]

theorem pull_after_of_le (h : span.Written) {k : Nat} (hk : span.size ≤ k) :
    (span.cursor.after k).pull.1 = none := by
  induction k, hk using Nat.le_induction with
  | base => exact pull_after_size h
  | succ k _ ih => exact Cursor.pull_again ih

theorem getElem?_map_value (h : span.Written) (k : Nat) :
    ((List.range span.size).map span.value)[k]? = (span.cursor.after k).pull.1 := by
  rw [List.getElem?_map]
  by_cases hk : k < span.size
  · rw [List.getElem?_range hk, pull_after_of_lt h hk]
    rfl
  · have hle : span.size ≤ k := Nat.not_lt.1 hk
    rw [List.getElem?_eq_none (by rwa [List.length_range]), pull_after_of_le h hle]
    rfl

theorem values_eq (h : span.Written) : span.values = (List.range span.size).map span.value := by
  apply List.ext_getElem?
  intro k
  rw [getElem?_map_value h]
  by_cases hk : k < span.size
  · exact Cursor.getElem?_take _ k hk
  · have hle : span.size ≤ k := Nat.not_lt.1 hk
    rw [pull_after_of_le h hle]
    exact List.getElem?_eq_none (Nat.le_trans (Cursor.length_take_le _ _) hle)

theorem pull_after (h : span.Written) (k : Nat) : (span.cursor.after k).pull.1 = span.values[k]? := by
  rw [values_eq h, getElem?_map_value h]

theorem mem_values_iff (h : span.Written) {i : Int} : i ∈ span.values ↔ ∃ k < span.size, span.value k = i := by
  simp only [values_eq h, List.mem_map, List.mem_range]

theorem length_values (h : span.Written) : span.values.length = span.size := by
  rw [values_eq h, List.length_map, List.length_range]

/-! ### The number of values -/

theorem before_value_iff (hstep : span.step ≠ 0) (k : Nat) :
    span.cursor.before (span.value k) = true ↔
      (k : ℚ) < ((span.stop - span.start : Int) : ℚ) / span.step := by
  rw [Cursor.before_iff]
  simp only [cursor, value]
  rcases Int.lt_or_gt_of_ne hstep with hneg | hpos
  · have hneg' : (span.step : ℚ) < 0 := by exact_mod_cast hneg
    rw [lt_div_iff_of_neg hneg']
    norm_cast
    omega
  · have hpos' : (0 : ℚ) < span.step := by exact_mod_cast hpos
    rw [lt_div_iff₀ hpos']
    norm_cast
    omega

theorem size_eq_ceil (hstep : span.step ≠ 0) :
    span.size = (max 0 ⌈((span.stop - span.start : Int) : ℚ) / span.step⌉).toNat := by
  have hlt : ∀ k : Nat, k < span.size ↔ (k : Int) < ⌈((span.stop - span.start : Int) : ℚ) / span.step⌉ := by
    intro k
    rw [lt_size_iff hstep, before_value_iff hstep, Int.lt_ceil]
    norm_cast
  generalize ⌈((span.stop - span.start : Int) : ℚ) / span.step⌉ = n at hlt ⊢
  have hfull := hlt span.size
  have hlast := hlt (max 0 n).toNat
  omega

/-- A span of 64-bit limits has `⌈(stop - start) / step⌉` values, or none if that is negative. The pulls give
`start`, `start + step` and so on, all of which fit 64 bits, and after the last one they give nothing, however
many there are. -/
theorem cursor_gives_each_step (span : Span) (h : span.Written) :
    let n := (max 0 ⌈((span.stop - span.start : Int) : ℚ) / span.step⌉).toNat
    (∀ k < n, (span.cursor.after k).pull.1 = some (span.start + k * span.step) ∧
      Number.signed64.holds (span.start + k * span.step)) ∧
    (∀ k, n ≤ k → (span.cursor.after k).pull.1 = none) ∧
    span.values = (List.range n).map fun k : Nat => span.start + k * span.step := by
  intro n
  have hn : span.size = n := size_eq_ceil h.step
  rw [← hn]
  exact ⟨fun k hk => ⟨pull_after_of_lt h hk, holds_value h hk⟩, fun k hk => pull_after_of_le h hk, values_eq h⟩

/-- From the least integer to the greatest in steps of the greatest: three values, and a fourth that would not
fit. -/
theorem cursor_gives_each_step_at_limits :
    let span : Span := { start := -9223372036854775808, stop := 9223372036854775807, step := 9223372036854775807 }
    span.Written ∧ span.values = [-9223372036854775808, -1, 9223372036854775806] ∧
      (span.cursor.after 3).pull.1 = none := by
  intro span
  have h : span.Written := ⟨by decide, by decide, by decide⟩
  have hn : max 0 ⌈((span.stop - span.start : Int) : ℚ) / span.step⌉ = 3 := by norm_num [span]
  obtain ⟨-, hnone, hvalues⟩ := cursor_gives_each_step span h
  rw [hn] at hvalues hnone
  exact ⟨h, hvalues, hnone 3 (Nat.le_refl 3)⟩

end Span

end Stencil
