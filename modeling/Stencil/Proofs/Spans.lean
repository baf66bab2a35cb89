import Stencil.Span

/-!
# Values of a span

A cursor with a step other than zero comes to its end: every value taken makes the rest smaller. Written
spans have such a step, and limits of 64 bits, so that they are short.
-/

namespace Stencil

theorem isOk_iff_exists {ε α : Type} {x : Except ε α} : x.isOk = true ↔ ∃ a, x = .ok a := by
  cases x with
  | ok a => exact ⟨fun _ => ⟨a, rfl⟩, fun _ => rfl⟩
  | error e => exact ⟨nofun, nofun⟩

namespace Span

/-- A value that is not past the end is one more than the rest of the span from the next one on. -/
theorem size_eq_succ {n stop step : Int} (hstep : step ≠ 0)
    (h : Cursor.before { next := some n, stop, step } n) :
    size { start := n, stop, step } = size { start := n + step, stop, step } + 1 := by
  have hs : 0 < step.natAbs := Int.natAbs_pos.2 hstep
  -- `a` is the distance to the last place before the end
  obtain ⟨a, ha⟩ : ∃ a : Nat, (a : Int) + 1 = if 0 < step then stop - n else n - stop := by
    unfold Cursor.before at h
    by_cases hpos : 0 < step
    · simp only [hpos, if_true, decide_eq_true_eq] at h ⊢
      exact ⟨(stop - n - 1).toNat, by omega⟩
    · simp only [hpos, if_false, decide_eq_true_eq] at h ⊢
      exact ⟨(n - stop - 1).toNat, by omega⟩
  have hrest : (if 0 < step then stop - (n + step) else n + step - stop) =
      (a : Int) + 1 - step.natAbs := by
    split at ha <;> split <;> omega
  simp only [size, hrest, ← ha]
  have hfull : ((a : Int) + 1).toNat + step.natAbs - 1 = a + step.natAbs := by omega
  rw [hfull, Nat.add_div_right a hs]
  by_cases hle : step.natAbs ≤ a + 1
  · have hshort : ((a : Int) + 1 - step.natAbs).toNat + step.natAbs - 1 = a := by omega
    rw [hshort]
  · have hshort : ((a : Int) + 1 - step.natAbs).toNat + step.natAbs - 1 = step.natAbs - 1 := by omega
    rw [hshort, Nat.div_eq_of_lt (by omega), Nat.div_eq_of_lt (by omega)]

structure Written (span : Span) : Prop where
  start : Number.signed64.holds span.start
  stop : Number.signed64.holds span.stop
  step : span.step ≠ 0

theorem holds_of_boundOrOne {cs : List Char} {n : Int} (h : boundOrOne cs = .ok n) :
    Number.signed64.holds n := by
  unfold boundOrOne intArgOr at h
  split at h
  · cases h
    decide
  · exact holds_of_intArg h

theorem written_of_ofLimits {start stop step : Int} {span : Span} (h : ofLimits start stop step = .ok span)
    (hstart : Number.signed64.holds start) (hstop : Number.signed64.holds stop) : span.Written := by
  unfold ofLimits at h
  split at h
  · cases h
  · cases h
    exact ⟨hstart, hstop, by assumption⟩

theorem written_of_parse {spec : String} {span : Span} (h : parse spec = .ok span) : span.Written := by
  unfold parse at h
  split at h
  · obtain ⟨stop, hstop, hspan⟩ := exists_ok_of_bind h
    exact written_of_ofLimits hspan (by decide) (holds_of_intArg hstop)
  · obtain ⟨first, hfirst, hrest⟩ := exists_ok_of_bind h
    obtain ⟨stride, -, hrest⟩ := exists_ok_of_bind hrest
    obtain ⟨stop, hstop, hspan⟩ := exists_ok_of_bind hrest
    exact written_of_ofLimits hspan (holds_of_boundOrOne hfirst) (holds_of_intArg hstop)
  · cases h

theorem step_ne_zero_of_parse {spec : String} {span : Span} (h : parse spec = .ok span) :
    span.step ≠ 0 :=
  (written_of_parse h).step

def mostValues : Nat := 18446744073709551615

/- The values of a span are at least one apart. -/
theorem size_le_distance (span : Span) :
    span.size ≤ (if 0 < span.step then span.stop - span.start else span.start - span.stop).toNat := by
  simp only [size]
  generalize (if 0 < span.step then span.stop - span.start else span.start - span.stop).toNat = a
  cases span.step.natAbs with
  | zero => simp
  | succ s =>
    cases a with
    | zero => exact Nat.le_of_eq (Nat.div_eq_of_lt (by omega))
    | succ a =>
      refine Nat.div_le_of_le_mul ?_
      have hle : a ≤ (s + 1) * a := Nat.le_mul_of_pos_left a (Nat.succ_pos s)
      rw [Nat.mul_add]
      omega

theorem Written.size_le {span : Span} (h : span.Written) : span.size ≤ mostValues := by
  have hstart := Number.holds_signed64_iff.1 h.start
  have hstop := Number.holds_signed64_iff.1 h.stop
  refine Nat.le_trans span.size_le_distance ?_
  unfold mostValues
  split <;> omega

end Span

namespace Cursor

theorem step_of_pull {c d : Cursor} {next : Option Int} (h : c.pull = (next, d)) :
    d.step = c.step := by
  have hstep : c.pull.2.step = c.step := by
    unfold pull
    split
    · rfl
    · split <;> rfl
  rwa [h] at hstep

theorem size_pull_lt {c d : Cursor} {i : Int} (hstep : c.step ≠ 0) (h : c.pull = (some i, d)) :
    d.size < c.size := by
  obtain ⟨next, stop, step⟩ := c
  cases next with
  | none => cases h
  | some n =>
    simp only [pull] at h
    split at h
    · rename_i hbefore
      cases h
      have hsize : Cursor.size ⟨some i, stop, step⟩ =
          Span.size { start := i + step, stop, step } + 1 := Span.size_eq_succ hstep hbefore
      rw [hsize]
      unfold Cursor.size
      split
      · rename_i m hm
        split at hm
        · cases hm
          exact Nat.lt_succ_self _
        · cases hm
      · exact Nat.succ_pos _
    · cases h

theorem take_of_pull_none {c d : Cursor} (h : c.pull = (none, d)) (n : Nat) : (c.take n).1 = [] := by
  cases n with
  | zero => rfl
  | succ n => simp only [take, h]

theorem take_of_pull_some {c d : Cursor} {i : Int} (h : c.pull = (some i, d)) (n : Nat) :
    (c.take (n + 1)).1 = i :: (d.take n).1 := by
  simp only [take, h]

/-! ### The values to come -/

def rest (c : Cursor) : List Int :=
  (c.take c.size).1

theorem take_eq_take {c : Cursor} (hstep : c.step ≠ 0) {n m : Nat} (hn : c.size ≤ n) (hm : c.size ≤ m) :
    (c.take n).1 = (c.take m).1 := by
  induction n generalizing c m with
  | zero =>
    rcases hp : c.pull with ⟨next, d⟩
    cases next with
    | none => rw [take_of_pull_none hp, take_of_pull_none hp]
    | some i =>
      have hlt := size_pull_lt hstep hp
      omega
  | succ n ih =>
    rcases hp : c.pull with ⟨next, d⟩
    cases next with
    | none => rw [take_of_pull_none hp, take_of_pull_none hp]
    | some i =>
      have hlt := size_pull_lt hstep hp
      obtain ⟨j, rfl⟩ : ∃ j, m = j + 1 := ⟨m - 1, by omega⟩
      have hstep' : d.step ≠ 0 := by rw [step_of_pull hp]; exact hstep
      rw [take_of_pull_some hp, take_of_pull_some hp, ih hstep' (show d.size ≤ n by omega)
        (show d.size ≤ j by omega)]

theorem rest_of_pull_none {c d : Cursor} (h : c.pull = (none, d)) : c.rest = [] :=
  take_of_pull_none h _

theorem rest_of_pull_some {c d : Cursor} {i : Int} (hstep : c.step ≠ 0) (h : c.pull = (some i, d)) :
    c.rest = i :: d.rest := by
  have hlt := size_pull_lt hstep h
  have hstep' : d.step ≠ 0 := by rw [step_of_pull h]; exact hstep
  obtain ⟨m, hm⟩ : ∃ m, c.size = m + 1 := ⟨c.size - 1, by omega⟩
  have hrest : (d.take m).1 = (d.take d.size).1 := take_eq_take hstep' (by omega) (Nat.le_refl _)
  rw [rest, hm, take_of_pull_some h, hrest]
  rfl

end Cursor

end Stencil
