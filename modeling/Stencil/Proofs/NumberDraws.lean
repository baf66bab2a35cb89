import Stencil.Library.Chance
import Stencil.Proofs.Stepping

/-!
# Numbers drawn from a span

`num` does not walk its span. It counts the values by a division and jumps to the one that a draw picks. The count
is the number of pulls that give a value, and the jump ends where that many pulls would.
-/

namespace Stencil

/-! ### Draws -/

namespace Draw

theorem index_lt (d : Draw) {count : Nat} (h : 0 < count) : d.index count < count := by
  have hd : d.toNat < drawCount := d.toNat_lt
  have hmul : d.toNat * count < drawCount * count := Nat.mul_lt_mul_of_pos_right hd h
  exact Nat.div_lt_of_lt_mul hmul

/- The least draw that picks an index is the share of the indices before it, rounded up. -/
theorem exists_index {count i : Nat} (hcount : count ≤ drawCount) (hi : i < count) :
    ∃ d : Draw, d.index count = i := by
  have hpos : 0 < count := by omega
  obtain ⟨n, hn⟩ : ∃ n, n = (i * drawCount + count - 1) / count := ⟨_, rfl⟩
  have hdiv : n * count + (i * drawCount + count - 1) % count = i * drawCount + count - 1 := by
    rw [hn]
    exact Nat.div_add_mod' _ _
  have hmod : (i * drawCount + count - 1) % count < count := Nat.mod_lt _ hpos
  have hshare : (i + 1) * drawCount ≤ count * drawCount := Nat.mul_le_mul_right drawCount hi
  rw [Nat.succ_mul] at hshare
  have hlt : n < drawCount := by
    have hmul : n * count < drawCount * count := by
      rw [Nat.mul_comm drawCount count]
      omega
    exact Nat.lt_of_mul_lt_mul_right hmul
  have htoNat : (UInt64.ofNat n).toNat = n := Nat.mod_eq_of_lt hlt
  refine ⟨UInt64.ofNat n, ?_⟩
  rw [index, htoNat]
  apply Nat.div_eq_of_lt_le
  · omega
  · rw [Nat.succ_mul]
    omega

theorem exists_index_iff {count : Nat} (hpos : 0 < count) (hcount : count ≤ drawCount) (i : Nat) :
    (∃ d : Draw, d.index count = i) ↔ i < count := by
  constructor
  · rintro ⟨d, rfl⟩
    exact d.index_lt hpos
  · exact exists_index hcount

end Draw

namespace World

def nextDraw (w : World) : Draw :=
  w.supply.draw w.supply.drawn

def afterDraw (w : World) : World :=
  { w with supply := { w.supply with drawn := w.supply.drawn + 1 } }

end World

namespace Library

open Number (signed64)

/-! ### The count of a span -/

/- The closed form looks at signs to tell a span that points toward its end. That is a positive length in the
direction of the step, over which both forms round up alike. -/
theorem valueCount?_of_step {span : Span} (hstep : span.step ≠ 0) :
    valueCount? span = signed64.fit? span.size := by
  have hs : 0 < span.step.natAbs := Int.natAbs_pos.2 hstep
  simp only [valueCount?, if_neg hstep, Span.size]
  generalize hd : (if 0 < span.step then span.stop - span.start else span.start - span.stop) = d
  have htoward : (decide (0 < span.stop - span.start) == decide (0 < span.step) &&
      decide (span.stop - span.start ≠ 0)) = true ↔ 0 < d := by
    simp only [Bool.and_eq_true, beq_iff_eq, decide_eq_decide, decide_eq_true_eq]
    split at hd <;> omega
  by_cases h : 0 < d
  · have hlength : (span.stop - span.start).natAbs = d.toNat := by
      split at hd <;> omega
    have hsum : ((span.stop - span.start).natAbs : Int) + span.step.natAbs - 1 =
        ((d.toNat + span.step.natAbs - 1 : Nat) : Int) := by omega
    rw [if_pos (htoward.2 h), hsum, Int.ofNat_tdiv]
  · have hzero : (d.toNat + span.step.natAbs - 1) / span.step.natAbs = 0 := Nat.div_eq_of_lt (by omega)
    rw [if_neg (mt htoward.1 h), hzero]
    rfl

theorem step_ne_zero_of_valueCount? {span : Span} {count : Int} (h : valueCount? span = some count) :
    span.step ≠ 0 := by
  intro hzero
  rw [valueCount?, if_pos hzero] at h
  cases h

theorem eq_size_of_valueCount? {span : Span} {count : Int} (h : valueCount? span = some count) :
    count = span.size := by
  rw [valueCount?_of_step (step_ne_zero_of_valueCount? h), Number.Width.fit?] at h
  split at h
  · exact (Option.some.inj h).symm
  · cases h

theorem drawCount?_of_fits {span : Span} (hstep : span.step ≠ 0) (hpos : 0 < span.size)
    (hfits : signed64.holds span.size) : drawCount? span = some span.size := by
  rw [drawCount?, valueCount?_of_step hstep, Number.fit?_of_holds hfits]
  simp [hpos]

theorem drawCount?_of_not_fits {span : Span}
    (h : span.step = 0 ∨ span.size = 0 ∨ ¬ signed64.holds span.size) : drawCount? span = none := by
  rw [drawCount?]
  by_cases hstep : span.step = 0
  · rw [valueCount?, if_pos hstep]
    rfl
  · rw [valueCount?_of_step hstep]
    rcases h with h | h | h
    · exact absurd h hstep
    · rw [h]
      rfl
    · rw [Number.fit?_of_not_holds h]
      rfl

/-! ### Drawing -/

/-- The arguments of `num` ask for a value of this span, by texts or by default. -/
structure AsksFor (args : Arguments) (span : Span) : Prop where
  start : numBound args 0 "min" 0 = .ok span.start
  stop : numBound args 1 "max" 100 = .ok span.stop
  step : numBound args 2 "step" 1 = .ok span.step

theorem holds_of_numBound {args : Arguments} {index : Nat} {name : String} {default n : Int}
    (hdefault : signed64.holds default) (h : numBound args index name default = .ok n) : signed64.holds n := by
  unfold numBound at h
  split at h
  · exact holds_of_intArg h
  · cases h
    exact hdefault

theorem le_drawCount {n : Nat} (h : signed64.holds n) : n ≤ drawCount := by
  have hle := (Number.holds_signed64_iff.1 h).2
  unfold drawCount
  omega

namespace AsksFor

variable {args : Arguments} {span : Span}

theorem written (h : AsksFor args span) (hstep : span.step ≠ 0) : span.Written :=
  ⟨holds_of_numBound (by decide) h.start, holds_of_numBound (by decide) h.stop, hstep⟩

theorem num_eq (h : AsksFor args span) (site : CallSite) :
    num site args =
      match drawCount? span with
      | some count => do
        let d ← Action.draw
        return .text (toString (span.value (d.index count)))
      | none => Act.raise (Fault.ofKind .invalidRange) := by
  unfold num
  rw [h.start, h.stop, h.step]
  rfl

theorem num_of_none (h : AsksFor args span) (hcount : drawCount? span = none) (site : CallSite) (w : World) :
    num site args w = .error (.fault (Fault.ofKind .invalidRange)) w := by
  rw [h.num_eq, hcount]
  rfl

theorem num_of_some (h : AsksFor args span) {count : Nat} (hcount : drawCount? span = some count) (site : CallSite)
    (w : World) :
    num site args w = .ok (.text (toString (span.value (w.nextDraw.index count)))) w.afterDraw := by
  rw [h.num_eq, hcount]
  rfl

/- From here on the span has values, as many as 64 bits can count. -/
variable (h : AsksFor args span) (hstep : span.step ≠ 0) (hpos : 0 < span.size) (hfits : signed64.holds span.size)
include h hstep hpos hfits

theorem num_of_fits (site : CallSite) (w : World) :
    num site args w = .ok (.text (toString (span.value (w.nextDraw.index span.size)))) w.afterDraw :=
  h.num_of_some (drawCount?_of_fits hstep hpos hfits) site w

theorem outcomes_eq (site : CallSite) (w : World) :
    {t | ∃ supply v, num site args { w with supply } = .ok (.text t) v} =
      {t | ∃ i ∈ span.values, t = toString i} := by
  have hnum := h.num_of_fits hstep hpos hfits site
  have hmem := fun i => Span.mem_values_iff (h.written hstep) (i := i)
  ext t
  constructor
  · rintro ⟨supply, v, hv⟩
    rw [hnum] at hv
    cases hv
    exact ⟨_, (hmem _).2 ⟨_, Draw.index_lt _ hpos, rfl⟩, rfl⟩
  · rintro ⟨i, hi, rfl⟩
    obtain ⟨k, hk, rfl⟩ := (hmem i).1 hi
    obtain ⟨d, rfl⟩ := Draw.exists_index (le_drawCount hfits) hk
    exact ⟨{ w.supply with draw := fun _ => d }, _, hnum _⟩

theorem index_eq_of_num_eq (site : CallSite) {t : String} {v w x y : World}
    (hv : num site args v = .ok (.text t) x) (hw : num site args w = .ok (.text t) y) :
    v.nextDraw.index span.size = w.nextDraw.index span.size := by
  have hvalue : ∀ u : World, signed64.holds (span.value (u.nextDraw.index span.size)) :=
    fun u => Span.holds_value (h.written hstep) (u.nextDraw.index_lt hpos)
  rw [h.num_of_fits hstep hpos hfits] at hv hw
  have hv' := Value.text.inj (EStateM.Result.ok.inj hv).1
  have hw' := Value.text.inj (EStateM.Result.ok.inj hw).1
  exact Span.value_inj hstep (Number.toString_inj (hvalue v) (hvalue w) (hv'.trans hw'.symm))

end AsksFor

/-- `num` draws from the values of its span, each of them by one index. With `n` values that is for every span
but one with a zero step, without values, or with more than 64 bits can count; any such one is an invalid range. A
count by `valueCount?` is always `n`. -/
theorem num_draws_each_value (site : CallSite) {args : Arguments} {span : Span} (h : AsksFor args span) :
    let n := span.values.length
    (span.step ≠ 0 → ∀ k, (span.cursor.after k).pull.1 = span.values[k]?) ∧
    (∀ count, valueCount? span = some count → count = n) ∧
    (¬ (span.step ≠ 0 ∧ 1 ≤ n ∧ signed64.holds n) →
      ∀ w, num site args w = .error (.fault (Fault.ofKind .invalidRange)) w) ∧
    (span.step ≠ 0 ∧ 1 ≤ n ∧ signed64.holds n →
      (∀ i ∈ span.values, signed64.holds i) ∧
      (∀ o, (∃ d : Draw, d.index n = o) ↔ o < n) ∧
      (∀ w, ∃ i, span.values[w.nextDraw.index n]? = some i ∧
        num site args w = .ok (.text (toString i)) w.afterDraw) ∧
      (∀ w : World, {t | ∃ supply v, num site args { w with supply } = .ok (.text t) v} =
        {t | ∃ i ∈ span.values, t = toString i}) ∧
      (∀ t v w x y, num site args v = .ok (.text t) x → num site args w = .ok (.text t) y →
        v.nextDraw.index n = w.nextDraw.index n)) := by
  intro n
  have hn : span.step ≠ 0 → n = span.size := fun hstep => Span.length_values (h.written hstep)
  refine ⟨fun hstep => Span.pull_after (h.written hstep), fun count hcount => ?_, fun hnot w => ?_, ?_⟩
  · rw [hn (step_ne_zero_of_valueCount? hcount)]
    exact eq_size_of_valueCount? hcount
  · refine h.num_of_none (drawCount?_of_not_fits ?_) site w
    by_cases hstep : span.step = 0
    · exact .inl hstep
    · rw [hn hstep] at hnot
      by_cases hsize : span.size = 0
      · exact .inr (.inl hsize)
      · exact .inr (.inr fun hfits => hnot ⟨hstep, by omega, hfits⟩)
  · rintro ⟨hstep, hpos, hfits⟩
    have hwritten := h.written hstep
    rw [hn hstep] at hpos hfits ⊢
    refine ⟨?_, Draw.exists_index_iff hpos (le_drawCount hfits), fun w => ?_,
      h.outcomes_eq hstep hpos hfits site, fun t v w x y => h.index_eq_of_num_eq hstep hpos hfits site⟩
    · intro i hi
      obtain ⟨k, hk, rfl⟩ := (Span.mem_values_iff hwritten).1 hi
      exact Span.holds_value hwritten hk
    · refine ⟨_, ?_, h.num_of_fits hstep hpos hfits site w⟩
      rw [← Span.pull_after hwritten]
      exact Span.pull_after_of_lt hwritten (w.nextDraw.index_lt hpos)

/-- From the greatest integer to the least in four steps: the next one would not fit, and the draws reach all four
values. -/
theorem num_draws_each_value_descending :
    let args : Arguments :=
      { positional := ["9223372036854775807", "-9223372036854775808", "-4611686018427387904"] }
    let span : Span :=
      { start := 9223372036854775807, stop := -9223372036854775808, step := -4611686018427387904 }
    AsksFor args span ∧ span.values = [9223372036854775807, 4611686018427387903, -1, -4611686018427387905] ∧
      ∀ (site : CallSite) (w : World), {t | ∃ supply v, num site args { w with supply } = .ok (.text t) v} =
        {t | ∃ i ∈ span.values, t = toString i} := by
  intro args span
  have h : AsksFor args span := ⟨rfl, rfl, rfl⟩
  have hvalues : span.values = [9223372036854775807, 4611686018427387903, -1, -4611686018427387905] := by
    decide +kernel
  refine ⟨h, hvalues, fun site w => ?_⟩
  obtain ⟨-, -, -, hdraws⟩ := num_draws_each_value site h
  exact (hdraws ⟨by decide, by decide, by decide⟩).2.2.2.1 w

end Library

end Stencil
