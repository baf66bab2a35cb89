import Stencil.Pattern.Basic

/-!
# What patterns match

A pattern matches from one place of a text to another by rules on its parts. `reach` finds exactly the places where a
match ends; for repetition without limit that takes no more steps than the text has places.
-/

namespace Stencil.Pattern

def Steps (r : Nat → Nat → Prop) : (n : Nat) → Nat → Nat → Prop
  | 0, i, j => i = j
  | n + 1, i, k => ∃ j, r i j ∧ Steps r n j k

/-- The pattern matches the part of a text from one place to another. A repetition takes any number of matches between
its bounds. -/
def Expr.Spans (text : Array Char) : Expr → Nat → Nat → Prop
  | .empty, i, j => i = j
  | .chars k, i, j => charAfter text i k.holds ∧ j = i + 1
  | .look a, i, j => a.holds text i ∧ i = j
  | .seq p q, i, k => ∃ j, p.Spans text i j ∧ q.Spans text j k
  | .alt p q, i, j => p.Spans text i j ∨ q.Spans text i j
  | .rep p least most, i, j =>
    ∃ n, least ≤ n ∧ (∀ m, most = some m → n ≤ max least m) ∧ Steps (p.Spans text) n i j

/-! ### Steps -/

namespace Steps

variable {r : Nat → Nat → Prop} {i j k : Nat}

theorem append {n m : Nat} (h : Steps r n i j) (h' : Steps r m j k) : Steps r (n + m) i k := by
  induction n generalizing i with
  | zero =>
    obtain rfl : i = j := h
    rwa [Nat.zero_add]
  | succ n ih =>
    obtain ⟨l, hl, hrest⟩ := h
    rw [Nat.succ_add]
    exact ⟨l, hl, ih hrest⟩

theorem split {n m : Nat} (h : Steps r (n + m) i k) : ∃ j, Steps r n i j ∧ Steps r m j k := by
  induction n generalizing i with
  | zero =>
    rw [Nat.zero_add] at h
    exact ⟨i, rfl, h⟩
  | succ n ih =>
    rw [Nat.succ_add] at h
    obtain ⟨l, hl, hrest⟩ := h
    obtain ⟨j, hj, hk⟩ := ih hrest
    exact ⟨j, ⟨l, hl, hj⟩, hk⟩

theorem related {q : Nat → Nat → Prop} (hrefl : ∀ i, q i i) (hcons : ∀ i l k, r i l → q l k → q i k) {n : Nat}
    (h : Steps r n i j) : q i j := by
  induction n generalizing i with
  | zero =>
    obtain rfl : i = j := h
    exact hrefl i
  | succ n ih =>
    obtain ⟨l, hl, hrest⟩ := h
    exact hcons i l j hl (ih hrest)

theorem le (hr : ∀ i j, r i j → i ≤ j) {n : Nat} (h : Steps r n i j) : i ≤ j :=
  h.related Nat.le_refl fun i l _ hil hlk => Nat.le_trans (hr i l hil) hlk

theorem mem_of_closed {s : Places} (hs : ∀ i ∈ s, ∀ j, r i j → j ∈ s) {n : Nat} (h : Steps r n i j) :
    i ∈ s → j ∈ s :=
  h.related (q := fun i j => i ∈ s → j ∈ s) (fun _ hi => hi) fun i l _ hil hlk hi => hlk (hs i hi l hil)

/- Steps that stay in place can be left out. -/
theorem exists_short (hr : ∀ i j, r i j → i ≤ j) {n : Nat} (h : Steps r n i j) : ∃ m ≤ j - i, Steps r m i j := by
  induction n generalizing i with
  | zero => exact ⟨0, Nat.zero_le _, h⟩
  | succ n ih =>
    obtain ⟨l, hl, hrest⟩ := h
    have hil := hr i l hl
    have hlj := le hr hrest
    obtain ⟨m, hm, hshort⟩ := ih hrest
    by_cases heq : i = l
    · subst heq
      exact ⟨m, hm, hshort⟩
    · exact ⟨m + 1, by omega, l, hl, hshort⟩

end Steps

theorem Expr.Spans.bounds {text : Array Char} {e : Expr} {i j : Nat} (h : e.Spans text i j) :
    i ≤ j ∧ (i = j ∨ j ≤ text.size) := by
  induction e generalizing i j with
  | empty =>
    obtain rfl : i = j := h
    omega
  | chars k =>
    obtain ⟨hchar, rfl⟩ := h
    have hinside : i < text.size := by
      apply Nat.lt_of_not_le
      intro hout
      simp [charAfter, Array.getElem?_eq_none hout] at hchar
    omega
  | look a =>
    obtain ⟨-, rfl⟩ := h
    omega
  | seq p q ihp ihq =>
    obtain ⟨k, hp, hq⟩ := h
    have := ihp hp
    have := ihq hq
    omega
  | alt p q ihp ihq =>
    rcases h with h | h
    · exact ihp h
    · exact ihq h
  | rep p least most ih =>
    obtain ⟨n, -, -, hsteps⟩ := h
    refine hsteps.related (q := fun i j => i ≤ j ∧ (i = j ∨ j ≤ text.size)) (fun i => by omega) fun i l k hil hlk => ?_
    have := ih hil
    omega

/-! ### Sets of places -/

theorem mem_insert {i j : Nat} {s : Places} : j ∈ Places.insert i s ↔ j = i ∨ j ∈ s := by
  induction s with
  | nil => simp [Places.insert]
  | cons k rest ih => grind [Places.insert]

theorem mem_union {j : Nat} {a b : Places} : j ∈ Places.union a b ↔ j ∈ a ∨ j ∈ b := by
  unfold Places.union
  induction b generalizing a with
  | nil => simp
  | cons i rest ih =>
    rw [List.foldl_cons, ih, mem_insert, List.mem_cons]
    grind

section Steps

variable {r : Nat → Nat → Prop} {step : Places → Places} (hstep : ∀ s j, j ∈ step s ↔ ∃ i ∈ s, r i j)

include hstep

theorem exists_steps_succ {n : Nat} {s : Places} {j : Nat} :
    (∃ i ∈ s, Steps r (n + 1) i j) ↔ ∃ k ∈ step s, Steps r n k j := by
  constructor
  · rintro ⟨i, hi, k, hik, hsteps⟩
    exact ⟨k, (hstep s k).2 ⟨i, hi, hik⟩, hsteps⟩
  · rintro ⟨k, hk, hsteps⟩
    obtain ⟨i, hi, hik⟩ := (hstep s k).1 hk
    exact ⟨i, hi, k, hik, hsteps⟩

theorem mem_of_fixed {s : Places} (h : step s = s) (n : Nat) {j : Nat} : j ∈ s ↔ ∃ i ∈ s, Steps r n i j := by
  induction n with
  | zero => simp [Steps]
  | succ n ih => rw [exists_steps_succ hstep, h, ih]

theorem mem_times {n : Nat} {s : Places} {j : Nat} : j ∈ times step n s ↔ ∃ i ∈ s, Steps r n i j := by
  induction n generalizing s with
  | zero => simp [times, Steps]
  | succ n ih =>
    rw [times]
    split
    · rename_i hfixed
      exact mem_of_fixed hstep hfixed (n + 1)
    · rw [ih, exists_steps_succ hstep]

/- All places within `m` steps are seen, and only the fresh ones may lead to new ones. -/
theorem mem_upTo {start : Places} {n m : Nat} {seen fresh : Places}
    (hseen : ∀ j, j ∈ seen ↔ ∃ i ∈ start, ∃ k ≤ m, Steps r k i j) (hfresh : ∀ j ∈ fresh, j ∈ seen)
    (hclosed : ∀ i ∈ seen, i ∉ fresh → ∀ j, r i j → j ∈ seen) {j : Nat} :
    j ∈ upTo step n seen fresh ↔ ∃ i ∈ start, ∃ k ≤ m + n, Steps r k i j := by
  induction n generalizing m seen fresh with
  | zero => exact hseen j
  | succ n ih =>
    let next := (step fresh).filter fun i => !seen.contains i
    have hnext : ∀ j, j ∈ next ↔ (∃ i ∈ fresh, r i j) ∧ j ∉ seen := by
      intro j
      simp [next, hstep]
    -- A step from a seen place leads to a seen or a next one.
    have hstepped : ∀ i ∈ seen, ∀ j, r i j → j ∈ seen ∨ j ∈ next := by
      intro i hi j hij
      by_cases hj : j ∈ seen
      · exact .inl hj
      · by_cases hif : i ∈ fresh
        · exact .inr ((hnext j).2 ⟨⟨i, hif, hij⟩, hj⟩)
        · exact .inl (hclosed i hi hif j hij)
    show j ∈ (if next.isEmpty then seen else upTo step n (Places.union seen next) next) ↔ _
    split
    · rename_i hempty
      have hnone : next = [] := List.isEmpty_iff.1 hempty
      have hstay : ∀ i ∈ seen, ∀ j, r i j → j ∈ seen := by
        intro i hi j hij
        rcases hstepped i hi j hij with hj | hj
        · exact hj
        · simp [hnone] at hj
      constructor
      · intro hj
        obtain ⟨i, hi, k, hk, hsteps⟩ := (hseen j).1 hj
        exact ⟨i, hi, k, by omega, hsteps⟩
      · rintro ⟨i, hi, k, -, hsteps⟩
        exact hsteps.mem_of_closed hstay ((hseen i).2 ⟨i, hi, 0, Nat.zero_le m, rfl⟩)
    · rw [show m + (n + 1) = m + 1 + n by omega]
      refine ih (fun j => ?_) (fun j hj => mem_union.2 (.inr hj)) (fun i hi hinext j hij => ?_)
      · rw [mem_union]
        constructor
        · rintro (hj | hj)
          · obtain ⟨i, hi, k, hk, hsteps⟩ := (hseen j).1 hj
            exact ⟨i, hi, k, by omega, hsteps⟩
          · obtain ⟨⟨l, hl, hlj⟩, -⟩ := (hnext j).1 hj
            obtain ⟨i, hi, k, hk, hsteps⟩ := (hseen l).1 (hfresh l hl)
            exact ⟨i, hi, k + 1, by omega, hsteps.append ⟨j, hlj, rfl⟩⟩
        · rintro ⟨i, hi, k, hk, hsteps⟩
          cases k with
          | zero => exact .inl ((hseen j).2 ⟨i, hi, 0, Nat.zero_le m, hsteps⟩)
          | succ k =>
            obtain ⟨l, hil, l', hlj, rfl⟩ := hsteps.split
            exact hstepped l ((hseen l).2 ⟨i, hi, k, by omega, hil⟩) _ hlj
      · rcases mem_union.1 hi with hi | hi
        · exact mem_union.2 (hstepped i hi j hij)
        · exact absurd hi hinext

theorem mem_upTo_start {start : Places} {n j : Nat} :
    j ∈ upTo step n start start ↔ ∃ i ∈ start, ∃ k ≤ n, Steps r k i j := by
  have hstart : ∀ j, j ∈ start ↔ ∃ i ∈ start, ∃ k ≤ 0, Steps r k i j := by
    intro j
    constructor
    · intro hj
      exact ⟨j, hj, 0, Nat.le_refl 0, rfl⟩
    · rintro ⟨i, hi, k, hk, hsteps⟩
      obtain rfl : k = 0 := by omega
      exact hsteps ▸ hi
  rw [mem_upTo hstep hstart (fun _ hj => hj) (fun i hi hnot => absurd hi hnot), Nat.zero_add]

end Steps

/-! ### Matching -/

theorem mem_reach_iff {text : Array Char} {e : Expr} {s : Places} {j : Nat} :
    j ∈ e.reach text s ↔ ∃ i ∈ s, e.Spans text i j := by
  induction e generalizing s j with
  | empty => simp [Expr.reach, Expr.Spans]
  | chars k =>
    simp only [Expr.reach, Expr.Spans, List.mem_filterMap, Option.ite_none_right_eq_some, Option.some.injEq]
    grind
  | look a =>
    simp only [Expr.reach, Expr.Spans, List.mem_filter]
    grind
  | seq p q ihp ihq =>
    simp only [Expr.reach, Expr.Spans, ihq, ihp]
    grind
  | alt p q ihp ihq =>
    simp only [Expr.reach, Expr.Spans, mem_union, ihp, ihq]
    grind
  | rep p least most ih =>
    have hstep : ∀ s j, j ∈ p.reach text s ↔ ∃ i ∈ s, p.Spans text i j := fun _ _ => ih
    simp only [Expr.reach, Expr.Spans, mem_upTo_start hstep, mem_times hstep]
    constructor
    · rintro ⟨l, ⟨i, hi, hleast⟩, k, hk, hmore⟩
      refine ⟨i, hi, least + k, by omega, ?_, hleast.append hmore⟩
      rintro m rfl
      simp only [Option.elim_some] at hk
      omega
    · rintro ⟨i, hi, n, hn, hmost, hsteps⟩
      obtain ⟨k, rfl⟩ := Nat.exists_eq_add_of_le hn
      obtain ⟨l, hleast, hmore⟩ := hsteps.split
      refine ⟨l, ⟨i, hi, hleast⟩, ?_⟩
      cases most with
      | some m =>
        have hm := hmost m rfl
        exact ⟨k, by simp only [Option.elim_some]; omega, hmore⟩
      | none =>
        -- The places on the way are in the text, so that few steps are enough.
        obtain ⟨k', hk', hshort⟩ := hmore.exists_short fun _ _ h => h.bounds.1
        refine ⟨k', ?_, hshort⟩
        have hbounds := Expr.Spans.bounds (e := .rep p 0 none) ⟨k, Nat.zero_le k, by simp, hmore⟩
        simp only [Option.elim_none]
        omega

theorem Expr.matches_iff {e : Expr} {text : String} :
    e.matches text = true ↔ ∃ i ≤ text.toList.toArray.size, ∃ j, e.Spans text.toList.toArray i j := by
  simp only [Expr.matches, Bool.not_eq_true', List.isEmpty_eq_false_iff_exists_mem, mem_reach_iff, List.mem_range,
    Nat.lt_succ_iff]
  constructor
  · rintro ⟨j, i, hi, h⟩
    exact ⟨i, hi, j, h⟩
  · rintro ⟨i, hi, j, h⟩
    exact ⟨j, i, hi, h⟩

end Stencil.Pattern
