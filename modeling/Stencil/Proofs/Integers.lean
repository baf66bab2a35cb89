import Stencil.Proofs.Spans

/-!
# Integers read back from their decimal text

Reading takes one digit at a time and checks each number on the way. Those numbers only move away from zero, so
digits whose number fits are read to the end.
-/

namespace Stencil

namespace Text

open Unicode (isBlank)

theorem isBlank_of_graphic {c : Char} (hlow : 0x20 < c.toNat) (hhigh : c.toNat < 0x7f) : isBlank c = false := by
  simp only [isBlank, Unicode.inRanges, Unicode.blankRanges, Unicode.Range.holds, List.any_cons, List.any_nil,
    Bool.or_eq_false_iff, Bool.and_eq_false_iff, decide_eq_false_iff_not, and_true]
  omega

theorem toNat_of_isDigit {c : Char} (h : c.isDigit = true) : 48 ≤ c.toNat ∧ c.toNat ≤ 57 := by
  simpa [Char.isDigit, UInt32.le_iff_toNat_le] using h

theorem isBlank_of_isDigit {c : Char} (h : c.isDigit = true) : isBlank c = false := by
  have hrange := toNat_of_isDigit h
  exact isBlank_of_graphic (by omega) (by omega)

theorem dropWhile_of_no_blank {cs : List Char} (h : ∀ c ∈ cs, isBlank c = false) : cs.dropWhile isBlank = cs := by
  cases cs with
  | nil => rfl
  | cons c rest => exact List.dropWhile_cons_of_neg (by simp [h c List.mem_cons_self])

theorem trim_of_no_blank {cs : List Char} (h : ∀ c ∈ cs, isBlank c = false) : trim cs = cs := by
  have hreverse : ∀ c ∈ cs.reverse, isBlank c = false := fun c hc => h c (List.mem_reverse.1 hc)
  rw [trim, dropWhile_of_no_blank h, dropWhile_of_no_blank hreverse, List.reverse_reverse]

end Text

namespace Number

/-! ### Digits -/

def ofMagnitude (negative : Bool) (n : Nat) : Int :=
  if negative then -n else n

theorem holds_ofMagnitude_of_le {w : Width} {negative : Bool} {n m : Nat} (hzero : w.holds 0)
    (hn : w.holds (ofMagnitude negative n)) (h : m ≤ n) : w.holds (ofMagnitude negative m) := by
  simp only [Width.holds, Bool.and_eq_true, decide_eq_true_eq] at hzero hn ⊢
  cases negative with
  | false =>
    simp only [ofMagnitude, Bool.false_eq_true, if_false] at hn ⊢
    omega
  | true =>
    simp only [ofMagnitude, if_true] at hn ⊢
    omega

theorem le_ofDigitChars (n : Nat) (ds : List Char) : n ≤ Nat.ofDigitChars 10 ds n := by
  have hpow : n ≤ 10 ^ ds.length * n := Nat.le_mul_of_pos_left n (Nat.pow_pos (by decide))
  rw [Nat.ofDigitChars_eq_ofDigitChars_zero]
  omega

theorem next_ofMagnitude (negative : Bool) (n : Nat) (c : Char) :
    (if negative then ofMagnitude negative n * 10 - digitValue c else ofMagnitude negative n * 10 + digitValue c) =
      ofMagnitude negative (10 * n + (c.toNat - '0'.toNat)) := by
  cases negative with
  | false =>
    simp only [ofMagnitude, digitValue, Bool.false_eq_true, if_false]
    omega
  | true =>
    simp only [ofMagnitude, digitValue, if_true]
    omega

theorem readDigits_of_holds {w : Width} {negative : Bool} {n : Nat} {ds : List Char} (hzero : w.holds 0)
    (hds : ∀ c ∈ ds, c.isDigit) (h : w.holds (ofMagnitude negative (Nat.ofDigitChars 10 ds n))) :
    readDigits w negative (ofMagnitude negative n) ds = .ok (ofMagnitude negative (Nat.ofDigitChars 10 ds n)) := by
  induction ds generalizing n with
  | nil => rfl
  | cons c ds ih =>
    rw [Nat.ofDigitChars_cons] at h ⊢
    have hfits := holds_ofMagnitude_of_le hzero h (le_ofDigitChars _ ds)
    rw [readDigits, if_pos (hds c List.mem_cons_self)]
    simp only [next_ofMagnitude]
    rw [if_pos hfits]
    exact ih (fun d hd => hds d (List.mem_cons_of_mem c hd)) h

theorem readInteger_of_digits {w : Width} {ds : List Char} (hne : ds ≠ []) (hds : ∀ c ∈ ds, c.isDigit) :
    readInteger w ds = readDigits w false 0 ds := by
  cases ds with
  | nil => exact absurd rfl hne
  | cons c rest =>
    have hc : c.isDigit := hds c List.mem_cons_self
    have hplus : c ≠ '+' := by
      rintro rfl
      exact absurd hc (by decide)
    have hminus : c ≠ '-' := by
      rintro rfl
      exact absurd hc (by decide)
    unfold readInteger
    split
    · rename_i heq
      cases heq
    · rename_i heq
      exact absurd (List.cons.inj heq).1 hplus
    · rename_i heq
      exact absurd (List.cons.inj heq).1 hminus
    · rename_i heq
      exact absurd (List.cons.inj heq).1 hplus
    · rename_i heq
      exact absurd (List.cons.inj heq).1 hminus
    · rfl

theorem readInteger_of_minus {w : Width} {ds : List Char} (hw : w.least < 0) (hne : ds ≠ []) :
    readInteger w ('-' :: ds) = readDigits w true 0 ds := by
  cases ds with
  | nil => exact absurd rfl hne
  | cons c rest => exact if_pos hw

theorem readInteger_of_plus {w : Width} {ds : List Char} (hne : ds ≠ []) :
    readInteger w ('+' :: ds) = readDigits w false 0 ds := by
  cases ds with
  | nil => exact absurd rfl hne
  | cons c rest => rfl

/-- Digits, at least one, after a sign or none. -/
structure SignedDigits (cs sign digits : List Char) : Prop where
  eq : cs = sign ++ digits
  sign : sign = [] ∨ sign = ['+'] ∨ sign = ['-']
  ne_nil : digits ≠ []
  digits : ∀ c ∈ digits, c.isDigit

def Denotes (cs : List Char) (n : Int) : Prop :=
  ∃ sign digits, SignedDigits cs sign digits ∧
    n = ofMagnitude (decide (sign = ['-'])) (Nat.ofDigitChars 10 digits 0)

theorem Denotes.ne_nil {cs : List Char} {n : Int} (h : Denotes cs n) : cs ≠ [] := by
  obtain ⟨sign, digits, ⟨rfl, -, hne, -⟩, -⟩ := h
  simp [hne]

theorem Denotes.not_blank {cs : List Char} {n : Int} (h : Denotes cs n) {c : Char} (hc : c ∈ cs) :
    Unicode.isBlank c = false := by
  obtain ⟨sign, digits, ⟨rfl, hsign, -, hdigits⟩, -⟩ := h
  rcases List.mem_append.1 hc with hc | hc
  · rcases hsign with rfl | rfl | rfl
    · cases hc
    · obtain rfl := List.mem_singleton.1 hc
      exact Text.isBlank_of_graphic (by decide) (by decide)
    · obtain rfl := List.mem_singleton.1 hc
      exact Text.isBlank_of_graphic (by decide) (by decide)
  · exact Text.isBlank_of_isDigit (hdigits c hc)

/- The check on the way never fails where the number itself fits, so the sign only decides the direction. -/
theorem readInteger_of_denotes {w : Width} {cs : List Char} {n : Int} (hw : w.least < 0) (hzero : w.holds 0)
    (h : Denotes cs n) (hn : w.holds n) : readInteger w cs = .ok n := by
  obtain ⟨sign, digits, ⟨rfl, hsign, hne, hdigits⟩, rfl⟩ := h
  have hread (negative : Bool) (hfits : w.holds (ofMagnitude negative (Nat.ofDigitChars 10 digits 0))) :
      readDigits w negative 0 digits = .ok (ofMagnitude negative (Nat.ofDigitChars 10 digits 0)) := by
    have hstart : ofMagnitude negative 0 = 0 := by cases negative <;> rfl
    have hend := readDigits_of_holds hzero hdigits hfits
    rwa [hstart] at hend
  rcases hsign with rfl | rfl | rfl
  · exact (readInteger_of_digits hne hdigits).trans (hread false hn)
  · exact (readInteger_of_plus hne).trans (hread false hn)
  · exact (readInteger_of_minus hw hne).trans (hread true hn)

theorem digits_of_readDigits {w : Width} (negative : Bool) {k : Nat} {n : Int} {ds : List Char}
    (h : readDigits w negative (ofMagnitude negative k) ds = .ok n) :
    (∀ c ∈ ds, c.isDigit) ∧ n = ofMagnitude negative (Nat.ofDigitChars 10 ds k) := by
  induction ds generalizing k with
  | nil => exact ⟨by simp, (Except.ok.inj h).symm⟩
  | cons c ds ih =>
    simp only [readDigits, next_ofMagnitude] at h
    split at h
    · rename_i hc
      split at h
      · obtain ⟨hds, hn⟩ := ih h
        exact ⟨List.forall_mem_cons.2 ⟨hc, hds⟩, by rw [hn, Nat.ofDigitChars_cons]⟩
      · cases h
    · cases h

theorem denotes_of_readInteger {w : Width} {cs : List Char} {n : Int} (h : readInteger w cs = .ok n) :
    Denotes cs n := by
  unfold readInteger at h
  split at h
  · cases h
  · cases h
  · cases h
  · rename_i digits hne
    obtain ⟨hdigits, hn⟩ := digits_of_readDigits false (k := 0) h
    exact ⟨['+'], digits, ⟨rfl, by simp, hne, hdigits⟩, hn⟩
  · rename_i digits hne
    split at h
    · obtain ⟨hdigits, hn⟩ := digits_of_readDigits true (k := 0) h
      exact ⟨['-'], digits, ⟨rfl, by simp, hne, hdigits⟩, hn⟩
    · cases h
  · rename_i hne _ _ _ _
    obtain ⟨hdigits, hn⟩ := digits_of_readDigits false (k := 0) h
    exact ⟨[], _, ⟨rfl, by simp, hne, hdigits⟩, hn⟩

/- The decimal text of an integer is its digits, after a minus sign if it is negative. -/
theorem toList_toString (n : Int) :
    (toString n).toList = (if n < 0 then ['-'] else []) ++ Nat.toDigits 10 n.natAbs := by
  cases n with
  | ofNat n =>
    rw [if_neg (by simp)]
    exact Nat.toList_repr
  | negSucc n =>
    have htext : toString (Int.negSucc n) = "-" ++ Nat.repr (n + 1) := rfl
    rw [if_pos (Int.negSucc_lt_zero n), htext, String.toList_append, Nat.toList_repr]
    rfl

theorem isDigit_of_mem_digits {n : Nat} {c : Char} (h : c ∈ Nat.toDigits 10 n) : c.isDigit :=
  Nat.isDigit_of_mem_toDigits (by decide) (by decide) h

theorem mem_toString {n : Int} {c : Char} (h : c ∈ (toString n).toList) : c = '-' ∨ c.isDigit := by
  rw [toList_toString] at h
  rcases List.mem_append.1 h with hsign | hdigit
  · split at hsign
    · exact .inl (List.mem_singleton.1 hsign)
    · cases hsign
  · exact .inr (isDigit_of_mem_digits hdigit)

theorem denotes_toString (n : Int) : Denotes (toString n).toList n := by
  refine ⟨if n < 0 then ['-'] else [], Nat.toDigits 10 n.natAbs,
    ⟨toList_toString n, ?_, Nat.toDigits_ne_nil, fun c hc => isDigit_of_mem_digits hc⟩, ?_⟩
  · split
    · exact .inr (.inr rfl)
    · exact .inl rfl
  · have hvalue : Nat.ofDigitChars 10 (Nat.toDigits 10 n.natAbs) 0 = n.natAbs := Nat.ofDigitChars_ten_toDigits
    rw [hvalue, ofMagnitude]
    by_cases hneg : n < 0
    · simp only [hneg, if_true, decide_true]
      omega
    · simp only [hneg, if_false, List.nil_eq, List.cons_ne_nil, decide_false, Bool.false_eq_true]
      omega

theorem integer?_toString {n : Int} (h : signed64.holds n) : integer? (toString n) = .ok n := by
  have hdenotes := denotes_toString n
  rw [integer?, Text.trim_of_no_blank fun c hc => hdenotes.not_blank hc]
  exact readInteger_of_denotes (by decide) (by decide) hdenotes h

theorem toString_inj {n m : Int} (hn : signed64.holds n) (hm : signed64.holds m) (h : toString n = toString m) :
    n = m := by
  have hread := integer?_toString hn
  rw [h, integer?_toString hm] at hread
  exact (Except.ok.inj hread).symm

end Number

end Stencil
