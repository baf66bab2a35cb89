import Mathlib.Data.List.Infix
import Stencil.Proofs.Pieces
import Stencil.Proofs.Slices

/-!
# Texts that write spans

A span is written as its end alone or as three tokens between commas. Reading follows the number of tokens, and
every text has one way of being cut into them, so that what is read is what is written and nothing else is read.
-/

namespace Stencil

namespace Text

/- The tokens are the pieces between the commas. -/
theorem pieces_splitAt (sep : Char) (cs : List Char) : Pieces [sep] cs (splitAt sep cs) :=
  pieces_split (by simp) cs

theorem not_mem_of_mem_splitAt {sep : Char} {cs token : List Char} (h : token ∈ splitAt sep cs) : sep ∉ token := by
  have hpieces := pieces_splitAt sep cs
  rw [← List.singleton_infix_iff]
  exact hpieces.not_infix (by simp) token h

theorem intercalate_splitAt (sep : Char) (cs : List Char) : [sep].intercalate (splitAt sep cs) = cs :=
  (pieces_splitAt sep cs).intercalate_eq

end Text

namespace Span

open Library (StandsFor ThreeTokens Refuses)
open Number (signed64)

/-! ### One token -/

theorem one_token_of_splitAt {spec : String} {token : List Char} (h : Text.splitAt ',' spec.toList = [token]) :
    token = spec.toList ∧ ',' ∉ spec.toList := by
  have hmem : token ∈ Text.splitAt ',' spec.toList := by simp [h]
  have hjoin := Text.intercalate_splitAt ',' spec.toList
  have htoken : token = spec.toList := by simpa [h] using hjoin
  have hcomma := Text.not_mem_of_mem_splitAt hmem
  exact ⟨htoken, htoken ▸ hcomma⟩

theorem parse_one_token {spec : String} (h : ',' ∉ spec.toList) :
    parse spec = (do ofLimits 1 (← intArg spec .invalidArguments "non int index") 1) := by
  rw [parse, Text.splitAt_of_not_mem h]
  simp only [bound, String.ofList_toList]

/-! ### Three tokens -/

theorem three_tokens_of_splitAt {spec : String} {a b c : List Char}
    (h : Text.splitAt ',' spec.toList = [a, b, c]) :
    ThreeTokens spec (String.ofList a) (String.ofList b) (String.ofList c) := by
  have hcomma : ∀ token ∈ [a, b, c], ',' ∉ (String.ofList token).toList := by
    intro token hmem
    rw [String.toList_ofList]
    exact Text.not_mem_of_mem_splitAt (h ▸ hmem)
  have hjoin := Text.intercalate_splitAt ',' spec.toList
  rw [h] at hjoin
  refine ⟨?_, hcomma a (by simp), hcomma b (by simp), hcomma c (by simp)⟩
  rw [← String.toList_inj, ← hjoin]
  simp

theorem parse_three_tokens {spec a b c : String} (h : ThreeTokens spec a b c) :
    parse spec = (do
      let first ← intArgOr a 1 .invalidArguments "non int index"
      let stride ← intArgOr c 1 .invalidArguments "non int index"
      ofLimits first (← intArg b .invalidArguments "non int index") stride) := by
  rw [parse, h.eq, Text.splitAt_three h.begin h.stop h.step]
  simp only [bound, boundOrOne, String.ofList_toList]

/-! ### The grammar -/

/-- The texts that write a span: its end alone, or start, end and step, where a blank start or step is one. -/
inductive Writes : String → Span → Prop
  | stop {spec : String} {stop : Int} (hcomma : ',' ∉ spec.toList) (h : Number.integer? spec = .ok stop) :
    Writes spec { start := 1, stop, step := 1 }
  | limits {spec a b c : String} {start stop step : Int} (h : ThreeTokens spec a b c) (ha : StandsFor a 1 start)
    (hb : Number.integer? b = .ok stop) (hc : StandsFor c 1 step) (hstep : step ≠ 0) :
    Writes spec { start, stop, step }

theorem intArg_of_integer? {text message : String} {kind : Fault.Kind} {n : Int} (h : Number.integer? text = .ok n) :
    intArg text kind message = .ok n := by
  rw [intArg, h]
  rfl

theorem parse_of_writes {spec : String} {span : Span} (h : Writes spec span) : parse spec = .ok span := by
  cases h with
  | stop hcomma hstop =>
    rw [parse_one_token hcomma, intArg_of_integer? hstop]
    rfl
  | limits htokens ha hb hc hstep =>
    rw [parse_three_tokens htokens, ha.intArgOr_eq, hc.intArgOr_eq, intArg_of_integer? hb]
    exact if_neg hstep

theorem of_ofLimits {start stop step : Int} {span : Span} (h : ofLimits start stop step = .ok span) :
    step ≠ 0 ∧ span = { start, stop, step } := by
  unfold ofLimits at h
  split at h
  · cases h
  · rename_i hstep
    exact ⟨hstep, (Except.ok.inj h).symm⟩

theorem writes_of_parse {spec : String} {span : Span} (h : parse spec = .ok span) : Writes spec span := by
  have hparse := h
  unfold parse at h
  split at h
  · rename_i hsplit
    obtain ⟨-, hcomma⟩ := one_token_of_splitAt hsplit
    rw [parse_one_token hcomma] at hparse
    obtain ⟨stop, hstop, hspan⟩ := exists_ok_of_bind hparse
    obtain ⟨-, rfl⟩ := of_ofLimits hspan
    exact .stop hcomma (integer?_of_intArg hstop)
  · rename_i hsplit
    have htokens := three_tokens_of_splitAt hsplit
    rw [parse_three_tokens htokens] at hparse
    obtain ⟨start, hstart, hrest⟩ := exists_ok_of_bind hparse
    obtain ⟨step, hstep, hrest⟩ := exists_ok_of_bind hrest
    obtain ⟨stop, hstop, hspan⟩ := exists_ok_of_bind hrest
    obtain ⟨hne, rfl⟩ := of_ofLimits hspan
    exact .limits htokens (.of_intArgOr hstart) (integer?_of_intArg hstop) (.of_intArgOr hstep) hne
  · cases h

theorem parse_eq_ok_iff {spec : String} {span : Span} : parse spec = .ok span ↔ Writes spec span :=
  ⟨writes_of_parse, parse_of_writes⟩

/- A text that writes no span is refused for its arguments. -/
theorem refuses_of_not_writes {spec : String} (h : ∀ span, ¬ Writes spec span) : Refuses (parse spec) := by
  cases hparse : parse spec with
  | ok span => exact absurd (writes_of_parse hparse) (h span)
  | error e => exact ⟨e, (raises_parse spec e hparse).1, rfl⟩

/-! ### Decimal texts and defaults -/

theorem writes_toString {start stop step : Int} (hstart : signed64.holds start) (hstop : signed64.holds stop)
    (hstep : signed64.holds step) (hne : step ≠ 0) :
    Writes (toString start ++ "," ++ toString stop ++ "," ++ toString step) { start, stop, step } := by
  have htokens : ThreeTokens (toString start ++ "," ++ toString stop ++ "," ++ toString step) (toString start)
      (toString stop) (toString step) :=
    ⟨rfl, Text.comma_not_mem_toString _, Text.comma_not_mem_toString _, Text.comma_not_mem_toString _⟩
  exact .limits htokens (.inl (Number.integer?_toString hstart)) (Number.integer?_toString hstop)
    (.inl (Number.integer?_toString hstep)) hne

/- Both ones are read before the end is, so the end alone decides. -/
theorem parse_between_ones {text : String} (h : ',' ∉ text.toList) : parse ("1," ++ text ++ ",1") = parse text := by
  have hone : StandsFor "1" 1 1 := .inl rfl
  have htokens : ThreeTokens ("1," ++ text ++ ",1") "1" text "1" :=
    ⟨by simp [String.append_assoc], by decide, h, by decide⟩
  rw [parse_three_tokens htokens, hone.intArgOr_eq, parse_one_token h]
  rfl

/-- A text is read as a span exactly when it writes that span, and is refused for its arguments when it writes none.
So the decimal texts of three limits are read back, and an end alone is read like an end between ones, with the same
fault if it is no integer. -/
theorem parse_follows_grammar :
    (∀ spec span, parse spec = .ok span ↔ Writes spec span) ∧
    (∀ spec, (∀ span, ¬ Writes spec span) →
      ∃ e : Fault, e.kind = .invalidArguments ∧ parse spec = .error e) ∧
    (∀ start stop step, signed64.holds start → signed64.holds stop → signed64.holds step → step ≠ 0 →
      parse (toString start ++ "," ++ toString stop ++ "," ++ toString step) = .ok { start, stop, step }) ∧
    ∀ text : String, ',' ∉ text.toList → parse ("1," ++ text ++ ",1") = parse text :=
  ⟨fun _ _ => parse_eq_ok_iff, fun _ h => refuses_of_not_writes h,
    fun _ _ _ hstart hstop hstep hne => parse_of_writes (writes_toString hstart hstop hstep hne),
    fun _ h => parse_between_ones h⟩

/-- Blanks, a plus sign, leading zeros and the least integer; two tokens, and a middle token that is blank. -/
theorem parse_follows_grammar_at_limits :
    Writes " -9223372036854775808 ,+0007,\t" { start := -9223372036854775808, stop := 7, step := 1 } ∧
      parse " -9223372036854775808 ,+0007,\t" = .ok { start := -9223372036854775808, stop := 7, step := 1 } ∧
      (∃ e : Fault, e.kind = .invalidArguments ∧ parse "1,2" = .error e) ∧
      parse "9223372036854775807,-5,-9223372036854775808" =
        .ok { start := 9223372036854775807, stop := -5, step := -9223372036854775808 } ∧
      parse "1,,1" = parse "" := by
  obtain ⟨hgrammar, hrefused, hdecimal, hones⟩ := parse_follows_grammar
  have htokens : ThreeTokens " -9223372036854775808 ,+0007,\t" " -9223372036854775808 " "+0007" "\t" :=
    ⟨rfl, by decide, by decide, by decide⟩
  have hwrites : Writes " -9223372036854775808 ,+0007,\t" { start := -9223372036854775808, stop := 7, step := 1 } :=
    .limits htokens (.inl rfl) rfl (.inr ⟨rfl, rfl⟩) (by decide)
  have hnone : ∀ span, ¬ Writes "1,2" span := by
    intro span h
    cases (hgrammar "1,2" span).2 h
  have hlimits := hdecimal 9223372036854775807 (-5) (-9223372036854775808) (by decide) (by decide) (by decide)
    (by decide)
  have htext : toString (9223372036854775807 : Int) ++ "," ++ toString (-5 : Int) ++ "," ++
      toString (-9223372036854775808 : Int) = "9223372036854775807,-5,-9223372036854775808" := by
    decide +kernel
  rw [htext] at hlimits
  exact ⟨hwrites, (hgrammar _ _).2 hwrites, hrefused "1,2" hnone, hlimits, hones "" (by decide)⟩

end Span

end Stencil
