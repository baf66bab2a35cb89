import Stencil.Library.Wording
import Stencil.Proofs.Failures
import Stencil.Proofs.Tokens

/-!
# Slices by position

A slice is stated here by the positions that it takes: those from a begin on, a step apart and before an end, where
begin and end count from the back if they are negative and are moved into the text. All of them lie inside the text.
-/

namespace Stencil

namespace Text

/-! ### Positions -/

/-- An index of a text of `n` characters, counted from the front and moved into the text. -/
def within (n : Nat) (index : Int) : Int :=
  max 0 (min n (if index < 0 then index + n else index))

def positions (first last step : Int) : List Nat :=
  (List.range last.toNat).filter fun p => first ≤ p ∧ step ∣ p - first

theorem clamped_eq_within (index : Int) (n : Nat) : (clamped index n : Int) = within n index := by
  unfold clamped position? within
  split
  · simp only [Option.getD_some]
    omega
  · split
    · simp only [Option.getD_some]
      omega
    · simp only [Option.getD_none]
      omega

theorem clamped_zero (n : Nat) : clamped 0 n = 0 := by
  simp [clamped, position?]

theorem clamped_length (n : Nat) : clamped n n = n := by
  simp [clamped, position?]

theorem getElem?_position? {cs : List Char} {index : Int} (h : -cs.length ≤ index ∧ index < cs.length) :
    ∃ c, cs[(if index < 0 then index + cs.length else index).toNat]? = some c ∧
      (position? index cs.length).bind (fun place => cs[place]?) = some c := by
  have hplace : position? index cs.length =
      some (if index < 0 then index + cs.length else index).toNat := by
    unfold position?
    by_cases hneg : index < 0
    · rw [if_neg (by omega), if_pos (by omega), if_pos hneg]
      congr 1
      omega
    · rw [if_pos (by omega), if_neg hneg]
  have hlt : (if index < 0 then index + cs.length else index).toNat < cs.length := by
    split <;> omega
  rw [hplace, Option.bind_some]
  exact ⟨_, List.getElem?_eq_getElem hlt, List.getElem?_eq_getElem hlt⟩

theorem getElem?_position?_outside {cs : List Char} {index : Int} (h : ¬ (-cs.length ≤ index ∧ index < cs.length)) :
    (position? index cs.length).bind (fun place => cs[place]?) = none := by
  unfold position?
  split
  · simp only [Option.bind_some]
    exact List.getElem?_eq_none (by omega)
  · split
    · omega
    · rfl

/-! ### Every so many characters -/

theorem everyNth_drop (step first : Nat) (cs : List Char) :
    everyNth step 0 (cs.drop first) = everyNth step first cs := by
  induction first generalizing cs with
  | zero => rfl
  | succ first ih =>
    cases cs with
    | nil => rfl
    | cons c rest => exact ih rest

/- After a character the next one comes `step - 1` characters later. -/
theorem mod_succ_eq_zero_iff {step p : Nat} (hstep : 0 < step) :
    (p + 1) % step = 0 ↔ step - 1 ≤ p ∧ (p - (step - 1)) % step = 0 := by
  by_cases h : step ≤ p + 1
  · have hsub : p - (step - 1) = p + 1 - step := by omega
    rw [hsub, Nat.mod_eq_sub_mod h]
    omega
  · rw [Nat.mod_eq_of_lt (by omega)]
    omega

theorem map_everyNth {step : Nat} (hstep : 0 < step) (wait : Nat) (cs : List Char) :
    (everyNth step wait cs).map some =
      ((List.range cs.length).filter fun p => wait ≤ p ∧ (p - wait) % step = 0).map (cs[·]?) := by
  induction cs generalizing wait with
  | nil => simp [everyNth]
  | cons c rest ih =>
    rw [List.length_cons, List.range_succ_eq_map]
    cases wait with
    | zero =>
      have htest : ∀ p, decide (0 ≤ p + 1 ∧ (p + 1 - 0) % step = 0) =
          decide (step - 1 ≤ p ∧ (p - (step - 1)) % step = 0) := by
        intro p
        rw [decide_eq_decide, Nat.sub_zero, mod_succ_eq_zero_iff hstep]
        omega
      rw [everyNth, List.map_cons, ih, List.filter_cons_of_pos (by simp), List.map_cons, List.filter_map,
        List.map_map]
      simp only [Function.comp_def, Nat.succ_eq_add_one, htest, List.getElem?_cons_succ, List.getElem?_cons_zero]
    | succ wait =>
      have htest : ∀ p, decide (wait + 1 ≤ p + 1 ∧ (p + 1 - (wait + 1)) % step = 0) =
          decide (wait ≤ p ∧ (p - wait) % step = 0) := by
        intro p
        rw [decide_eq_decide, Nat.add_sub_add_right]
        omega
      rw [everyNth, ih, List.filter_cons_of_neg (by simp), List.filter_map, List.map_map]
      simp only [Function.comp_def, Nat.succ_eq_add_one, htest, List.getElem?_cons_succ]

theorem everyNth_one (cs : List Char) : everyNth 1 0 cs = cs := by
  induction cs with
  | nil => rfl
  | cons c rest ih => rw [everyNth, ih]

theorem dvd_sub_iff {first step p : Nat} :
    (first ≤ p ∧ (p - first) % step = 0) ↔ ((first : Int) ≤ p ∧ (step : Int) ∣ (p : Int) - first) := by
  rw [Int.ofNat_le]
  refine and_congr_right fun hfirst => ?_
  rw [← Nat.dvd_iff_mod_eq_zero, ← Int.ofNat_dvd, Int.ofNat_sub hfirst]

/- The end lies inside the text, so that every position does. -/
theorem map_sliced {first last step : Nat} {cs : List Char} (hstep : 0 < step) (hlast : last ≤ cs.length) :
    (sliced first last step cs).map some = (positions first last step).map (cs[·]?) := by
  rw [sliced, everyNth_drop, map_everyNth hstep, positions, List.length_take, Nat.min_eq_left hlast, Int.toNat_natCast]
  simp only [dvd_sub_iff]
  apply List.map_congr_left
  intro p hp
  exact List.getElem?_take_of_lt (List.mem_range.1 (List.mem_filter.1 hp).1)

theorem sliced_append (m : Nat) (cs : List Char) : sliced 0 m 1 cs ++ sliced m cs.length 1 cs = cs := by
  rw [sliced, sliced, everyNth_one, everyNth_one, List.take_length, List.drop_zero, List.take_append_drop]

end Text

namespace Library

open Number (signed64)
open Text (clamped within positions sliced)

/-! ### Specifications -/

/-- A token stands for the integer that it writes, or for a default if it is blank. -/
def StandsFor (token : String) (default n : Int) : Prop :=
  Number.integer? token = .ok n ∨ Text.isBlankText token.toList = true ∧ n = default

/-- A specification of three tokens: begin, end and step. -/
structure ThreeTokens (spec b e s : String) : Prop where
  eq : spec = b ++ "," ++ e ++ "," ++ s
  begin : ',' ∉ b.toList
  stop : ',' ∉ e.toList
  step : ',' ∉ s.toList

/-- The specifications that say nothing of any text. -/
inductive Malformed : String → Prop
  | two {spec : String} (h : spec.toList.count ',' = 1) : Malformed spec
  | many {spec : String} (h : 3 ≤ spec.toList.count ',') : Malformed spec
  | index {spec : String} (hcomma : ',' ∉ spec.toList) (h : ∀ i, Number.integer? spec ≠ .ok i) : Malformed spec
  | step {spec b e s : String} {k : Int} (h : ThreeTokens spec b e s) (hs : StandsFor s 1 k) (hk : k ≤ 0) :
    Malformed spec
  | token {spec b e s t : String} (h : ThreeTokens spec b e s) (ht : t ∈ [b, e, s])
    (hbad : ∀ default n, ¬ StandsFor t default n) : Malformed spec

namespace StandsFor

variable {token : String} {default n : Int}

theorem intArgOr_eq (h : StandsFor token default n) (kind : Fault.Kind) (message : String) :
    intArgOr token default kind message = .ok n := by
  rcases h with hint | ⟨hblank, rfl⟩
  · rw [intArgOr, Text.not_blank_of_integer? hint, intArg, hint]
    rfl
  · rw [intArgOr, if_pos hblank]

theorem of_intArgOr {kind : Fault.Kind} {message : String} (h : intArgOr token default kind message = .ok n) :
    StandsFor token default n := by
  unfold intArgOr at h
  split at h
  · rename_i hblank
    cases h
    exact .inr ⟨hblank, rfl⟩
  · exact .inl (integer?_of_intArg h)

theorem exists_of_map {α : Type} {f : Int → α} {a : α} {kind : Fault.Kind} {message : String}
    (h : (intArgOr token default kind message).map f = .ok a) : ∃ n, StandsFor token default n := by
  cases hn : intArgOr token default kind message with
  | ok n => exact ⟨n, of_intArgOr hn⟩
  | error e =>
    rw [hn] at h
    cases h

end StandsFor

/- A bound is an argument with a default, moved into the text. -/
theorem sliceBound_eq {token : String} {default : Int} {length m : Nat} (hm : clamped default length = m) :
    sliceBound token.toList m length =
      (intArgOr token default .invalidArguments "non int index").map (clamped · length) := by
  rw [sliceBound, intArgOr, String.ofList_toList]
  split
  · rw [← hm]
    rfl
  · rfl

/-! ### Three tokens -/

theorem sliceOf_three {spec b e s : String} (h : ThreeTokens spec b e s) (cs : List Char) :
    sliceOf spec cs = (do
      let stride ← intArgOr s 1 .invalidArguments "non int index"
      if stride ≤ 0 then .error (Arguments.invalid "zero step")
      else
        let begin ← (intArgOr b 0 .invalidArguments "non int index").map (clamped · cs.length)
        let stop ← (intArgOr e cs.length .invalidArguments "non int index").map (clamped · cs.length)
        return sliced begin stop stride.toNat cs) := by
  rw [sliceOf, h.eq, Text.splitAt_three h.begin h.stop h.step]
  simp only [String.ofList_toList, sliceBound_eq (Text.clamped_zero _),
    sliceBound_eq (Text.clamped_length _)]

theorem sliceOf_of_standsFor {spec b e s : String} {cs : List Char} {i j k : Int} (h : ThreeTokens spec b e s)
    (hb : StandsFor b 0 i) (he : StandsFor e cs.length j) (hs : StandsFor s 1 k) (hk : 1 ≤ k) :
    sliceOf spec cs = .ok (sliced (clamped i cs.length) (clamped j cs.length) k.toNat cs) := by
  have hpos : ¬ k ≤ 0 := by omega
  rw [sliceOf_three h, hs.intArgOr_eq, hb.intArgOr_eq, he.intArgOr_eq]
  show (if k ≤ 0 then _ else _) = _
  rw [if_neg hpos]
  rfl

theorem map_sliced_clamped (i j : Int) {k : Int} (hk : 1 ≤ k) (cs : List Char) :
    (sliced (clamped i cs.length) (clamped j cs.length) k.toNat cs).map some =
      (positions (within cs.length i) (within cs.length j) k).map (cs[·]?) := by
  have hstep : 0 < k.toNat := by omega
  have hlast : clamped j cs.length ≤ cs.length := Nat.min_le_right _ _
  rw [Text.map_sliced hstep hlast, Text.clamped_eq_within, Text.clamped_eq_within, Int.toNat_of_nonneg (by omega)]

/- Cutting at `k` takes what comes before it and what comes from it on. -/
theorem sliceOf_cut {k : Int} (hk : signed64.holds k) (cs : List Char) :
    ∃ before after, sliceOf ("," ++ toString k ++ ",") cs = .ok before ∧
      sliceOf (toString k ++ ",,") cs = .ok after ∧ before ++ after = cs := by
  have hcomma := Text.comma_not_mem_toString k
  have hblank : ∀ default, StandsFor "" default default := fun default => .inr ⟨rfl, rfl⟩
  have hint : ∀ default, StandsFor (toString k) default k := fun default => .inl (Number.integer?_toString hk)
  have hbefore : ThreeTokens ("," ++ toString k ++ ",") "" (toString k) "" :=
    ⟨by simp, by simp, hcomma, by simp⟩
  have hafter : ThreeTokens (toString k ++ ",,") (toString k) "" "" :=
    ⟨by simp [String.append_assoc], hcomma, by simp, by simp⟩
  refine ⟨_, _, sliceOf_of_standsFor hbefore (hblank 0) (hint _) (hblank 1) (by decide),
    sliceOf_of_standsFor hafter (hint 0) (hblank _) (hblank 1) (by decide), ?_⟩
  rw [Text.clamped_zero, Text.clamped_length]
  exact Text.sliced_append _ cs

/-! ### One token -/

theorem sliceOf_index {spec : String} {i : Int} (hcomma : ',' ∉ spec.toList) (hi : Number.integer? spec = .ok i)
    (cs : List Char) :
    sliceOf spec cs =
      match (Text.position? i cs.length).bind fun place => cs[place]? with
      | some c => .ok [c]
      | none => .error (Fault.ofKind .badIndex) := by
  rw [sliceOf, Text.splitAt_of_not_mem hcomma]
  simp only [String.ofList_toList, intArg, hi]
  rfl

/-! ### Refusals -/

def Refuses {α : Type} (x : Except Fault α) : Prop :=
  ∃ e : Fault, e.kind = .invalidArguments ∧ x = .error e

theorem Refuses.bind {α β : Type} {x : Except Fault α} {f : α → Except Fault β}
    (hx : Raises (fun e => e.kind = .invalidArguments) x) (hf : ∀ a, x = .ok a → Refuses (f a)) :
    Refuses (x >>= f) := by
  cases x with
  | ok a => exact hf a rfl
  | error e => exact ⟨e, hx e rfl, rfl⟩

/- There is one token more than there are commas. -/
theorem refuses_of_count {spec : String} (hone : spec.toList.count ',' ≠ 0) (hthree : spec.toList.count ',' ≠ 2)
    (cs : List Char) : Refuses (sliceOf spec cs) := by
  have hlength := Text.length_splitAt ',' spec.toList
  unfold sliceOf
  split
  · rename_i hsplit
    simp only [hsplit, List.length_cons, List.length_nil] at hlength
    omega
  · exact ⟨_, rfl, rfl⟩
  · rename_i hsplit
    simp only [hsplit, List.length_cons, List.length_nil] at hlength
    omega
  · exact ⟨_, rfl, rfl⟩

theorem refuses_malformed {spec : String} (h : Malformed spec) (cs : List Char) : Refuses (sliceOf spec cs) := by
  have hbound : ∀ text default, Raises (fun e => e.kind = .invalidArguments)
      (intArgOr text default .invalidArguments "non int index") :=
    fun text default => .intArgOr text default fun _ => rfl
  cases h with
  | two h => exact refuses_of_count (by omega) (by omega) cs
  | many h => exact refuses_of_count (by omega) (by omega) cs
  | index hcomma hbad =>
    rw [sliceOf, Text.splitAt_of_not_mem hcomma]
    refine .bind (.intArg _ fun _ => rfl) fun i hi => ?_
    rw [String.ofList_toList] at hi
    exact absurd (integer?_of_intArg hi) (hbad i)
  | step h hs hk =>
    rw [sliceOf_three h, hs.intArgOr_eq]
    show Refuses (if _ ≤ 0 then _ else _)
    rw [if_pos hk]
    exact ⟨_, rfl, rfl⟩
  | token h ht hbad =>
    rw [sliceOf_three h]
    refine .bind (hbound _ _) fun k hk => ?_
    split
    · exact ⟨_, rfl, rfl⟩
    · refine .bind (.map (hbound _ _) _) fun first hfirst => .bind (.map (hbound _ _) _) fun last hlast => ?_
      -- All three tokens have been read, the bad one among them.
      obtain ⟨i, hi⟩ := StandsFor.exists_of_map hfirst
      obtain ⟨j, hj⟩ := StandsFor.exists_of_map hlast
      simp only [List.mem_cons, List.not_mem_nil, or_false] at ht
      rcases ht with rfl | rfl | rfl
      · exact absurd hi (hbad 0 i)
      · exact absurd hj (hbad _ j)
      · exact absurd (StandsFor.of_intArgOr hk) (hbad 1 k)

/-! ### The builtin -/

/-- The arguments of `slice` ask for a part of this content. -/
structure Slices (args : Arguments) (spec content : String) : Prop where
  spec : args.get? 0 "spec" = some spec
  content : args.get? 1 "content" = some content

namespace Slices

variable {args : Arguments} {spec content : String}

theorem slice_of_ok (h : Slices args spec content) {cs : List Char} (hcs : sliceOf spec content.toList = .ok cs)
    (site : CallSite) (w : World) : slice site args w = .ok (.text (String.ofList cs)) w := by
  simp only [slice, pureRun, Arguments.require, h.spec, h.content]
  show Act.ofExcept (Except.map _ (sliceOf spec content.toList >>= _)) w = _
  rw [hcs]
  rfl

theorem slice_of_error (h : Slices args spec content) {e : Fault} (he : sliceOf spec content.toList = .error e)
    (site : CallSite) (w : World) : slice site args w = .error (.fault e) w := by
  simp only [slice, pureRun, Arguments.require, h.spec, h.content]
  show Act.ofExcept (Except.map _ (sliceOf spec content.toList >>= _)) w = _
  rw [he]
  rfl

end Slices

/-- A slice of a text of `n` characters. Three tokens take the characters at the positions from the begin on, a step
apart and before the end, none of them outside the text. One token takes a character, counted from the back if it is
negative, or is a bad index. Any other specification is an invalid argument. The two parts of a cut at `k` make up
the text. -/
theorem slice_takes_positions (site : CallSite) (content : String) (w : World) :
    let cs := content.toList
    let n := cs.length
    (∀ args spec b e s i j k, Slices args spec content → ThreeTokens spec b e s →
      StandsFor b 0 i → StandsFor e n j → StandsFor s 1 k → 1 ≤ k →
      ∃ t, slice site args w = .ok (.text t) w ∧
        t.toList.map some = (positions (within n i) (within n j) k).map (cs[·]?)) ∧
    (∀ args spec i, Slices args spec content → ',' ∉ spec.toList → Number.integer? spec = .ok i →
      (-n ≤ i ∧ i < n → ∃ c, cs[(if i < 0 then i + n else i).toNat]? = some c ∧
        slice site args w = .ok (.text (String.singleton c)) w) ∧
      (¬ (-n ≤ i ∧ i < n) → slice site args w = .error (.fault (Fault.ofKind .badIndex)) w)) ∧
    (∀ args spec, Slices args spec content → Malformed spec →
      ∃ e : Fault, e.kind = .invalidArguments ∧ slice site args w = .error (.fault e) w) ∧
    (∀ args args' k, signed64.holds k → Slices args ("," ++ toString k ++ ",") content →
      Slices args' (toString k ++ ",,") content →
      ∃ t u, slice site args w = .ok (.text t) w ∧ slice site args' w = .ok (.text u) w ∧ t ++ u = content) := by
  intro cs n
  refine ⟨?_, ?_, ?_, ?_⟩
  · intro args spec b e s i j k h htokens hb he hs hk
    refine ⟨_, h.slice_of_ok (sliceOf_of_standsFor htokens hb he hs hk) site w, ?_⟩
    rw [String.toList_ofList]
    exact map_sliced_clamped i j hk cs
  · intro args spec i h hcomma hi
    have hslice := sliceOf_index hcomma hi cs
    refine ⟨fun hinside => ?_, fun houtside => ?_⟩
    · obtain ⟨c, hc, hplace⟩ := Text.getElem?_position? hinside
      rw [hplace] at hslice
      exact ⟨c, hc, h.slice_of_ok hslice site w⟩
    · rw [Text.getElem?_position?_outside houtside] at hslice
      exact h.slice_of_error hslice site w
  · intro args spec h hbad
    obtain ⟨e, hkind, he⟩ := refuses_malformed hbad cs
    exact ⟨e, hkind, h.slice_of_error he site w⟩
  · intro args args' k hk hbefore hafter
    obtain ⟨before, after, hb, ha, happend⟩ := sliceOf_cut hk cs
    refine ⟨_, _, hbefore.slice_of_ok hb site w, hafter.slice_of_ok ha site w, ?_⟩
    rw [← String.ofList_append, happend, String.ofList_toList]

/-- Characters of one to four bytes, with indices at both limits of 64 bits. -/
theorem slice_takes_positions_of_wide_characters :
    let content := "aé→😀z"
    ∀ (site : CallSite) (w : World),
      slice site { positional := [" -4 ,9223372036854775807,2", content] } w = .ok (.text "é😀") w ∧
      slice site { positional := ["-2", content] } w = .ok (.text "😀") w ∧
      slice site { positional := ["-9223372036854775808", content] } w =
        .error (.fault (Fault.ofKind .badIndex)) w ∧
      (∃ e : Fault, e.kind = .invalidArguments ∧
        slice site { positional := ["1,2", content] } w = .error (.fault e) w) ∧
      ∃ t u, slice site { positional := [",-9223372036854775808,", content] } w = .ok (.text t) w ∧
        slice site { positional := ["-9223372036854775808,,", content] } w = .ok (.text u) w ∧ t ++ u = content := by
  intro content site w
  obtain ⟨hthree, hone, hbad, hcut⟩ := slice_takes_positions site content w
  obtain ⟨t, ht, hmap⟩ := hthree { positional := [" -4 ,9223372036854775807,2", content] } _
    " -4 " "9223372036854775807" "2" (-4) 9223372036854775807 2 ⟨rfl, rfl⟩
    ⟨by decide, by decide, by decide, by decide⟩ (.inl rfl) (.inl rfl) (.inl rfl) (by decide)
  have htext : t = "é😀" := by
    have hchars : t.toList.map some = ['é', '😀'].map some := hmap.trans (by decide)
    exact String.toList_inj.1 ((List.map_inj_right fun _ _ => Option.some.inj).1 hchars)
  subst htext
  obtain ⟨hinside, -⟩ := hone { positional := ["-2", content] } _ (-2) ⟨rfl, rfl⟩ (by decide) rfl
  obtain ⟨c, hc, hchar⟩ := hinside (by decide)
  have hface : c = '😀' := Option.some.inj (hc.symm.trans (by decide))
  subst hface
  obtain ⟨-, houtside⟩ := hone { positional := ["-9223372036854775808", content] } _ (-9223372036854775808)
    ⟨rfl, rfl⟩ (by decide) rfl
  exact ⟨ht, hchar, houtside (by decide), hbad _ _ ⟨rfl, rfl⟩ (.two (by decide)),
    hcut _ _ (-9223372036854775808) (by decide) ⟨rfl, rfl⟩ ⟨rfl, rfl⟩⟩

end Library

end Stencil
