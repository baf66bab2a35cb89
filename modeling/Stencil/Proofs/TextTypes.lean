import Mathlib.Data.List.TakeWhile
import Stencil.Condition
import Stencil.Proofs.SpanTexts

/-!
# Types of texts

Each named type reads a text on its own: as words, as letters, as an integer, as a decimal. What an integer may be
written with a decimal may be written with too, and neither holds a blank, nor does a letter; so the types lie inside
each other, and an integer is what comparisons and spans ask for.
-/

namespace Stencil

namespace Text

open Unicode (isBlank isAlphabetic)

/-! ### Words -/

/-- Blanks, a run of other characters, and blanks again. -/
def OneWord (cs : List Char) : Prop :=
  ∃ before word after, cs = before ++ word ++ after ∧ isBlankText before ∧ word ≠ [] ∧
    (∀ c ∈ word, isBlank c = false) ∧ isBlankText after

theorem blank_of_wordsFrom {word cs : List Char} (h : wordsFrom word cs = []) : word = [] ∧ isBlankText cs := by
  induction cs generalizing word with
  | nil =>
    cases word with
    | nil => exact ⟨rfl, rfl⟩
    | cons c word => cases h
  | cons c rest ih =>
    rw [wordsFrom] at h
    split at h
    · rename_i hc
      cases word with
      | nil => exact ⟨rfl, by simpa [isBlankText, hc] using (ih h).2⟩
      | cons d word => cases h
    · cases (ih h).1

/- The word that is being read belongs to the text, and so far the text holds no other. -/
theorem oneWord_of_wordsFrom {word cs : List Char} (hword : ∀ c ∈ word, isBlank c = false)
    (h : (wordsFrom word cs).length = 1) : OneWord (word.reverse ++ cs) := by
  have hreverse : ∀ c ∈ word.reverse, isBlank c = false := fun c hc => hword c (List.mem_reverse.1 hc)
  induction cs generalizing word with
  | nil =>
    cases word with
    | nil => cases h
    | cons c word => exact ⟨[], (c :: word).reverse, [], by simp, rfl, by simp, hreverse, rfl⟩
  | cons c rest ih =>
    rw [wordsFrom] at h
    split at h
    · rename_i hc
      cases word with
      | nil =>
        obtain ⟨before, one, after, hrest, hbefore, hone⟩ := ih hword h hreverse
        exact ⟨c :: before, one, after, congrArg (c :: ·) hrest, by simpa [isBlankText, hc] using hbefore, hone⟩
      | cons d word =>
        have hnone : wordsFrom [] rest = [] := List.eq_nil_of_length_eq_zero (by simpa using h)
        have hblank := (blank_of_wordsFrom hnone).2
        exact ⟨[], (d :: word).reverse, c :: rest, by simp, rfl, by simp, hreverse,
          by simpa [isBlankText, hc] using hblank⟩
    · rename_i hc
      have hword' : ∀ d ∈ c :: word, isBlank d = false :=
        List.forall_mem_cons.2 ⟨by simpa using hc, hword⟩
      have hrest := ih hword' h fun d hd => hword' d (List.mem_reverse.1 hd)
      simpa using hrest

theorem wordsFrom_of_blank {before : List Char} (h : isBlankText before) (cs : List Char) :
    wordsFrom [] (before ++ cs) = wordsFrom [] cs := by
  induction before with
  | nil => rfl
  | cons c before ih =>
    obtain ⟨hc, hbefore⟩ : isBlank c = true ∧ isBlankText before = true := by simpa [isBlankText] using h
    rw [List.cons_append, wordsFrom, if_pos hc]
    exact ih hbefore

theorem wordsFrom_of_no_blank {run : List Char} (h : ∀ c ∈ run, isBlank c = false) (word cs : List Char) :
    wordsFrom word (run ++ cs) = wordsFrom (run.reverse ++ word) cs := by
  induction run generalizing word with
  | nil => rfl
  | cons c run ih =>
    obtain ⟨hc, hrun⟩ := List.forall_mem_cons.1 h
    rw [List.cons_append, wordsFrom, hc, if_neg (by decide), ih hrun]
    simp

theorem words_of_oneWord {cs : List Char} (h : OneWord cs) : (words cs).length = 1 := by
  obtain ⟨before, word, after, rfl, hbefore, hne, hword, hafter⟩ := h
  have hreverse : (word.reverse ++ []).isEmpty = false := by simpa using hne
  rw [words, List.append_assoc, wordsFrom_of_blank hbefore, wordsFrom_of_no_blank hword]
  cases after with
  | nil =>
    rw [wordsFrom, hreverse]
    rfl
  | cons c after =>
    obtain ⟨hc, hafter⟩ : isBlank c = true ∧ isBlankText after = true := by simpa [isBlankText] using hafter
    have hnone : wordsFrom [] after = [] := by
      have hrest := wordsFrom_of_blank hafter []
      rwa [List.append_nil] at hrest
    rw [wordsFrom, if_pos hc, hreverse, if_neg (by decide), hnone]
    rfl

theorem words_length_eq_one_iff {cs : List Char} : (words cs).length = 1 ↔ OneWord cs :=
  ⟨fun h => oneWord_of_wordsFrom (by simp) h, words_of_oneWord⟩

theorem exists_trim (cs : List Char) :
    ∃ before after, cs = before ++ trim cs ++ after ∧ isBlankText before ∧ isBlankText after := by
  let kept := cs.dropWhile isBlank
  have hfront : cs.takeWhile isBlank ++ kept = cs := List.takeWhile_append_dropWhile
  have hback : kept.reverse.takeWhile isBlank ++ kept.reverse.dropWhile isBlank = kept.reverse :=
    List.takeWhile_append_dropWhile
  have hkept : trim cs ++ (kept.reverse.takeWhile isBlank).reverse = kept := by
    rw [← List.reverse_inj, ← hback]
    simp [trim, kept]
  refine ⟨cs.takeWhile isBlank, (kept.reverse.takeWhile isBlank).reverse, ?_, ?_, ?_⟩
  · rw [List.append_assoc, hkept, hfront]
  · exact List.all_eq_true.2 fun c hc => List.mem_takeWhile_imp hc
  · exact List.all_eq_true.2 fun c hc => List.mem_takeWhile_imp (List.mem_reverse.1 hc)

theorem oneWord_of_trim {cs : List Char} (hne : trim cs ≠ []) (h : ∀ c ∈ trim cs, isBlank c = false) :
    OneWord cs := by
  obtain ⟨before, after, hcs, hbefore, hafter⟩ := exists_trim cs
  exact ⟨before, trim cs, after, hcs, hbefore, hne, h, hafter⟩

/-! ### Letters -/

/- No range of blanks meets a range of letters. -/
theorem blankRanges_apart : ∀ b ∈ Unicode.blankRanges, ∀ a ∈ Unicode.alphabeticRanges,
    b.last < a.first ∨ a.last < b.first := by
  decide +kernel

theorem isBlank_of_isAlphabetic {c : Char} (h : isAlphabetic c = true) : isBlank c = false := by
  obtain ⟨a, ha, hin⟩ := List.any_eq_true.1 h
  apply Bool.eq_false_iff.2
  intro hblank
  obtain ⟨b, hb, hin'⟩ := List.any_eq_true.1 hblank
  have hapart := blankRanges_apart b hb a ha
  simp only [Unicode.Range.holds, Bool.and_eq_true, decide_eq_true_eq] at hin hin'
  omega

end Text

/-! ### Numerals -/

namespace Number

/-- A visible character of ASCII. -/
def Graphic (c : Char) : Prop :=
  0x20 < c.toNat ∧ c.toNat < 0x7f

instance : DecidablePred Graphic := fun c =>
  inferInstanceAs (Decidable (0x20 < c.toNat ∧ c.toNat < 0x7f))

theorem graphic_of_isDigit {c : Char} (h : c.isDigit = true) : Graphic c := by
  have hrange := Text.toNat_of_isDigit h
  unfold Graphic
  omega

theorem graphic_of_toLower {c : Char} (h : Graphic c.toLower) : Graphic c := by
  unfold Char.toLower at h
  split at h
  · rename_i hupper
    have hrange : 65 ≤ c.toNat ∧ c.toNat ≤ 90 := by
      simpa [UInt32.le_iff_toNat_le] using hupper
    unfold Graphic
    omega
  · exact h

theorem readPlain_of_digits {ds : List Char} (hne : ds ≠ []) (hds : ∀ c ∈ ds, c.isDigit) :
    readPlain ds = some (.digits (natOfDigits ds) 0) := by
  have htake : ds.takeWhile Char.isDigit = ds := List.takeWhile_eq_self_iff.2 hds
  have hdrop : ds.dropWhile Char.isDigit = [] := List.dropWhile_eq_nil_iff.2 hds
  simp [readPlain, htake, hdrop, hne, readExponent]

theorem readNumeral_of_signedDigits {cs sign ds : List Char} (h : SignedDigits cs sign ds) :
    (readNumeral cs).isOk := by
  obtain ⟨rfl, hsign, hne, hds⟩ := h
  have hunsigned : readUnsigned ds = some (.digits (natOfDigits ds) 0) := by
    rw [readUnsigned, readPlain_of_digits hne hds]
  rcases hsign with rfl | rfl | rfl
  · cases ds with
    | nil => exact absurd rfl hne
    | cons c rest =>
      have hc : c.isDigit := hds c List.mem_cons_self
      have hminus : c ≠ '-' := by
        rintro rfl
        exact absurd hc (by decide)
      have hplus : c ≠ '+' := by
        rintro rfl
        exact absurd hc (by decide)
      simp only [List.nil_append, readNumeral, if_neg hminus, if_neg hplus, hunsigned]
      rfl
  · simp [readNumeral, hunsigned, Except.isOk, Except.toBool]
  · simp [readNumeral, hunsigned, Except.isOk, Except.toBool]

theorem graphic_of_allDigits {digits : List Char} (h : (digits.isEmpty || !digits.all Char.isDigit) = false) :
    ∀ c ∈ digits, Graphic c := by
  have hdigits : ∀ c ∈ digits, c.isDigit = true := by
    simpa using (Bool.or_eq_false_iff.1 h).2
  exact fun c hc => graphic_of_isDigit (hdigits c hc)

theorem graphic_of_readExponent {cs : List Char} {e : Int} (h : readExponent cs = some e) :
    ∀ c ∈ cs, Graphic c := by
  cases cs with
  | nil => simp
  | cons x rest =>
    unfold readExponent at h
    dsimp only at h
    split at h
    · rename_i hx
      have hx' : Graphic x := by
        simp only [Bool.or_eq_true, decide_eq_true_eq] at hx
        rcases hx with rfl | rfl
        · decide
        · decide
      refine List.forall_mem_cons.2 ⟨hx', ?_⟩
      -- A sign may stand before the digits.
      split at h
      · split at h
        · cases h
        · rename_i hdigits
          exact List.forall_mem_cons.2 ⟨by decide, graphic_of_allDigits (by simpa using hdigits)⟩
      · split at h
        · cases h
        · rename_i hdigits
          exact List.forall_mem_cons.2 ⟨by decide, graphic_of_allDigits (by simpa using hdigits)⟩
      · split at h
        · cases h
        · rename_i hdigits
          exact graphic_of_allDigits (by simpa using hdigits)
    · cases h

theorem graphic_of_dropWhile {cs : List Char} (h : ∀ c ∈ cs.dropWhile Char.isDigit, Graphic c) :
    ∀ c ∈ cs, Graphic c := by
  intro c hc
  rw [← List.takeWhile_append_dropWhile (p := Char.isDigit) (l := cs)] at hc
  rcases List.mem_append.1 hc with hdigit | hrest
  · exact graphic_of_isDigit (List.mem_takeWhile_imp hdigit)
  · exact h c hrest

theorem graphic_of_readPlain {cs : List Char} {n : Numeral} (h : readPlain cs = some n) :
    ∀ c ∈ cs, Graphic c := by
  refine graphic_of_dropWhile ?_
  unfold readPlain at h
  dsimp only at h
  split at h
  · rename_i hpoint
    split at h
    · cases h
    · obtain ⟨e, he, -⟩ := Option.map_eq_some_iff.1 h
      rw [hpoint]
      exact List.forall_mem_cons.2 ⟨by decide, graphic_of_dropWhile (graphic_of_readExponent he)⟩
  · split at h
    · cases h
    · obtain ⟨e, he, -⟩ := Option.map_eq_some_iff.1 h
      exact graphic_of_readExponent he

theorem graphic_of_word {cs : List Char} {word : String} (h : String.ofList (cs.map Char.toLower) = word)
    (hword : word.toList.all fun c => decide (Graphic c)) : ∀ c ∈ cs, Graphic c := by
  intro c hc
  have hmem : c.toLower ∈ word.toList := by
    rw [← h, String.toList_ofList]
    exact List.mem_map_of_mem hc
  exact graphic_of_toLower (of_decide_eq_true (List.all_eq_true.1 hword _ hmem))

theorem graphic_of_readUnsigned {cs : List Char} {n : Numeral} (h : readUnsigned cs = some n) :
    ∀ c ∈ cs, Graphic c := by
  unfold readUnsigned at h
  split at h
  · rename_i hplain
    exact graphic_of_readPlain hplain
  · split at h
    · rename_i hword
      exact graphic_of_word hword rfl
    · rename_i hword
      exact graphic_of_word hword rfl
    · rename_i hword
      exact graphic_of_word hword rfl
    · cases h

theorem graphic_of_readNumeral {cs : List Char} (h : (readNumeral cs).isOk) : cs ≠ [] ∧ ∀ c ∈ cs, Graphic c := by
  cases cs with
  | nil => cases h
  | cons c rest =>
    refine ⟨by simp, ?_⟩
    unfold readNumeral at h
    dsimp only at h
    split at h
    · rename_i hbody
      split at hbody
      · rename_i hminus
        exact List.forall_mem_cons.2 ⟨by rw [hminus]; decide, graphic_of_readUnsigned hbody⟩
      · split at hbody
        · rename_i hplus
          exact List.forall_mem_cons.2 ⟨by rw [hplus]; decide, graphic_of_readUnsigned hbody⟩
        · exact graphic_of_readUnsigned hbody
    · cases h

end Number

/-! ### Integers -/

theorem comma_not_mem_of_integer? {t : String} {n : Int} (h : Number.integer? t = .ok n) : ',' ∉ t.toList := by
  obtain ⟨sign, digits, ⟨hcs, hsign, -, hdigits⟩, -⟩ := Number.denotes_of_readInteger h
  obtain ⟨before, after, ht, hbefore, hafter⟩ := Text.exists_trim t.toList
  intro hcomma
  rw [ht, hcs] at hcomma
  simp only [List.mem_append] at hcomma
  rcases hcomma with (hblank | hsigned | hdigit) | hblank
  · exact absurd (List.all_eq_true.1 hbefore _ hblank) (by decide)
  · rcases hsign with rfl | rfl | rfl
    · cases hsigned
    · exact absurd hsigned (by decide)
    · exact absurd hsigned (by decide)
  · exact absurd (hdigits _ hdigit) (by decide)
  · exact absurd (List.all_eq_true.1 hafter _ hblank) (by decide)

theorem compareInts_of_integer? {t u : String} {n m : Int} (ht : Number.integer? t = .ok n)
    (hu : Number.integer? u = .ok m) (order : Int → Int → Bool) :
    compareInts (.text t) u order = .ok (order n m) := by
  simp only [compareInts, Span.intArg_of_integer? ht, Span.intArg_of_integer? hu]
  rfl

theorem integers_of_compareInts {x : Operand} {u : String} {order : Int → Int → Bool} {b : Bool}
    (h : compareInts x u order = .ok b) :
    (∃ t n, x = .text t ∧ Number.integer? t = .ok n) ∧ ∃ m, Number.integer? u = .ok m := by
  cases x with
  | failed e => cases h
  | text t =>
    obtain ⟨n, hn, hrest⟩ := exists_ok_of_bind h
    obtain ⟨m, hm, -⟩ := exists_ok_of_bind hrest
    exact ⟨⟨t, n, rfl, integer?_of_intArg hn⟩, m, integer?_of_intArg hm⟩

/- A comparison either reads two integers or refuses its operands. -/
theorem compareInts_refused {x : Operand} {u : String} {order : Int → Int → Bool}
    (h : ∀ b, compareInts x u order ≠ .ok b) :
    ∃ e : Fault, e.kind = .invalidArgument ∧ compareInts x u order = .error e := by
  have hkind : Raises (fun e => e.kind = .invalidArgument) (compareInts x u order) :=
    raises_compareInts (fun _ => rfl) x u order
  cases hx : compareInts x u order with
  | ok b => exact absurd hx (h b)
  | error e => exact ⟨e, hkind e hx, rfl⟩

def orders : List (String × (Int → Int → Bool)) :=
  [("lt", (· < ·)), ("le", (· ≤ ·)), ("gt", (· > ·)), ("ge", (· ≥ ·))]

theorem decideCondition_order {name : String} {order : Int → Int → Bool} (h : (name, order) ∈ orders) (x : Operand)
    (u : String) : decideCondition x name u = compareInts x u order := by
  simp only [orders, List.mem_cons, Prod.mk.injEq, List.not_mem_nil, or_false] at h
  rcases h with ⟨rfl, rfl⟩ | ⟨rfl, rfl⟩ | ⟨rfl, rfl⟩ | ⟨rfl, rfl⟩
  · rfl
  · rfl
  · rfl
  · rfl

/-! ### Named types -/

/-- A condition finds the operand to be of the type with this name. -/
def Operand.Is (x : Operand) (name : String) : Prop :=
  decideCondition x "is" name = .ok true

instance (x : Operand) (name : String) : Decidable (x.Is name) :=
  inferInstanceAs (Decidable (decideCondition x "is" name = .ok true))

namespace TypeTest

def named : List (String × TypeTest) :=
  [("word", .word), ("letter", .letter), ("number", .number), ("decimal", .decimal), ("error", .error)]

theorem decideCondition_named {name : String} {test : TypeTest} (h : (name, test) ∈ named) (x : Operand) :
    decideCondition x "is" name = .ok (test.holds x) := by
  simp only [named, List.mem_cons, Prod.mk.injEq, List.not_mem_nil, or_false] at h
  rcases h with ⟨rfl, rfl⟩ | ⟨rfl, rfl⟩ | ⟨rfl, rfl⟩ | ⟨rfl, rfl⟩ | ⟨rfl, rfl⟩
  · rfl
  · rfl
  · rfl
  · rfl
  · rfl

theorem is_iff {name : String} {test : TypeTest} (h : (name, test) ∈ named) {x : Operand} :
    x.Is name ↔ test.holds x = true := by
  rw [Operand.Is, decideCondition_named h, Except.ok.injEq]

variable {t : String}

theorem word_holds_iff : word.holds (.text t) = true ↔ Text.OneWord t.toList := by
  rw [← Text.words_length_eq_one_iff]
  exact beq_iff_eq

theorem number_holds_iff : number.holds (.text t) = true ↔ ∃ n, Number.integer? t = .ok n :=
  isOk_iff_exists

theorem oneWord_of_letter (h : letter.holds (.text t) = true) : Text.OneWord t.toList := by
  obtain ⟨hne, hletters⟩ := Bool.and_eq_true_iff.1 h
  refine ⟨[], t.toList, [], by simp, rfl, by simpa using hne, fun c hc => ?_, rfl⟩
  exact Text.isBlank_of_isAlphabetic (List.all_eq_true.1 hletters c hc)

theorem oneWord_of_decimal (h : decimal.holds (.text t) = true) : Text.OneWord t.toList := by
  obtain ⟨hne, hgraphic⟩ := Number.graphic_of_readNumeral h
  refine Text.oneWord_of_trim hne fun c hc => ?_
  obtain ⟨hlow, hhigh⟩ := hgraphic c hc
  exact Text.isBlank_of_graphic hlow hhigh

theorem decimal_of_number (h : number.holds (.text t) = true) : decimal.holds (.text t) = true := by
  obtain ⟨n, hn⟩ := number_holds_iff.1 h
  obtain ⟨sign, digits, hdigits, -⟩ := Number.denotes_of_readInteger hn
  exact Number.readNumeral_of_signedDigits hdigits

/- A text that is no integer is refused on either side of a comparison. -/
theorem refused_of_not_number (h : ¬ number.holds (.text t) = true) {name : String} {order : Int → Int → Bool}
    (horder : (name, order) ∈ orders) :
    (∀ u, ∃ e : Fault, e.kind = .invalidArgument ∧ decideCondition (.text t) name u = .error e) ∧
      ∀ y, ∃ e : Fault, e.kind = .invalidArgument ∧ decideCondition y name t = .error e := by
  rw [number_holds_iff] at h
  constructor
  · intro u
    rw [decideCondition_order horder]
    refine compareInts_refused fun b hb => ?_
    obtain ⟨⟨s, n, hs, hn⟩, -⟩ := integers_of_compareInts hb
    cases hs
    exact h ⟨n, hn⟩
  · intro y
    rw [decideCondition_order horder]
    refine compareInts_refused fun b hb => ?_
    exact h (integers_of_compareInts hb).2

/-- What the named types say of a text and of a failed operand. Letters, numbers and decimals are words, numbers are
decimals, and a word is a run without blanks between blanks. A number is read by every comparison with a number and is
a span from one; any other text is an invalid argument to all those comparisons. Only a failed operand is an error,
and it is nothing else. -/
theorem named_types_imply_and_guard (t : String) :
    (∀ name test, (name, test) ∈ named → ∃ b, decideCondition (.text t) "is" name = .ok b) ∧
    ((Operand.text t).Is "letter" → (Operand.text t).Is "word") ∧
    ((Operand.text t).Is "number" → (Operand.text t).Is "decimal") ∧
    ((Operand.text t).Is "decimal" → (Operand.text t).Is "word") ∧
    ((Operand.text t).Is "word" ↔ Text.OneWord t.toList) ∧
    ¬ (Operand.text t).Is "error" ∧
    ((Operand.text t).Is "number" →
      ∃ n, Number.integer? t = .ok n ∧ Number.Denotes (Text.trim t.toList) n ∧
        Span.parse t = .ok { start := 1, stop := n, step := 1 } ∧
        ∀ u, (Operand.text u).Is "number" → ∃ m, Number.integer? u = .ok m ∧
          ∀ name order, (name, order) ∈ orders →
            decideCondition (.text t) name u = .ok (order n m) ∧
            decideCondition (.text u) name t = .ok (order m n)) ∧
    (¬ (Operand.text t).Is "number" → ∀ name order, (name, order) ∈ orders →
      (∀ u, ∃ e : Fault, e.kind = .invalidArgument ∧ decideCondition (.text t) name u = .error e) ∧
      ∀ y, ∃ e : Fault, e.kind = .invalidArgument ∧ decideCondition y name t = .error e) ∧
    ∀ e, (Operand.failed e).Is "error" ∧
      ∀ name ∈ ["word", "letter", "number", "decimal"], decideCondition (.failed e) "is" name = .ok false := by
  have hword : ∀ {y : Operand}, y.Is "word" ↔ word.holds y = true := is_iff (by simp [named])
  have hletter : ∀ {y : Operand}, y.Is "letter" ↔ letter.holds y = true := is_iff (by simp [named])
  have hnumber : ∀ {y : Operand}, y.Is "number" ↔ number.holds y = true := is_iff (by simp [named])
  have hdecimal : ∀ {y : Operand}, y.Is "decimal" ↔ decimal.holds y = true := is_iff (by simp [named])
  have herror : ∀ {y : Operand}, y.Is "error" ↔ error.holds y = true := is_iff (by simp [named])
  rw [hword, hletter, hnumber, hdecimal, herror]
  refine ⟨fun name test h => ⟨_, decideCondition_named h _⟩, fun h => word_holds_iff.2 (oneWord_of_letter h),
    decimal_of_number, fun h => word_holds_iff.2 (oneWord_of_decimal h), word_holds_iff, Bool.false_ne_true, ?_,
    fun h name order horder => refused_of_not_number h horder, fun e => ⟨rfl, ?_⟩⟩
  · intro h
    obtain ⟨n, hn⟩ := number_holds_iff.1 h
    have hwrites : Span.Writes t { start := 1, stop := n, step := 1 } := .stop (comma_not_mem_of_integer? hn) hn
    refine ⟨n, hn, Number.denotes_of_readInteger hn, Span.parse_of_writes hwrites, fun u hu => ?_⟩
    obtain ⟨m, hm⟩ := number_holds_iff.1 (hnumber.1 hu)
    refine ⟨m, hm, fun name order horder => ⟨?_, ?_⟩⟩
    · rw [decideCondition_order horder, compareInts_of_integer? hn hm]
    · rw [decideCondition_order horder, compareInts_of_integer? hm hn]
  · intro name hname
    simp only [List.mem_cons, List.not_mem_nil, or_false] at hname
    rcases hname with rfl | rfl | rfl | rfl
    · rfl
    · rfl
    · rfl
    · rfl

/-- A number with a plus sign, leading zeros and blanks around it, beside the least integer; and a decimal that is no
number. -/
theorem named_types_imply_and_guard_of_padded_number :
    let x := Operand.text "\u2003+007\n"
    x.Is "number" ∧ x.Is "decimal" ∧ x.Is "word" ∧ Text.OneWord "\u2003+007\n".toList ∧
      Span.parse "\u2003+007\n" = .ok { start := 1, stop := 7, step := 1 } ∧
      decideCondition x "ge" "-9223372036854775808" = .ok true ∧ (Operand.text " 4.5").Is "decimal" ∧
      ∃ e : Fault, e.kind = .invalidArgument ∧ decideCondition x "lt" " 4.5" = .error e := by
  intro x
  have hx : x.Is "number" := by decide +kernel
  have hleast : (Operand.text "-9223372036854775808").Is "number" := by decide +kernel
  have hhalf : ¬ (Operand.text " 4.5").Is "number" := by decide +kernel
  obtain ⟨-, -, hdecimal, hword, hone, -, hguard, -, -⟩ := named_types_imply_and_guard "\u2003+007\n"
  obtain ⟨n, hn, -, hspan, hcompare⟩ := hguard hx
  obtain rfl : 7 = n := Except.ok.inj hn
  obtain ⟨m, hm, horders⟩ := hcompare _ hleast
  obtain rfl : -9223372036854775808 = m := Except.ok.inj hm
  obtain ⟨-, -, -, -, -, -, -, hrefused, -⟩ := named_types_imply_and_guard " 4.5"
  have hx' := hword (hdecimal hx)
  exact ⟨hx, hdecimal hx, hx', hone.1 hx', hspan, (horders "ge" (· ≥ ·) (by simp [orders])).1, by decide +kernel,
    (hrefused hhalf "lt" (· < ·) (by simp [orders])).2 x⟩

end TypeTest

end Stencil
