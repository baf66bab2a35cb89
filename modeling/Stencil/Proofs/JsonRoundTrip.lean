import Stencil.Json.Document

/-!
# Written records read back

A reader takes a value off the front of a text and gives the rest. `Takes` says that it takes a written value
whole and goes no further, whatever comes after. Records follow from their fields (`Fills`) and lists from their
elements, so that every guild, every limits and every report is read back from what was written.
-/

namespace Stencil.Json

/-! ### Strings -/

theorem hexFour?_of_lt {n : Nat} (h : n < 0x20) :
    hexFour? '0' '0' (Nat.digitChar (n / 16)) (Nat.digitChar (n % 16)) = some n := by
  revert n
  decide

/- One case for each way in which a character is written. -/
theorem readChars_writtenChar (c : Char) (cs : List Char) :
    readChars (writtenChar c ++ cs) = prepend c (readChars cs) := by
  unfold writtenChar
  split
  · subst_vars
    rfl
  split
  · subst_vars
    rfl
  split
  · subst_vars
    rfl
  split
  · subst_vars
    rfl
  split
  · subst_vars
    rfl
  split
  · rename_i h
    have hc : Char.ofNat 8 = c := by rw [← h, Char.ofNat_toNat]
    subst hc
    rfl
  split
  · rename_i h
    have hc : Char.ofNat 12 = c := by rw [← h, Char.ofNat_toNat]
    subst hc
    rfl
  split
  · rename_i h
    have hhigh : isHighHalf c.toNat = false := by
      simp only [isHighHalf, Bool.and_eq_false_iff, decide_eq_false_iff_not]
      omega
    have hlow : isLowHalf c.toNat = false := by
      simp only [isLowHalf, Bool.and_eq_false_iff, decide_eq_false_iff_not]
      omega
    simp only [List.cons_append, List.nil_append, readChars, hexFour?_of_lt h, hhigh, hlow,
      Bool.false_eq_true, if_false, Char.ofNat_toNat]
  · rename_i hquote hslash _ _ _ _ _ h
    have hplain : readChars (c :: cs) =
        if c.toNat < 0x20 then .error .malformed else prepend c (readChars cs) := by
      rw [readChars]
      · exact hquote
      · exact fun _ _ _ _ _ hc => absurd hc hslash
      · exact fun _ _ hc => absurd hc hslash
    rw [List.singleton_append, hplain, if_neg h]

theorem readChars_written (cs rest : List Char) :
    readChars (cs.flatMap writtenChar ++ '"' :: rest) = .ok (cs, rest) := by
  induction cs with
  | nil => rfl
  | cons c cs ih =>
    rw [List.flatMap_cons, List.append_assoc, readChars_writtenChar, ih]
    rfl

/-! ### Numbers -/

theorem head?_toDigits {n : Nat} (h : n ≠ 0) : (Nat.toDigits 10 n).head? ≠ some '0' := by
  induction n using Nat.strongRecOn with
  | ind n ih =>
    rw [Nat.toDigits_eq_if (by decide)]
    split
    · rename_i hlt
      have hdigit : ∀ m, m < 10 → m ≠ 0 → Nat.digitChar m ≠ '0' := by decide
      simpa using hdigit n hlt h
    · have hrest := ih (n / 10) (by omega) (by omega)
      obtain ⟨c, cs, hc⟩ := List.exists_cons_of_ne_nil (Nat.toDigits_ne_nil (n := n / 10) (b := 10))
      rw [hc] at hrest ⊢
      exact hrest

theorem length_toDigits_of_head? {n : Nat} (h : (Nat.toDigits 10 n).head? = some '0') :
    (Nat.toDigits 10 n).length = 1 := by
  by_cases hn : n = 0
  · rw [hn, Nat.toDigits_zero]
    rfl
  · exact absurd h (head?_toDigits hn)

/- The significand only grows, so if it fits at the end it has fitted all the way. -/
theorem addDigits_of_lt {n : Nat} {ds : List Char} (h : Nat.ofDigitChars 10 ds n < significandLimit) :
    addDigits n ds = (Nat.ofDigitChars 10 ds n, []) := by
  induction ds generalizing n with
  | nil => rfl
  | cons c ds ih =>
    rw [Nat.ofDigitChars_cons] at h ⊢
    generalize hm : 10 * n + (c.toNat - '0'.toNat) = m at h ⊢
    have hnext : n * 10 + Number.digitValue c = m := by
      rw [← hm, Nat.mul_comm]
      rfl
    have hle : m ≤ Nat.ofDigitChars 10 ds m := by
      have hpow : m ≤ 10 ^ ds.length * m := Nat.le_mul_of_pos_left m (Nat.pow_pos (by decide))
      rw [Nat.ofDigitChars_eq_ofDigitChars_zero]
      omega
    simp only [addDigits, hnext]
    rw [if_pos (Nat.lt_of_le_of_lt hle h), ih h]

/-! ### Values -/

/-- What may follow a value: nothing, or a mark that separates or closes. -/
def EndsValue (rest : List Char) : Prop :=
  rest = [] ∨ ∃ c tail, rest = c :: tail ∧ (c = ',' ∨ c = ']' ∨ c = '}')

/-- The reader takes this text as this value and stops after it. -/
def Takes {α : Type} (read : Reader α) (text : List Char) (a : α) : Prop :=
  ∀ rest, EndsValue rest → read (text ++ rest) = .ok (a, rest)

theorem span_isDigit {ds rest : List Char} (hds : ∀ c ∈ ds, c.isDigit) (h : EndsValue rest) :
    (ds ++ rest).takeWhile Char.isDigit = ds ∧ (ds ++ rest).dropWhile Char.isDigit = rest := by
  have hrest : rest.takeWhile Char.isDigit = [] ∧ rest.dropWhile Char.isDigit = rest := by
    rcases h with rfl | ⟨c, tail, rfl, rfl | rfl | rfl⟩ <;> exact ⟨rfl, rfl⟩
  rw [List.takeWhile_append_of_pos hds, List.dropWhile_append_of_pos hds, hrest.1, hrest.2]
  exact ⟨List.append_nil ds, rfl⟩

theorem readNumber_writeNat {n : Nat} (hn : n < significandLimit) {rest : List Char} (h : EndsValue rest) :
    readNumber true (writeNat n ++ rest) = .ok (.unsigned n, rest) := by
  have hdigits : ∀ c ∈ Nat.toDigits 10 n, c.isDigit :=
    fun c hc => Nat.isDigit_of_mem_toDigits (by decide) (by decide) hc
  obtain ⟨htake, hdrop⟩ := span_isDigit hdigits h
  have hadd : addDigits 0 (Nat.toDigits 10 n) = (n, []) := by
    have hlt : Nat.ofDigitChars 10 (Nat.toDigits 10 n) 0 < significandLimit := by
      rwa [Nat.ofDigitChars_ten_toDigits]
    rw [addDigits_of_lt hlt, Nat.ofDigitChars_ten_toDigits]
  have hshape : ¬ ((Nat.toDigits 10 n).isEmpty || (decide ((Nat.toDigits 10 n).head? = some '0') &&
      decide (1 < (Nat.toDigits 10 n).length))) := by
    simp only [Bool.or_eq_true, List.isEmpty_iff, Nat.toDigits_ne_nil, false_or, Bool.and_eq_true,
      decide_eq_true_eq, not_and, Nat.not_lt]
    intro hzero
    exact Nat.le_of_eq (length_toDigits_of_head? hzero)
  simp only [readNumber, writeNat, htake, hdrop, hadd]
  rw [if_neg hshape]
  rcases h with rfl | ⟨c, tail, rfl, rfl | rfl | rfl⟩ <;> rfl

theorem skipBlanks_cons {c : Char} (h : isBlank c = false) (cs : List Char) :
    skipBlanks (c :: cs) = c :: cs := by
  rw [skipBlanks, List.dropWhile_cons_of_neg (by simp [h])]

/- A number begins with a digit, which no other value and no blank does. -/
theorem writeNat_begins (n : Nat) : ∃ c cs, writeNat n = c :: cs ∧ c.isDigit ∧ isBlank c = false := by
  obtain ⟨c, cs, hc⟩ := List.exists_cons_of_ne_nil (Nat.toDigits_ne_nil (n := n) (b := 10))
  have hdigit : c.isDigit := by
    refine Nat.isDigit_of_mem_toDigits (b := 10) (n := n) (by decide) (by decide) ?_
    rw [hc]
    exact List.mem_cons_self
  refine ⟨c, cs, hc, hdigit, Bool.eq_false_iff.2 fun hblank => ?_⟩
  simp only [isBlank, Bool.or_eq_true, decide_eq_true_eq] at hblank
  rcases hblank with ((rfl | rfl) | rfl) | rfl <;> exact absurd hdigit (by decide)

theorem takes_unsigned (expected : String) (n : UInt64) :
    Takes (readUnsigned expected) (writeNat n.toNat) n := by
  intro rest h
  have hread := readNumber_writeNat (n := n.toNat) n.toNat_lt h
  obtain ⟨c, cs, hc, hdigit, hblank⟩ := writeNat_begins n.toNat
  have hminus : c ≠ '-' := by
    rintro rfl
    exact absurd hdigit (by decide)
  rw [hc, List.cons_append] at hread ⊢
  simp only [readUnsigned, skipBlanks_cons hblank]
  rw [if_pos hdigit, hread]
  simp only [Except.bind, UInt64.ofNat_toNat]

theorem takes_string (expected s : String) : Takes (readString expected) (writeString s) s := by
  intro rest _
  have hread := readChars_written s.toList rest
  simp only [readString, writeString, List.cons_append, List.append_assoc, List.nil_append,
    skipBlanks_cons (show isBlank '"' = false from rfl), hread, Except.map, String.ofList_toList]

theorem takes_bool (b : Bool) : Takes readBool (writeBool b) b := by
  intro rest _
  cases b <;> rfl

theorem takes_kind (k : Stencil.Fault.Kind) : Takes readKind (writeString k.name) k := by
  intro rest _
  have hread := readChars_written k.name.toList rest
  have hkind : kindNamed k.name.toList = .ok k := by cases k <;> rfl
  simp only [readKind, writeString, List.cons_append, List.append_assoc, List.nil_append,
    skipBlanks_cons (show isBlank '"' = false from rfl), hread, hkind, bind, Except.bind]
  rfl

section Options

variable {α : Type} {read : Reader α}

theorem takes_null : Takes (readOption read) "null".toList none := by
  intro rest _
  rfl

theorem Takes.some {text : List Char} {a : α} (h : Takes read text a) {c : Char} {cs : List Char}
    (hc : text = c :: cs) (hblank : isBlank c = false) (hnull : c ≠ 'n') :
    Takes (readOption read) text (some a) := by
  intro rest hrest
  have hread := h rest hrest
  subst hc
  simp only [readOption, List.cons_append, skipBlanks_cons hblank]
  split
  · rename_i heq
    exact absurd (List.cons.inj heq).1 hnull
  · rw [← List.cons_append, hread]
    rfl

theorem takes_optional_string (expected s : String) :
    Takes (readOption (readString expected)) (writeString s) (Option.some s) :=
  (takes_string expected s).some rfl rfl (by decide)

end Options

/-! ### Lists -/

def separator (begun : Bool) : List Char :=
  if begun then [','] else []

/-- Parts with commas between them, and one in front where parts have gone before. -/
def separated : (begun : Bool) → List (List Char) → List Char
  | _, [] => []
  | begun, part :: rest => separator begun ++ part ++ separated true rest

theorem writeJoined_eq_separated (parts : List (List Char)) : writeJoined parts = separated false parts := by
  have hcons : ∀ part rest, writeJoined (part :: rest) = part ++ separated true rest := by
    intro part rest
    induction rest generalizing part with
    | nil => simp [writeJoined, separated]
    | cons next rest ih =>
      simp only [writeJoined, separated, separator, if_true]
      rw [ih]
      simp
  cases parts with
  | nil => rfl
  | cons part rest => rw [hcons]; rfl

theorem length_le_separated (parts : List (List Char)) : parts.length ≤ (separated true parts).length := by
  induction parts with
  | nil => exact Nat.le_refl _
  | cons part rest ih =>
    simp only [separated, separator, if_true, List.length_append, List.length_cons, List.length_nil]
    omega

/- There is a character for every part: a comma, or the mark that closes. -/
theorem length_le_joined (parts : List (List Char)) (mark : Char) (rest : List Char) :
    parts.length ≤ (writeJoined parts ++ mark :: rest).length := by
  rw [writeJoined_eq_separated]
  cases parts with
  | nil => exact Nat.zero_le _
  | cons part others =>
    have hothers := length_le_separated others
    simp only [separated, List.length_append, List.length_cons]
    omega

theorem endsValue_separated (parts : List (List Char)) {mark : Char} (hmark : mark = ']' ∨ mark = '}')
    (rest : List Char) : EndsValue (separated true parts ++ mark :: rest) := by
  cases parts with
  | nil => exact .inr ⟨mark, rest, rfl, .inr hmark⟩
  | cons part others => exact .inr ⟨',', _, rfl, .inl rfl⟩

/-- A text that can stand in a list: it begins with something else than a blank, a comma or a bracket that
closes. -/
def Opens (text : List Char) : Prop :=
  ∃ c cs, text = c :: cs ∧ isBlank c = false ∧ c ≠ ',' ∧ c ≠ ']'

theorem nextElement_separator (begun : Bool) {text : List Char} (h : Opens text) (rest : List Char) :
    nextElement begun (separator begun ++ (text ++ rest)) = .ok (some (text ++ rest)) := by
  obtain ⟨c, cs, rfl, hblank, hcomma, hclose⟩ := h
  have hcs := skipBlanks_cons hblank (cs ++ rest)
  cases begun with
  | false =>
    simp only [separator, Bool.false_eq_true, if_false, List.nil_append, List.cons_append, nextElement, hcs]
    split <;> simp_all
  | true =>
    have hmark := skipBlanks_cons (show isBlank ',' = false from rfl) (c :: (cs ++ rest))
    simp only [separator, if_true, List.nil_append, List.cons_append, nextElement, hmark, hcs]
    split <;> simp_all

section Lists

variable {α : Type} {read : Reader α} {write : α → List Char}

theorem readElements_separated {as : List α} (htakes : ∀ a ∈ as, Takes read (write a) a)
    (hopens : ∀ a ∈ as, Opens (write a)) {fuel : Nat} (hfuel : as.length < fuel) (begun : Bool)
    (rest : List Char) :
    readElements read fuel begun (separated begun (as.map write) ++ ']' :: rest) = .ok (as, rest) := by
  induction as generalizing fuel begun with
  | nil =>
    obtain ⟨k, rfl⟩ : ∃ k, fuel = k + 1 := ⟨fuel - 1, by simp only [List.length_nil] at hfuel; omega⟩
    cases begun <;> rfl
  | cons a as ih =>
    simp only [List.length_cons] at hfuel
    obtain ⟨k, rfl⟩ : ∃ k, fuel = k + 1 := ⟨fuel - 1, by omega⟩
    have htail : EndsValue (separated true (as.map write) ++ ']' :: rest) :=
      endsValue_separated _ (.inl rfl) rest
    have hnext := nextElement_separator begun (hopens a List.mem_cons_self)
      (separated true (as.map write) ++ ']' :: rest)
    have hread := htakes a List.mem_cons_self _ htail
    have hmore := ih (fun b hb => htakes b (List.mem_cons_of_mem a hb))
      (fun b hb => hopens b (List.mem_cons_of_mem a hb)) (show as.length < k by omega) true
    simp only [List.map_cons, separated, List.append_assoc, readElements, hnext, bind, Except.bind, hread,
      hmore]
    rfl

theorem Takes.list {as : List α} (htakes : ∀ a ∈ as, Takes read (write a) a)
    (hopens : ∀ a ∈ as, Opens (write a)) : Takes (readList read) (writeList (as.map write)) as := by
  intro rest _
  have hfuel := length_le_joined (as.map write) ']' rest
  rw [List.length_map] at hfuel
  have hread := readElements_separated htakes hopens (Nat.lt_succ_of_le hfuel) false rest
  rw [← writeJoined_eq_separated] at hread
  simp only [readList, writeList, List.cons_append, List.append_assoc, List.nil_append,
    skipBlanks_cons (show isBlank '[' = false from rfl)]
  exact hread

end Lists

/-! ### Records -/

theorem Takes.into {σ α : Type} {read : Reader α} {text : List Char} {a : α} (h : Takes read text a)
    (store : α → σ) : Takes (into read store) text (store a) := by
  intro rest hrest
  rw [Json.into, h rest hrest]
  rfl

/-- Written entries that fill in the fields of a record, from one state of it to another. -/
inductive Fills {σ : Type} (fields : List (Field σ)) : σ → List (List Char) → σ → Prop where
  | nil (s : σ) : Fills fields s [] s
  | cons {s t u : σ} {name : String} {f : Field σ} {value : List Char} {entries : List (List Char)}
      (hf : fields.find? (·.name == name) = some f) (hnew : f.given s = false)
      (hvalue : Takes (f.read s) value t) (hrest : Fills fields t entries u) :
      Fills fields s (writeEntry name value :: entries) u

namespace Fills

variable {σ : Type} {fields : List (Field σ)} {s t u : σ} {name : String} {f : Field σ}
variable {value : List Char} {entries more : List (List Char)}

theorem append (h : Fills fields s entries t) (h' : Fills fields t more u) :
    Fills fields s (entries ++ more) u := by
  induction h with
  | nil s => exact h'
  | cons hf hnew hvalue _ ih => exact .cons hf hnew hvalue (ih h')

theorem snoc {α : Type} {read : Reader α} {a : α} (h : Fills fields s entries t) (name : String)
    (put : α → σ) (hf : fields.find? (·.name == name) = some f) (hnew : f.given t = false)
    (hread : f.read t = into read put) (hvalue : Takes read value a) :
    Fills fields s (entries ++ [writeEntry name value]) (put a) :=
  h.append (.cons hf hnew (hread ▸ hvalue.into put) (.nil _))

/- Before its name, an entry has a comma or nothing. -/
theorem readEntries_separator (fuel : Nat) (begun : Bool) (s : σ) (cs : List Char) :
    readEntries fields (fuel + 1) begun s (separator begun ++ '"' :: cs) = (do
      let (name, afterName) ← readChars cs
      match fields.find? (·.name == String.ofList name) with
      | some f =>
        if f.given s then .error (fieldFault "duplicate" f.name)
        else
          let (t, after) ← f.read s (← readMark ':' afterName)
          readEntries fields fuel true t after
      | none => readEntries fields fuel true s (← skipValue (← readMark ':' afterName))) := by
  cases begun <;> rfl

theorem readEntries_entry (hf : fields.find? (·.name == name) = some f) (hnew : f.given s = false)
    (hvalue : Takes (f.read s) value t) (fuel : Nat) (begun : Bool) {rest : List Char}
    (hrest : EndsValue rest) :
    readEntries fields (fuel + 1) begun s (separator begun ++ (writeEntry name value ++ rest)) =
      readEntries fields fuel true t rest := by
  have hname := readChars_written name.toList (':' :: (value ++ rest))
  have hmark : readMark ':' (':' :: (value ++ rest)) = .ok (value ++ rest) := rfl
  have hread := hvalue rest hrest
  simp only [writeEntry, writeString, List.cons_append, List.append_assoc, List.nil_append]
  rw [readEntries_separator]
  simp only [bind, Except.bind, hname, String.ofList_toList, hf, hnew, hmark, hread, Bool.false_eq_true,
    if_false]

theorem readEntries (h : Fills fields s entries t) (hfull : missing? fields t = none) {fuel : Nat}
    (hfuel : entries.length < fuel) (begun : Bool) (rest : List Char) :
    Json.readEntries fields fuel begun s (separated begun entries ++ '}' :: rest) = .ok (t, rest) := by
  induction h generalizing fuel begun with
  | nil s =>
    obtain ⟨k, rfl⟩ : ∃ k, fuel = k + 1 := ⟨fuel - 1, by simp only [List.length_nil] at hfuel; omega⟩
    have hclose : Json.readEntries fields (k + 1) begun s ('}' :: rest) =
        match missing? fields s with
        | some f => .error (fieldFault "missing" f.name)
        | none => .ok (s, rest) := by
      cases begun <;> rfl
    rw [separated, List.nil_append, hclose, hfull]
  | @cons s t u name f value entries hf hnew hvalue _ ih =>
    simp only [List.length_cons] at hfuel
    obtain ⟨k, rfl⟩ : ∃ k, fuel = k + 1 := ⟨fuel - 1, by omega⟩
    have htail : EndsValue (separated true entries ++ '}' :: rest) :=
      endsValue_separated entries (.inr rfl) rest
    have hentry := readEntries_entry hf hnew hvalue k begun htail
    rw [separated, List.append_assoc, List.append_assoc, hentry]
    exact ih hfull (by omega) true

theorem takes (h : Fills fields s entries t) (hfull : missing? fields t = none) (title : String) :
    Takes (readRecord title fields s) (writeObject entries) t := by
  intro rest _
  have hfuel := length_le_joined entries '}' rest
  have hread := h.readEntries hfull (Nat.lt_succ_of_le hfuel) false rest
  rw [← writeJoined_eq_separated] at hread
  simp only [readRecord, writeObject, List.cons_append, List.append_assoc, List.nil_append,
    skipBlanks_cons (show isBlank '{' = false from rfl)]
  exact hread

/- Without a value there is no entry, and the field stays as it was. -/
theorem optional (h : Fills fields s entries t) (name : String) (put : Option (Option String) → σ)
    (ht : put none = t) (hf : fields.find? (·.name == name) = some f) (hnew : f.given t = false)
    (hread : f.read t = into (readOption (readString "a string")) fun a => put (some a))
    (text : Option String) :
    Fills fields s (entries ++ optionalEntry name text) (put (text.map some)) := by
  cases text with
  | none =>
    rw [optionalEntry, Option.map_none, Option.toList_none, List.append_nil, Option.map_none, ht]
    exact h
  | some value => exact h.snoc name (fun a => put (some a)) hf hnew hread (takes_optional_string "a string" value)

end Fills

/-! ### Guilds, limits and reports -/

theorem takes_member (m : Member) : Takes readMember (writeMember m) m := by
  obtain ⟨id, name, tag, nick, bot⟩ := m
  have hid := (Fills.nil _ : Fills memberFields {} [] {}).snoc "id"
    (fun id => { id := some id }) rfl rfl rfl (takes_unsigned "u64" id)
  have hname := hid.snoc "name"
    (fun name => { id := some id, name := some name }) rfl rfl rfl (takes_string "a string" name)
  have htag := hname.snoc "discriminator"
    (fun tag => { id := some id, name := some name, discriminator := some tag }) rfl rfl rfl
    (takes_string "a string" tag)
  have hnick := htag.optional "nick"
    (fun nick => { id := some id, name := some name, discriminator := some tag, nick := nick }) rfl rfl rfl
    rfl nick
  have hbot := hnick.snoc "bot"
    (fun bot => { id := some id, name := some name, discriminator := some tag, nick := nick.map some,
                  bot := some bot }) rfl rfl rfl (takes_bool bot)
  have hread := (hbot.takes rfl "struct Member").into MemberDraft.member
  cases nick <;> exact hread

theorem takes_guild (g : Guild) : Takes readGuild (writeGuild g) g := by
  have hmembers : Takes (readList readMember) (writeList (g.members.map writeMember)) g.members :=
    .list (fun m _ => takes_member m) fun m _ => ⟨'{', _, rfl, rfl, by decide, by decide⟩
  have hfields := (Fills.nil _ : Fills guildFields none [] none).snoc "members" some rfl rfl rfl hmembers
  exact (hfields.takes rfl "struct StaticGuild").into _

theorem takes_limits (l : Limits) : Takes readLimits (writeLimits l) l := by
  obtain ⟨gas, output⟩ := l
  have hgas := (Fills.nil _ : Fills limitsFields {} [] {}).snoc "gas_limit"
    (fun gas => { gas := some gas }) rfl rfl rfl (takes_unsigned "u64" gas)
  have hoption : Takes (readOption (readUnsigned "usize"))
      (output.elim "null".toList fun n => writeNat n.toNat) output := by
    cases output with
    | none => exact takes_null
    | some n =>
      obtain ⟨c, cs, hc, hdigit, hblank⟩ := writeNat_begins n.toNat
      refine (takes_unsigned "usize" n).some hc hblank ?_
      rintro rfl
      exact absurd hdigit (by decide)
  have houtput := hgas.snoc "max_output_len"
    (fun output => { gas := some gas, output := some output }) rfl rfl rfl hoption
  exact (houtput.takes rfl "struct EvalConfig").into _

theorem takes_report (r : Report) : Takes readReport (writeReport r) r := by
  obtain ⟨kind, source, message, cause⟩ := r
  have hkind := (Fills.nil _ : Fills reportFields {} [] {}).snoc "kind"
    (fun kind => { kind := some kind }) rfl rfl rfl (takes_kind kind)
  have hsource := hkind.optional "source_function"
    (fun source => { kind := some kind, source := source }) rfl rfl rfl rfl source
  have hmessage := hsource.snoc "message"
    (fun message => { kind := some kind, source := source.map some, message := some message }) rfl rfl rfl
    (takes_string "a string" message)
  have hcause := hmessage.optional "cause"
    (fun cause => { kind := some kind, source := source.map some, message := some message,
                    cause := cause }) rfl rfl rfl rfl cause
  have hread := (hcause.takes rfl "struct ErrorReport").into fun d : ReportDraft =>
    ({ kind := d.kind.getD .invalidArgument, source := d.source.getD none,
       message := d.message.getD "", cause := d.cause.getD none } : Report)
  cases source <;> cases cause <;> exact hread

theorem readAll_of_takes {α : Type} {read : Reader α} {text : List Char} {a : α} (h : Takes read text a) :
    readAll read (String.ofList text) = .ok a := by
  have hread := h [] (.inl rfl)
  rw [List.append_nil] at hread
  simp only [readAll, String.toList_ofList, hread, bind, Except.bind]
  rfl

/-- Every guild, all limits and every report are read back from their written form. -/
theorem parse_written :
    (∀ g : Guild, parseGuild (String.ofList (writeGuild g)) = .ok g) ∧
    (∀ l : Limits, parseLimits (String.ofList (writeLimits l)) = .ok l) ∧
    (∀ r : Report, parseReport (String.ofList (writeReport r)) = .ok r) :=
  ⟨fun g => readAll_of_takes (takes_guild g), fun l => readAll_of_takes (takes_limits l),
    fun r => readAll_of_takes (takes_report r)⟩

end Stencil.Json
