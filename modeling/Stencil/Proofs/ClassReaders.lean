import Stencil.Proofs.Readers

/-!
# Escapes and classes before a closing parenthesis

The readers of escapes and of classes in brackets. An escape may be followed by a brace that belongs to a repetition,
and an item of a class stops before what closes the class, so that these readers are looked at together with the
reader that comes next.
-/

namespace Stencil.Pattern

open Reading (rest extend)

variable {β : Type} [Reading β] (f : Flags)

/-! ### Escapes -/

theorem reads_hexDigits (n acc : Nat) : Reads (readHexDigits f n acc) := by
  induction n generalizing acc with
  | zero => exact reads_take acc
  | succ n ih =>
    refine (Takes.of_cons rfl fun c => ?_).toReads
    simp only [readHexDigits]
    split
    · exact (ih _).after_skip f
    · exact .fail

theorem takes_hexDigits (n acc : Nat) : Takes (readHexDigits f (n + 1) acc) := by
  refine .of_cons rfl fun c => ?_
  simp only [readHexDigits]
  split
  · exact (reads_hexDigits f n _).after_skip f
  · exact .fail

theorem reads_braced (n : Nat) : Reads (readBraced f n) := by
  induction n with
  | zero => exact .fail
  | succ n ih =>
    refine (Takes.of_cons rfl fun c => ?_).toReads
    simp only [readBraced]
    refine .ite (fun _ _ => Iff.rfl) (reads_take []) ?_
    exact (ih.after_skip f).map (fun _ => rfl) (fun _ _ => rfl)

theorem readBraced_fuel (n m : Nat) (cs : List Char) (hn : cs.length ≤ n) (hm : cs.length ≤ m) :
    readBraced f n cs = readBraced f m cs := by
  refine fuel_enough f (fun n => ?_) (fun n m c cs h => ?_) n m cs hn hm
  · cases n <;> rfl
  · simp only [readBraced, h]

/- The braces of an escape, after the first one. -/
theorem reads_braces : Reads fun cs : List Char => readBraced f (cs.length + 1) (f.skip cs) := by
  have hread := (Reads.fueled (reads_braced f) (readBraced_fuel f)).after_skip f
  have heq (cs : List Char) :
      readBraced f (cs.length + 1) (f.skip cs) = readBraced f (f.skip cs).length (f.skip cs) := by
    have hle := (f.skip_suffix cs).length_le
    exact readBraced_fuel f _ _ _ (by omega) (Nat.le_refl _)
  simp only [heq]
  exact hread

theorem takes_hex (n : Nat) : Takes (readHex f (n + 1)) := by
  refine .of_skip f (fun cs => ?_) ?_ (fun c hc => ?_)
  · simp only [readHex, f.skip_skip]
  · simp [readHex, f.skip_nil, readHexDigits]
  · by_cases hbrace : c = '{'
    · subst hbrace
      simp only [readHex, hc _]
      refine (reads_braces f).bind (.ofPair fun body => ?_)
      dsimp only
      exact .value fun k => .value fun c => reads_take_skip f (Primitive.literal c false)
    · simp only [readHex, hc _, List.cons.injEq, hbrace, false_and, imp_false, not_false_eq_true, implies_true]
      refine ((takes_hexDigits f n 0).cons c).bind (.ofPair fun k => ?_)
      dsimp only
      exact .value fun c => reads_take (Primitive.literal c (n + 1 == 2))

theorem takes_property (negated : Bool) : Takes (readProperty f negated) := by
  have hname (name : List Char) : Reads fun after : List Char => do
      let test ← propertyTest? name
      if !f.unicode then none
      let k ← foldNegate f negated ⟨test⟩
      return (Primitive.named k, after) := by
    refine .value fun test => ?_
    split
    · exact .fail
    · exact .value fun k => reads_take _
  refine .of_skip f (fun cs => ?_) ?_ (fun c hc => ?_)
  · simp only [readProperty, f.skip_skip]
  · simp [readProperty, f.skip_nil]
  · by_cases hbrace : c = '{'
    · subst hbrace
      simp only [readProperty, hc _]
      refine (reads_braces f).bind (.ofPair fun name => ?_)
      exact hname name
    · simp only [readProperty, hc _]
      refine .ite (fun _ _ => Iff.rfl) .fail ?_
      refine (reads_take_skip f [c]).bind (.ofPair fun name => ?_)
      exact hname name

theorem reads_lookName (n : Nat) : Reads fun cs => some (readLookName f n cs) := by
  induction n with
  | zero => exact reads_take []
  | succ n ih =>
    refine .of_stop rfl rfl (fun _ => rfl) fun c => ?_
    by_cases hname : isLookNameChar c
    · left
      simp only [readLookName, hname, if_true]
      have hcons : Reads fun p : List Char × List Char => some (c :: p.1, p.2) := .give (fun _ => rfl) fun _ _ => rfl
      exact (ih.after_skip f).bind hcons
    · right
      intro cs
      simp [readLookName, hname, extend]

theorem readLookName_fuel (n m : Nat) (cs : List Char) (hn : cs.length ≤ n) (hm : cs.length ≤ m) :
    readLookName f n cs = readLookName f m cs := by
  refine fuel_enough f (fun n => ?_) (fun n m c cs h => ?_) n m cs hn hm
  · cases n <;> rfl
  · simp only [readLookName, h]

theorem reads_lookNames : Reads fun cs : List Char => some (readLookName f cs.length cs) :=
  .fueled (reads_lookName f) fun n m cs hn hm => congrArg some (readLookName_fuel f n m cs hn hm)

def lookNamed (name : List Char) : List Char → Option (Look × List Char)
  | '}' :: after =>
    match String.ofList name with
    | "start" => some (.wordStart f.unicode, after)
    | "end" => some (.wordEnd f.unicode, after)
    | "start-half" => some (.wordStartHalf f.unicode, after)
    | "end-half" => some (.wordEndHalf f.unicode, after)
    | _ => none
  | _ => none

theorem takes_lookNamed (name : List Char) : Takes (lookNamed f name) := by
  refine .of_cons rfl fun c => ?_
  by_cases hbrace : c = '}'
  · subst hbrace
    simp only [lookNamed]
    split
    · exact reads_take _
    · exact reads_take _
    · exact reads_take _
    · exact reads_take _
    · exact .fail
  · simp only [lookNamed, List.cons.injEq, hbrace, false_and, imp_false, not_false_eq_true, implies_true]
    exact .fail

theorem takes_named : Takes fun cs : List Char =>
    some (readLookName f cs.length cs) >>= fun p => lookNamed f p.1 p.2 :=
  .after (reads_lookNames f) (.ofPair (takes_lookNamed f))

theorem readWordLook_of_ne {c : Char} (hc : c ≠ '{') (cs : List Char) :
    readWordLook f (c :: cs) = some (.wordBoundary f.unicode, c :: cs) := by
  simp [readWordLook, hc]

theorem readWordLook_nothing {cs : List Char} (hskip : f.skip cs = []) : readWordLook f ('{' :: cs) = none := by
  simp [readWordLook, hskip]

theorem readWordLook_unnamed {c : Char} {cs inner : List Char} (hskip : f.skip cs = c :: inner)
    (hc : ¬ isLookNameChar c) : readWordLook f ('{' :: cs) = some (.wordBoundary f.unicode, '{' :: cs) := by
  simp [readWordLook, hskip, hc]

theorem readWordLook_named {c : Char} {cs inner : List Char} (hskip : f.skip cs = c :: inner)
    (hc : isLookNameChar c) : readWordLook f ('{' :: cs) =
      some (readLookName f (c :: inner).length (c :: inner)) >>= fun p => lookNamed f p.1 p.2 := by
  simp only [readWordLook, hskip, hc, List.length_cons]
  show _ = lookNamed f (readLookName f (inner.length + 1) (c :: inner)).1
    (readLookName f (inner.length + 1) (c :: inner)).2
  rcases readLookName f (inner.length + 1) (c :: inner) with ⟨name, tail⟩
  cases tail with
  | nil => rfl
  | cons c' after =>
    by_cases hbrace : c' = '}'
    · subst hbrace
      rfl
    · simp [lookNamed, hbrace]

theorem readWordLook_suffix {cs : List Char} {b : Look × List Char} (h : readWordLook f cs = some b) :
    b.2 <:+ cs := by
  cases cs with
  | nil =>
    cases h
    exact List.suffix_rfl
  | cons c cs =>
    by_cases hc : c = '{'
    · subst hc
      cases hskip : f.skip cs with
      | nil =>
        rw [readWordLook_nothing f hskip] at h
        cases h
      | cons c inner =>
        by_cases hc : isLookNameChar c
        · rw [readWordLook_named f hskip hc, ← hskip] at h
          have hsuffix := (takes_named f).suffix _ b h
          exact (hsuffix.trans (f.skip_suffix cs)).trans (List.suffix_cons '{' cs)
        · rw [readWordLook_unnamed f hskip hc] at h
          cases h
          exact List.suffix_rfl
    · rw [readWordLook_of_ne f hc] at h
      cases h
      exact List.suffix_rfl

/- With the brace still open at the end of the text nothing can be read there, while before the parenthesis the brace is
left for a repetition: the reader that follows has to take it. -/
theorem reads_wordLook {s : Look × List Char → Option β} (hs : ∀ a, Reads fun cs => s (a, cs))
    (hbrace : ∀ a cs b, s (a, '{' :: cs) = some b → (rest b).length < (f.skip cs).length) :
    Reads fun cs => readWordLook f cs >>= s := by
  have hnamed := (takes_named f).bind (Reads.ofPair hs)
  have hplain := hs (.wordBoundary f.unicode)
  refine ⟨fun cs b h => ?_, fun cs => ?_⟩
  · obtain ⟨p, hp, hb⟩ := Option.bind_eq_some_iff.1 h
    exact ((hs p.1).suffix p.2 b hb).trans (readWordLook_suffix f hp)
  · cases cs with
    | nil => exact hplain.agrees []
    | cons c cs =>
      by_cases hc : c = '{'
      · subst hc
        -- Whatever is read there, it is read after the brace.
        have hlength : ∀ cs b, (readWordLook f ('{' :: cs) >>= s) = some b → (rest b).length < (f.skip cs).length := by
          intro cs b h
          cases hskip : f.skip cs with
          | nil =>
            rw [readWordLook_nothing f hskip] at h
            cases h
          | cons c inner =>
            by_cases hc : isLookNameChar c
            · rw [readWordLook_named f hskip hc] at h
              exact hnamed.shorter _ b h
            · rw [readWordLook_unnamed f hskip hc] at h
              rw [← hskip]
              exact hbrace _ cs b h
        cases hskip : f.skip cs with
        | nil =>
          rw [readWordLook_nothing f hskip]
          refine .of_none fun after b h => ?_
          have hright : (f.skip (cs ++ ')' :: after)).length ≤ after.length + 1 := by
            rcases f.skip_append cs with hsame | ⟨-, -, hpassed⟩
            · simp [hsame, hskip]
            · exact Nat.le_succ_of_le (hpassed after)
          have hshort : (rest b).length < (f.skip (cs ++ ')' :: after)).length := hlength _ b h
          omega
        | cons c inner =>
          have hright (after : List Char) : f.skip (cs ++ ')' :: after) = c :: (inner ++ ')' :: after) := by
            rcases f.skip_append cs with hsame | ⟨hempty, -, -⟩
            · rw [hsame, hskip]
              rfl
            · rw [hskip] at hempty
              cases hempty
          by_cases hc : isLookNameChar c
          · simp only [extend_cons, readWordLook_named f hskip hc, readWordLook_named f (hright _) hc]
            exact hnamed.agrees (c :: inner)
          · simp only [extend_cons, readWordLook_unnamed f hskip hc, readWordLook_unnamed f (hright _) hc]
            exact hplain.agrees ('{' :: cs)
      · simp only [extend_cons, readWordLook_of_ne f hc]
        exact hplain.agrees (c :: cs)

theorem readEscape_look (cs : List Char) :
    readEscape f ('b' :: cs) = (readWordLook f cs).map fun p => (.look p.1, p.2) := rfl

/- All escapes but the one whose name may stand in braces. -/
theorem reads_escape {c : Char} (hc : c ≠ 'b') : Reads fun cs => readEscape f (c :: cs) := by
  have hclass (c : Char) : Reads fun cs : List Char => (shorthandClass? f c).map fun k => (Primitive.named k, cs) := by
    cases shorthandClass? f c with
    | none => exact .fail
    | some k => exact reads_take (Primitive.named k)
  unfold readEscape
  dsimp only
  split <;> try exact reads_take _
  · exact (takes_hex f 1).toReads
  · exact (takes_hex f 3).toReads
  · exact (takes_hex f 7).toReads
  · exact (takes_property f false).toReads
  · exact (takes_property f true).toReads
  · exact hclass 'd'
  · exact hclass 's'
  · exact hclass 'w'
  · exact hclass 'D'
  · exact hclass 'S'
  · exact hclass 'W'
  · exact absurd rfl hc
  · exact .ite (fun _ _ => Iff.rfl) (reads_take _) .fail

theorem readEscape_suffix {cs : List Char} {b : Primitive × List Char} (h : readEscape f cs = some b) : b.2 <:+ cs := by
  cases cs with
  | nil => cases h
  | cons c cs =>
    refine List.IsSuffix.trans ?_ (List.suffix_cons c cs)
    by_cases hc : c = 'b'
    · subst hc
      obtain ⟨p, hp, rfl⟩ := Option.map_eq_some_iff.1 h
      exact readWordLook_suffix f hp
    · exact (reads_escape f hc).suffix cs b h

theorem readClassItem_of_ne {c : Char} (hc : c ≠ '\\') (cs : List Char) :
    readClassItem f (c :: cs) = some (.literal c false, cs) := by
  simp [readClassItem]

theorem readClassItem_suffix {c : Char} {cs : List Char} {b : Primitive × List Char}
    (h : readClassItem f (c :: cs) = some b) : b.2 <:+ cs := by
  by_cases hc : c = '\\'
  · subst hc
    exact readEscape_suffix f h
  · rw [readClassItem_of_ne f hc] at h
    cases h
    exact List.suffix_rfl

section Next

/- What follows an escape; a brace after a condition belongs to a repetition. -/
variable {s : Primitive × List Char → Option β} (hs : ∀ p, Reads fun cs => s (p, cs))
  (hbrace : ∀ a cs b, s (.look a, '{' :: cs) = some b → (rest b).length < (f.skip cs).length)

include hs hbrace

theorem takes_escape : Takes fun cs => readEscape f cs >>= s := by
  refine .of_cons rfl fun c => ?_
  by_cases hc : c = 'b'
  · subst hc
    have hread := reads_wordLook (s := fun p => s (.look p.1, p.2)) f (fun a => hs (.look a)) hbrace
    have heq (cs : List Char) : (readEscape f ('b' :: cs) >>= s) =
        readWordLook f cs >>= fun p => s (.look p.1, p.2) := by
      rw [readEscape_look]
      cases readWordLook f cs <;> rfl
    simp only [heq]
    exact hread
  · exact (reads_escape f hc).bind (.ofPair hs)

theorem takes_classItem : Takes fun cs => readClassItem f cs >>= s := by
  refine .of_cons rfl fun c => ?_
  by_cases hc : c = '\\'
  · subst hc
    exact (takes_escape f hs hbrace).toReads
  · simp only [readClassItem_of_ne f hc]
    exact hs (.literal c false)

end Next

/-! ### Classes -/

theorem peekSpace_append (inComment : Bool) (cs after : List Char) :
    peekSpace inComment (cs ++ ')' :: after) = (peekSpace inComment cs).or (some ')') := by
  induction cs generalizing inComment with
  | nil => cases inComment <;> rfl
  | cons c cs ih =>
    simp only [List.cons_append, peekSpace, ih]
    split
    · rfl
    · split <;> rfl

theorem head?_of_peekSpace {cs : List Char} {c : Char} (h : peekSpace false cs = none) (hc : cs.head? = some c) :
    Unicode.isBlank c ∨ c = '#' := by
  cases cs with
  | nil => cases hc
  | cons c' cs =>
    cases hc
    simp only [peekSpace] at h
    split at h
    · exact .inl ‹_›
    · split at h
      · exact .inr (by simp_all)
      · cases h

theorem peek_append {c : Char} (hblank : ¬ Unicode.isBlank c) (hcomment : c ≠ '#') (hparen : c ≠ ')')
    (cs after : List Char) : f.peek (cs ++ ')' :: after) = some c ↔ f.peek cs = some c := by
  unfold Flags.peek
  split
  · rw [peekSpace_append]
    cases hpeek : peekSpace false cs with
    | some c' => simp
    | none =>
      simp only [Option.none_or, Option.some_or, Option.some.injEq]
      constructor
      · intro h
        exact absurd h.symm hparen
      · intro h
        rcases head?_of_peekSpace hpeek h with hc | hc
        · exact absurd hc hblank
        · exact absurd hc hcomment
  · cases cs with
    | nil => simp [hparen.symm]
    | cons c' cs => simp

def itemClass? : Primitive → Option CharClass
  | .named k => some k
  | p => (classLiteral? f p).map .single

def spanClass? (first last : Primitive) : Option CharClass := do
  let a ← classLiteral? f first
  let b ← classLiteral? f last
  if a ≤ b then some (.range a b) else none

def rangeFrom (first : Primitive) (cs : List Char) : Option (CharClass × List Char) :=
  match f.skip cs with
  | [] => none
  | c :: rest =>
    if c ≠ '-' ∨ f.peek rest = some ']' ∨ f.peek rest = some '-' then
      itemClass? f first >>= fun k => some (k, c :: rest)
    else readClassItem f (f.skip rest) >>= fun p => spanClass? f first p.1 >>= fun k => some (k, p.2)

theorem readClassRange_eq (cs : List Char) :
    readClassRange f cs = readClassItem f cs >>= fun p => rangeFrom f p.1 p.2 := by
  unfold readClassRange rangeFrom
  refine bind_congr fun p => ?_
  obtain ⟨first, tail⟩ := p
  dsimp only
  cases f.skip tail with
  | nil => rfl
  | cons c inner =>
    simp only [Bool.or_eq_true, bne_iff_ne, beq_iff_eq, or_assoc]
    split
    · cases first with
      | named k => rfl
      | literal c' byte => cases h : classLiteral? f (.literal c' byte) <;> simp [itemClass?, h]
      | look a => rfl
    · refine bind_congr fun q => ?_
      obtain ⟨last, after⟩ := q
      cases hfirst : classLiteral? f first with
      | none => simp [spanClass?, hfirst]
      | some a =>
        cases hlast : classLiteral? f last with
        | none => simp [spanClass?, hfirst, hlast]
        | some b =>
          simp only [spanClass?, hfirst, hlast, Option.bind_eq_bind, Option.bind_some]
          split <;> rfl

theorem rangeFrom_look (a : Look) (cs : List Char) : rangeFrom f (.look a) cs = none := by
  unfold rangeFrom
  cases f.skip cs with
  | nil => rfl
  | cons c inner =>
    dsimp only
    split
    · rfl
    · cases readClassItem f (f.skip inner) <;> rfl

theorem rangeFrom_suffix {first : Primitive} {cs : List Char} {b : CharClass × List Char}
    (h : rangeFrom f first cs = some b) : b.2 <:+ cs := by
  refine List.IsSuffix.trans ?_ (f.skip_suffix cs)
  unfold rangeFrom at h
  split at h
  · cases h
  · rename_i c inner hskip
    rw [hskip]
    split at h
    · obtain ⟨k, -, hb⟩ := Option.bind_eq_some_iff.1 h
      cases hb
      exact List.suffix_rfl
    · obtain ⟨p, hp, hb⟩ := Option.bind_eq_some_iff.1 h
      obtain ⟨k, -, hb⟩ := Option.bind_eq_some_iff.1 hb
      cases hb
      have hinner := f.skip_suffix inner
      cases hlast : f.skip inner with
      | nil =>
        rw [hlast] at hp
        cases hp
      | cons c' last =>
        rw [hlast] at hp hinner
        have hitem := (readClassItem_suffix f hp).trans (List.suffix_cons c' last)
        exact (hitem.trans hinner).trans (List.suffix_cons c inner)

theorem readClassRange_suffix {c : Char} {cs : List Char} {b : CharClass × List Char}
    (h : readClassRange f (c :: cs) = some b) : b.2 <:+ cs := by
  rw [readClassRange_eq] at h
  obtain ⟨p, hp, hb⟩ := Option.bind_eq_some_iff.1 h
  exact (rangeFrom_suffix f hb).trans (readClassItem_suffix f hp)

section Next

variable {s : CharClass × List Char → Option β} (hs : ∀ k, Takes fun cs => s (k, cs))

include hs

theorem takes_rangeFrom (first : Primitive) : Takes fun cs => rangeFrom f first cs >>= s := by
  have hspan : Takes fun cs => readClassItem f cs >>= fun p => spanClass? f first p.1 >>= fun k => s (k, p.2) := by
    refine takes_classItem f (fun p => ?_) fun a cs b h => ?_
    · dsimp only
      exact .value fun k => (hs k).toReads
    · cases first <;> simp [spanClass?, classLiteral?] at h
  refine .of_skip f (fun cs => ?_) ?_ (fun c hc => ?_)
  · simp only [rangeFrom, f.skip_skip]
  · simp [rangeFrom, f.skip_nil]
  · have hread : Reads fun cs =>
        if c ≠ '-' ∨ f.peek cs = some ']' ∨ f.peek cs = some '-' then itemClass? f first >>= fun k => s (k, c :: cs)
        else readClassItem f (f.skip cs) >>= fun p => spanClass? f first p.1 >>= fun k => s (k, p.2) := by
      refine .ite (fun cs after => ?_) (.value fun k => (hs k).cons c) (hspan.toReads.after_skip f)
      have hclose : f.peek (cs ++ ')' :: after) = some ']' ↔ f.peek cs = some ']' :=
        peek_append f (by decide) (by decide) (by decide) cs after
      have hhyphen : f.peek (cs ++ ')' :: after) = some '-' ↔ f.peek cs = some '-' :=
        peek_append f (by decide) (by decide) (by decide) cs after
      simp only [extend, hclose, hhyphen]
    have heq (cs : List Char) : (rangeFrom f first (c :: cs) >>= s) =
        if c ≠ '-' ∨ f.peek cs = some ']' ∨ f.peek cs = some '-' then itemClass? f first >>= fun k => s (k, c :: cs)
        else readClassItem f (f.skip cs) >>= fun p => spanClass? f first p.1 >>= fun k => s (k, p.2) := by
      simp only [rangeFrom, hc _]
      split <;> simp [Option.bind_assoc]
    simp only [heq]
    exact hread

theorem takes_classRange : Takes fun cs => readClassRange f cs >>= s := by
  have hread : Takes fun cs => readClassItem f cs >>= fun p => rangeFrom f p.1 p.2 >>= s := by
    refine takes_classItem f (fun p => (takes_rangeFrom f hs p).toReads) fun a cs b h => ?_
    rw [rangeFrom_look] at h
    cases h
  simp only [readClassRange_eq, bind_assoc]
  exact hread

end Next

/- No name of a class has a parenthesis in it. -/
theorem not_mem_of_asciiClass? {cs : List Char} {p : Char → Bool} (h : asciiClass? (String.ofList cs) = some p) :
    ')' ∉ cs := by
  have hname : ∀ s : String, String.ofList cs = s → ')' ∉ s.toList → ')' ∉ cs := by
    intro s hs
    rw [← hs, String.toList_ofList]
    exact id
  unfold asciiClass? at h
  split at h
  all_goals first | cases h; done | exact hname _ ‹_› (by decide)

def asciiNamed (negated : Bool) (body : List Char) : Option (Bool × (Char → Bool) × List Char) :=
  match body.dropWhile (· != ':') with
  | ':' :: ']' :: after =>
    (asciiClass? (String.ofList (body.takeWhile (· != ':')))).map fun p => (negated, p, after)
  | _ => none

/- A name that has not ended at the end of the text goes on over the parenthesis. -/
theorem span_append {p : Char → Bool} (hp : p ')') (cs after : List Char) :
    (cs.dropWhile p = [] ∧ ')' ∈ (cs ++ ')' :: after).takeWhile p) ∨
    (cs.dropWhile p ≠ [] ∧ (cs ++ ')' :: after).takeWhile p = cs.takeWhile p ∧
      (cs ++ ')' :: after).dropWhile p = cs.dropWhile p ++ ')' :: after) := by
  induction cs with
  | nil => exact .inl ⟨rfl, by simp [hp]⟩
  | cons c cs ih =>
    by_cases hc : p c
    · simp only [List.cons_append, List.takeWhile_cons_of_pos hc, List.dropWhile_cons_of_pos hc]
      rcases ih with ⟨hdrop, hmem⟩ | ⟨hdrop, htake, hrest⟩
      · exact .inl ⟨hdrop, List.mem_cons_of_mem c hmem⟩
      · exact .inr ⟨hdrop, congrArg (c :: ·) htake, hrest⟩
    · simp [hc]

theorem asciiNamed_append (negated : Bool) (body after : List Char) :
    asciiNamed negated (body ++ ')' :: after) = (asciiNamed negated body).map fun b => extend b (')' :: after) := by
  unfold asciiNamed
  rcases span_append (p := (· != ':')) rfl body after with ⟨hdrop, hmem⟩ | ⟨hdrop, htake, hrest⟩
  · have hnone : asciiClass? (String.ofList ((body ++ ')' :: after).takeWhile (· != ':'))) = none := by
      rw [Option.eq_none_iff_forall_ne_some]
      intro p hp
      exact not_mem_of_asciiClass? hp hmem
    rw [hdrop, hnone]
    split <;> rfl
  · rw [htake, hrest]
    cases htail : body.dropWhile (· != ':') with
    | nil => exact absurd htail hdrop
    | cons c tail =>
      by_cases hc : c = ':'
      · subst hc
        cases tail with
        | nil => rfl
        | cons c' tail =>
          by_cases hc' : c' = ']'
          · subst hc'
            cases h : asciiClass? (String.ofList (body.takeWhile (· != ':'))) <;> simp [extend]
          · simp [hc']
      · simp [hc]

theorem asciiNamed_suffix {negated : Bool} {body : List Char} {b : Bool × (Char → Bool) × List Char}
    (h : asciiNamed negated body = some b) : rest b <:+ body := by
  unfold asciiNamed at h
  split at h
  · rename_i after hdrop
    obtain ⟨p, -, rfl⟩ := Option.map_eq_some_iff.1 h
    have htail : after <:+ ':' :: ']' :: after := (List.suffix_cons _ _).trans (List.suffix_cons _ _)
    rw [← hdrop] at htail
    exact htail.trans (List.dropWhile_suffix _)
  · cases h

theorem readAscii?_of_colon {c : Char} (hc : c ≠ '^') (cs : List Char) :
    readAscii? (':' :: c :: cs) = asciiNamed false (c :: cs) := by
  simp [readAscii?, hc]
  rfl

theorem readAscii?_of_ne {c : Char} (hc : c ≠ ':') (cs : List Char) : readAscii? (c :: cs) = none := by
  simp [readAscii?, hc]

theorem readAscii?_append (cs after : List Char) :
    readAscii? (cs ++ ')' :: after) = (readAscii? cs).map fun b => extend b (')' :: after) := by
  cases cs with
  | nil => rfl
  | cons c cs =>
    by_cases hc : c = ':'
    · subst hc
      cases cs with
      | nil => exact asciiNamed_append false [] after
      | cons c cs =>
        by_cases hc : c = '^'
        · subst hc
          exact asciiNamed_append true cs after
        · rw [readAscii?_of_colon hc, List.cons_append, List.cons_append, readAscii?_of_colon hc]
          exact asciiNamed_append false (c :: cs) after
    · rw [List.cons_append, readAscii?_of_ne hc, readAscii?_of_ne hc]
      rfl

theorem readAscii?_suffix {cs : List Char} {b : Bool × (Char → Bool) × List Char} (h : readAscii? cs = some b) :
    rest b <:+ cs := by
  cases cs with
  | nil => cases h
  | cons c cs =>
    by_cases hc : c = ':'
    · subst hc
      refine List.IsSuffix.trans ?_ (List.suffix_cons ':' cs)
      cases cs with
      | nil =>
        have hnamed : asciiNamed false [] = some b := h
        exact asciiNamed_suffix hnamed
      | cons c cs =>
        by_cases hc : c = '^'
        · subst hc
          exact (asciiNamed_suffix h).trans (List.suffix_cons '^' cs)
        · rw [readAscii?_of_colon hc] at h
          exact asciiNamed_suffix h
    · rw [readAscii?_of_ne hc] at h
      cases h

theorem reads_hyphens (n : Nat) (items : List Nested) : Reads fun cs => some (readHyphens f n items cs) := by
  induction n generalizing items with
  | zero => exact reads_take items
  | succ n ih =>
    refine .of_stop (b := (items, [])) rfl rfl (fun _ => rfl) fun c => ?_
    by_cases hc : c = '-'
    · subst hc
      exact .inl ((ih _).after_skip f)
    · right
      intro cs
      simp [readHyphens, hc, extend]

theorem readHyphens_fuel (n m : Nat) (items : List Nested) (cs : List Char) (hn : cs.length ≤ n) (hm : cs.length ≤ m) :
    readHyphens f n items cs = readHyphens f m items cs := by
  have hfuel := fuel_enough (R := fun n cs items => readHyphens f n items cs) f (fun n => ?_)
    (fun n m c cs h => ?_) n m cs hn hm
  · exact congrFun hfuel items
  · funext items
    cases n <;> rfl
  · funext items
    by_cases hc : c = '-'
    · subst hc
      exact congrFun h _
    · simp [readHyphens, hc]

theorem reads_allHyphens (items : List Nested) :
    Reads fun cs : List Char => some (readHyphens f (cs.length + 1) items cs) := by
  have hread := Reads.fueled (fun n => reads_hyphens f n items) fun n m cs hn hm =>
    congrArg some (readHyphens_fuel f n m items cs hn hm)
  have heq (cs : List Char) : readHyphens f (cs.length + 1) items cs = readHyphens f cs.length items cs :=
    readHyphens_fuel f _ _ items cs (Nat.le_succ _) (Nat.le_refl _)
  simp only [heq]
  exact hread

def classMark (cs : List Char) : Bool × List Char :=
  match f.skip cs with
  | '^' :: rest => (true, f.skip rest)
  | rest => (false, rest)

def firstBracket (negated : Bool) (items : List Nested) (cs : List Char) : Bool × List Nested × List Char :=
  match items, cs with
  | [], ']' :: after => (negated, [⟨.single ']', 0⟩], f.skip after)
  | _, _ => (negated, items, cs)

theorem readClassOpen_eq (cs : List Char) : some (readClassOpen f cs) =
    some (classMark f cs) >>= fun p => some (readHyphens f (p.2.length + 1) [] p.2) >>= fun q =>
      some (firstBracket f p.1 q.1 q.2) := rfl

theorem reads_classMark : Reads fun cs => some (classMark f cs) := by
  refine .of_skip_stop (b := (false, [])) f (fun cs => ?_) rfl ?_ (fun cs => ?_) (fun c hc => ?_)
  · simp only [classMark, f.skip_skip]
  · simp [classMark, f.skip_nil]
  · simp [classMark, f.stops_paren _, extend]
  · by_cases hmark : c = '^'
    · subst hmark
      simp only [classMark, hc _]
      exact .inl (reads_take_skip f true)
    · right
      intro cs
      simp [classMark, hc _, hmark, extend]

theorem reads_firstBracket (negated : Bool) (items : List Nested) :
    Reads fun cs => some (firstBracket f negated items cs) := by
  have hkeep (items : List Nested) : Reads fun cs : List Char => some (negated, items, cs) :=
    .give (fun _ => rfl) fun _ _ => rfl
  cases items with
  | cons item items => exact hkeep (item :: items)
  | nil =>
    refine .of_stop (b := (negated, [], [])) rfl rfl (fun cs => rfl) fun c => ?_
    by_cases hc : c = ']'
    · subst hc
      exact .inl ((hkeep [⟨.single ']', 0⟩]).after_skip f)
    · right
      intro cs
      simp [firstBracket, hc, extend]

theorem reads_classOpen : Reads fun cs => some (readClassOpen f cs) := by
  have hbody (negated : Bool) : Reads fun cs : List Char =>
      some (readHyphens f (cs.length + 1) [] cs) >>= fun q => some (firstBracket f negated q.1 q.2) :=
    (reads_allHyphens f []).bind (.ofPair (reads_firstBracket f negated))
  simp only [readClassOpen_eq]
  exact (reads_classMark f).bind (.ofPair hbody)

section Body

variable (n : Nat) (left : Option (SetOp × Nested)) (items : List Nested)

def bodyNamed (b : Bool × (Char → Bool) × List Char) : Option (Nested × List Char) :=
  foldNegate f b.1 ⟨b.2.1⟩ >>= fun k => readClassBody f n left (items ++ [⟨k, 0⟩]) b.2.2

def bodyNested (b : Bool × List Nested × List Char) : Option (Nested × List Char) :=
  readClassBody f n none b.2.1 b.2.2 >>= fun p =>
    foldNegate f b.1 p.1.cls >>= fun k => readClassBody f n left (items ++ [⟨k, p.1.depth + 1⟩]) p.2

def bodyItem (b : CharClass × List Char) : Option (Nested × List Char) :=
  readClassBody f n left (items ++ [⟨b.1, 0⟩]) b.2

def SetOp.ofMark? : Char → Option SetOp
  | '&' => some .inter
  | '-' => some .diff
  | '~' => some .symmDiff
  | _ => none

/-- One step of the body of a class, at a character that is not skipped. -/
def bodyStep : List Char → Option (Nested × List Char)
  | [] => none
  | '[' :: cs => (readAscii? cs).elim (some (readClassOpen f cs) >>= bodyNested f n left items) (bodyNamed f n left items)
  | ']' :: cs => some (joinOp f left (Nested.unionOf items), cs)
  | '&' :: '&' :: cs => readClassBody f n (some (.inter, joinOp f left (Nested.unionOf items))) [] cs
  | '-' :: '-' :: cs => readClassBody f n (some (.diff, joinOp f left (Nested.unionOf items))) [] cs
  | '~' :: '~' :: cs => readClassBody f n (some (.symmDiff, joinOp f left (Nested.unionOf items))) [] cs
  | cs => readClassRange f cs >>= bodyItem f n left items

theorem readClassBody_succ (cs : List Char) :
    readClassBody f (n + 1) left items cs = bodyStep f n left items (f.skip cs) := by
  rw [readClassBody]
  generalize f.skip cs = next
  split
  any_goals rfl
  · rename_i cs
    rw [bodyStep]
    cases readAscii? cs <;> rfl
  · rw [bodyStep]
    · rfl
    all_goals assumption

theorem readClassBody_nil : readClassBody f n left items [] = none := by
  cases n with
  | zero => rfl
  | succ n =>
    rw [readClassBody_succ, f.skip_nil]
    rfl

theorem readClassBody_skip (cs : List Char) :
    readClassBody f n left items (f.skip cs) = readClassBody f n left items cs := by
  cases n with
  | zero => rfl
  | succ n => rw [readClassBody_succ, readClassBody_succ, f.skip_skip]

theorem readClassBody_open (h : f.Stops '[') (cs : List Char) : readClassBody f (n + 1) left items ('[' :: cs) =
    (readAscii? cs).elim (some (readClassOpen f cs) >>= bodyNested f n left items) (bodyNamed f n left items) := by
  rw [readClassBody_succ, h cs]
  rfl

theorem readClassBody_close (h : f.Stops ']') (cs : List Char) : readClassBody f (n + 1) left items (']' :: cs) =
    some (joinOp f left (Nested.unionOf items), cs) := by
  rw [readClassBody_succ, h cs]
  rfl

theorem readClassBody_mark {c : Char} (h : f.Stops c) {op : SetOp} (hop : SetOp.ofMark? c = some op) (cs : List Char) :
    readClassBody f (n + 1) left items (c :: c :: cs) =
      readClassBody f n (some (op, joinOp f left (Nested.unionOf items))) [] cs := by
  rw [readClassBody_succ, h _]
  unfold SetOp.ofMark? at hop
  split at hop <;> cases hop <;> rfl

theorem readClassBody_item {c : Char} (h : f.Stops c) (hopen : c ≠ '[') (hclose : c ≠ ']') {cs : List Char}
    (hop : SetOp.ofMark? c = none ∨ cs.head? ≠ some c) :
    readClassBody f (n + 1) left items (c :: cs) = readClassRange f (c :: cs) >>= bodyItem f n left items := by
  rw [readClassBody_succ, h cs]
  unfold bodyStep
  split <;> first | rfl | simp_all [SetOp.ofMark?]

/- The body of a class takes its closing bracket, so that a class that is open at the end of the text takes the
parenthesis for a character. -/
theorem takes_classBody : Takes (readClassBody f n left items) := by
  induction n generalizing left items with
  | zero => exact ⟨.fail, fun _ _ h => nomatch h⟩
  | succ n ih =>
    have hnamed : Reads (bodyNamed f n left items) := by
      refine .ofPair fun negated => .ofPair fun p => ?_
      simp only [bodyNamed]
      exact .value fun k => (ih left (items ++ [⟨k, 0⟩])).toReads
    have hnested : Reads (bodyNested f n left items) := by
      refine .ofPair fun negated => .ofPair fun inner => ?_
      simp only [bodyNested]
      refine (ih none inner).toReads.bind (.ofPair fun set => ?_)
      dsimp only
      exact .value fun k => (ih left (items ++ [⟨k, set.depth + 1⟩])).toReads
    have hnext (k : CharClass) : Takes fun cs => bodyItem f n left items (k, cs) := by
      simp only [bodyItem]
      exact ih left (items ++ [⟨k, 0⟩])
    have hitem : Takes fun cs => readClassRange f cs >>= bodyItem f n left items := takes_classRange f hnext
    refine .of_skip f (readClassBody_skip f _ left items) (readClassBody_nil f _ left items) fun c hc => ?_
    by_cases hopen : c = '['
    · subst hopen
      simp only [readClassBody_open f n left items hc]
      exact .orElse readAscii?_append (fun _ _ => readAscii?_suffix) hnamed ((reads_classOpen f).bind hnested)
    · by_cases hclose : c = ']'
      · subst hclose
        simp only [readClassBody_close f n left items hc]
        exact reads_take _
      · cases hop : SetOp.ofMark? c with
        | none =>
          simp only [readClassBody_item f n left items hc hopen hclose (.inl hop)]
          exact hitem.cons c
        | some op =>
          have hdouble := readClassBody_mark f n left items hc hop
          refine .of_head c ?_ (ih _ []).toReads (hitem.cons c) hdouble fun cs hcs => ?_
          · rintro rfl
            cases hop
          · exact readClassBody_item f n left items hc hopen hclose (.inr hcs)

theorem readClassBody_fuel (m : Nat) (cs : List Char) (hn : cs.length ≤ n) (hm : cs.length ≤ m) :
    readClassBody f n left items cs = readClassBody f m left items cs := by
  induction n generalizing m left items cs with
  | zero =>
    obtain rfl := List.eq_nil_of_length_eq_zero (Nat.le_zero.1 hn)
    rw [readClassBody_nil, readClassBody_nil]
  | succ n ih =>
    rw [← readClassBody_skip, ← readClassBody_skip f m]
    have hle := (f.skip_suffix cs).length_le
    cases hskip : f.skip cs with
    | nil => rw [readClassBody_nil, readClassBody_nil]
    | cons c inner =>
      obtain ⟨m, rfl⟩ : ∃ k, m = k + 1 := Nat.exists_eq_succ_of_ne_zero (by grind)
      have hc := Flags.stops_of_skip hskip
      have hnext (left : Option (SetOp × Nested)) (items : List Nested) (cs : List Char) (h : cs <:+ inner) :
          readClassBody f n left items cs = readClassBody f m left items cs := by
        have := h.length_le
        exact ih left items m cs (by grind) (by grind)
      by_cases hopen : c = '['
      · subst hopen
        rw [readClassBody_open f n left items hc, readClassBody_open f m left items hc]
        cases hascii : readAscii? inner with
        | some b =>
          have hafter := readAscii?_suffix hascii
          exact Option.bind_congr fun k _ => hnext left _ _ hafter
        | none =>
          have hfront : (readClassOpen f inner).2.2 <:+ inner := (reads_classOpen f).suffix inner _ rfl
          show bodyNested f n left items (readClassOpen f inner) = bodyNested f m left items (readClassOpen f inner)
          unfold bodyNested
          rw [hnext none _ _ hfront]
          refine Option.bind_congr fun p hp => Option.bind_congr fun k _ => hnext left _ _ ?_
          exact ((takes_classBody f m none _).suffix _ p hp).trans hfront
      · by_cases hclose : c = ']'
        · subst hclose
          rw [readClassBody_close f n left items hc, readClassBody_close f m left items hc]
        · have hitem (hop : SetOp.ofMark? c = none ∨ inner.head? ≠ some c) :
              readClassBody f (n + 1) left items (c :: inner) = readClassBody f (m + 1) left items (c :: inner) := by
            rw [readClassBody_item f n left items hc hopen hclose hop,
              readClassBody_item f m left items hc hopen hclose hop]
            exact Option.bind_congr fun b hb => hnext left _ _ (readClassRange_suffix f hb)
          cases hop : SetOp.ofMark? c with
          | none => exact hitem (.inl hop)
          | some op =>
            by_cases hhead : inner.head? = some c
            · obtain ⟨tail, rfl⟩ := List.head?_eq_some_iff.1 hhead
              rw [readClassBody_mark f n left items hc hop, readClassBody_mark f m left items hc hop]
              exact hnext _ _ _ (List.suffix_cons c tail)
            · exact hitem (.inr hhead)

end Body

theorem reads_classBodies : Reads fun b : List Nested × List Char => readClassBody f b.2.length none b.1 b.2 :=
  .fueled (R := fun n b => readClassBody f n none b.1 b.2)
    (fun n => .ofPair fun items => (takes_classBody f n none items).toReads)
    fun n m b hn hm => readClassBody_fuel f n none b.1 m b.2 hn hm

def closeClass (negated : Bool) (p : Nested × List Char) : Option (Nested × List Char) :=
  foldNegate f negated p.1.cls >>= fun k => some (⟨k, p.1.depth + 1⟩, p.2)

theorem readClass_eq (cs : List Char) : readClass f cs = some (readClassOpen f cs) >>= fun b =>
    readClassBody f b.2.2.length none b.2.1 b.2.2 >>= closeClass f b.1 := by
  have hle : (readClassOpen f cs).2.2.length ≤ cs.length := ((reads_classOpen f).suffix cs _ rfl).length_le
  simp only [readClass]
  rw [readClassBody_fuel f (cs.length + 1) none _ _ _ (Nat.le_succ_of_le hle) (Nat.le_refl _)]
  rfl

theorem reads_class : Reads (readClass f) := by
  have hclose (negated : Bool) : Reads (closeClass f negated) := by
    refine .ofPair fun set => ?_
    simp only [closeClass]
    exact .value fun k => reads_take (Nested.mk k (set.depth + 1))
  rw [show readClass f = _ from funext (readClass_eq f)]
  refine (reads_classOpen f).bind (.ofPair fun negated => ?_)
  exact (reads_classBodies f).bind (hclose negated)

end Stencil.Pattern
