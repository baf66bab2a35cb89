import Stencil.Proofs.ClassReaders

/-!
# Patterns before a closing parenthesis

The readers of counts, of groups and of whole sequences. Reading a sequence is cut into the parts that it takes one
after the other, so that what holds of a part is shown once and then followed along the fuel.
-/

namespace Stencil.Pattern

open Reading (rest extend)

variable {β : Type} [Reading β] (f : Flags)

/-! ### Repetition counts -/

theorem reads_countDigits (n : Nat) : Reads fun cs => some (readCountDigits f n cs) := by
  induction n with
  | zero => exact reads_take []
  | succ n ih =>
    refine .of_stop rfl rfl (fun _ => rfl) fun c => ?_
    by_cases hdigit : c.isDigit
    · left
      simp only [readCountDigits, hdigit, if_true]
      have hcons : Reads fun p : List Char × List Char => some (c :: p.1, p.2) := .give (fun _ => rfl) fun _ _ => rfl
      exact (ih.after_skip f).bind hcons
    · right
      intro cs
      simp [readCountDigits, hdigit, extend]

theorem readCountDigits_fuel (n m : Nat) (cs : List Char) (hn : cs.length ≤ n) (hm : cs.length ≤ m) :
    readCountDigits f n cs = readCountDigits f m cs := by
  refine fuel_enough f (fun n => ?_) (fun n m c cs h => ?_) n m cs hn hm
  · cases n <;> rfl
  · simp only [readCountDigits, h]

theorem readCountDigits_shorter {n : Nat} {cs digits after : List Char} (h : readCountDigits f n cs = (digits, after))
    (hdigits : digits ≠ []) : after.length < cs.length := by
  cases n with
  | zero =>
    cases h
    exact absurd rfl hdigits
  | succ n =>
    cases cs with
    | nil =>
      cases h
      exact absurd rfl hdigits
    | cons c cs =>
      simp only [readCountDigits] at h
      split at h
      · have hsuffix := ((reads_countDigits f n).after_skip f).suffix cs _ rfl
        cases h
        exact Nat.lt_succ_of_le hsuffix.length_le
      · cases h
        exact absurd rfl hdigits

theorem reads_dropBlanks : Reads fun cs : List Char => some (cs.dropWhile Unicode.isBlank) where
  suffix cs b h := by
    cases h
    exact List.dropWhile_suffix _
  agrees cs := by
    refine .same _ rfl fun after => ?_
    simp only [extend, List.dropWhile_append]
    split
    · rename_i hempty
      rw [List.isEmpty_iff.1 hempty]
      rfl
    · rfl

def countOf (digits : List Char) : Nat :=
  digits.foldl (fun n c => n * 10 + (c.toNat - '0'.toNat)) 0

def closeCount (p : List Char × List Char) : Option (Nat × List Char) :=
  if p.1.isEmpty || countLimit < countOf p.1 then none
  else some (countOf p.1, f.skip (p.2.dropWhile Unicode.isBlank))

theorem readCount_eq (cs : List Char) : readCount f cs = some (cs.dropWhile Unicode.isBlank) >>= fun digits =>
    some (readCountDigits f digits.length digits) >>= closeCount f := by
  have hle : (cs.dropWhile Unicode.isBlank).length ≤ cs.length := (List.dropWhile_suffix _).length_le
  simp only [readCount]
  rw [readCountDigits_fuel f (cs.length + 1) _ _ (Nat.le_succ_of_le hle) (Nat.le_refl _)]
  rfl

theorem takes_count : Takes (readCount f) := by
  have hclose : Reads (closeCount f) := by
    refine .ofPair fun digits => ?_
    simp only [closeCount]
    exact .ite (fun _ _ => Iff.rfl) .fail (reads_dropBlanks.bind (reads_take_skip f (countOf digits)))
  have hdigits := Reads.fueled (reads_countDigits f) fun n m cs hn hm =>
    congrArg some (readCountDigits_fuel f n m cs hn hm)
  have hread := reads_dropBlanks.bind (hdigits.bind hclose)
  rw [show readCount f = _ from funext (readCount_eq f)]
  refine ⟨hread, fun cs b h => ?_⟩
  have hcounted : (some (readCountDigits f _ (cs.dropWhile Unicode.isBlank)) >>= closeCount f) = some b := h
  obtain ⟨⟨digits, after⟩, hcount, hb⟩ := Option.bind_eq_some_iff.1 hcounted
  have hle := hclose.suffix _ b hb
  have hshorter : after.length < (cs.dropWhile Unicode.isBlank).length := by
    refine readCountDigits_shorter f (Option.some.inj hcount) ?_
    rintro rfl
    cases hb
  exact Nat.lt_of_le_of_lt hle.length_le (Nat.lt_of_lt_of_le hshorter (List.dropWhile_suffix _).length_le)

def closeBounds (least most : Nat) : List Char → Option (Nat × Option Nat × List Char)
  | '}' :: after => if least ≤ most then some (least, some most, after) else none
  | _ => none

def countsAfterComma (least : Nat) (cs : List Char) : Option (Nat × Option Nat × List Char) :=
  match f.skip cs with
  | '}' :: after => some (least, none, after)
  | bounded => readCount f bounded >>= fun p => closeBounds least p.1 p.2

def countsAfterLeast (least : Nat) : List Char → Option (Nat × Option Nat × List Char)
  | '}' :: after => some (least, some least, after)
  | ',' :: more => countsAfterComma f least more
  | _ => none

theorem countsAfterComma_brace {least : Nat} {cs after : List Char} (h : f.skip cs = '}' :: after) :
    countsAfterComma f least cs = some (least, none, after) := by
  simp only [countsAfterComma, h]

theorem countsAfterComma_count {least : Nat} {cs : List Char} (h : ∀ after, f.skip cs ≠ '}' :: after) :
    countsAfterComma f least cs = readCount f (f.skip cs) >>= fun p => closeBounds least p.1 p.2 := by
  unfold countsAfterComma
  split
  · exact absurd ‹_› (h _)
  · rfl

theorem readCounts_eq (cs : List Char) :
    readCounts f cs = readCount f (f.skip cs) >>= fun p => countsAfterLeast f p.1 p.2 := by
  unfold readCounts
  refine bind_congr fun p => ?_
  obtain ⟨least, tail⟩ := p
  dsimp only
  split
  · rfl
  · rename_i more
    simp only [countsAfterLeast]
    split
    · rename_i after hskip
      exact (countsAfterComma_brace f hskip).symm
    · rename_i hother
      rw [countsAfterComma_count f hother]
      refine bind_congr fun p => ?_
      obtain ⟨most, tail⟩ := p
      cases tail with
      | nil => rfl
      | cons c after =>
        by_cases hc : c = '}'
        · subst hc
          rfl
        · simp [closeBounds, hc]
  · simp_all [countsAfterLeast]

theorem takes_counts : Takes (readCounts f) := by
  have hpair (v : Nat) (w : Option Nat) : Reads fun cs : List Char => some (v, w, cs) :=
    .give (fun _ => rfl) fun _ _ => rfl
  have hbounds (least most : Nat) : Takes (closeBounds least most) := by
    refine .of_cons rfl fun c => ?_
    by_cases hc : c = '}'
    · subst hc
      simp only [closeBounds]
      exact .ite (fun _ _ => Iff.rfl) (hpair least (some most)) .fail
    · simp only [closeBounds, List.cons.injEq, hc, false_and, imp_false, not_false_eq_true, implies_true]
      exact .fail
  have hcomma (least : Nat) : Takes (countsAfterComma f least) := by
    refine .of_skip f (fun cs => ?_) ?_ fun c hc => ?_
    · simp only [countsAfterComma, f.skip_skip]
    · simp only [countsAfterComma, f.skip_nil]
      rfl
    · by_cases hbrace : c = '}'
      · subst hbrace
        simp only [countsAfterComma_brace f (hc _)]
        exact hpair least none
      · have heq (cs : List Char) : countsAfterComma f least (c :: cs) =
            readCount f (c :: cs) >>= fun p => closeBounds least p.1 p.2 := by
          rw [countsAfterComma_count f (by simp [hc _, hbrace]), hc cs]
        simp only [heq]
        exact ((takes_count f).cons c).bind (.ofPair fun most => (hbounds least most).toReads)
  have hleast (least : Nat) : Takes (countsAfterLeast f least) := by
    refine .of_cons rfl fun c => ?_
    by_cases hbrace : c = '}'
    · subst hbrace
      exact hpair least (some least)
    · by_cases hc : c = ','
      · subst hc
        exact (hcomma least).toReads
      · have hnone (cs : List Char) : countsAfterLeast f least (c :: cs) = none := by
          simp [countsAfterLeast, hbrace, hc]
        simp only [hnone]
        exact .fail
  rw [show readCounts f = _ from funext (readCounts_eq f)]
  exact .after ((takes_count f).toReads.after_skip f) (.ofPair hleast)

theorem readCounts_skip (cs : List Char) : readCounts f (f.skip cs) = readCounts f cs := by
  simp only [readCounts, f.skip_skip]

theorem reads_dropLazy : Reads fun cs => some (dropLazy cs) := by
  refine .of_stop (b := []) rfl rfl (fun _ => rfl) fun c => ?_
  by_cases hc : c = '?'
  · subst hc
    exact .inl (.give (fun _ => rfl) fun _ _ => rfl)
  · right
    intro cs
    simp [dropLazy, hc, extend]

/-! ### Groups -/

instance : Reading State where
  rest s := s.rest
  extend s x := { s with rest := s.rest ++ x }
  rest_extend _ _ := rfl
  extend_extend s x y := by simp

theorem Reads.ofState {r : State → Option β} (h : ∀ s : State, Reads fun cs => r { s with rest := cs }) : Reads r where
  suffix s b hb := (h s).suffix s.rest b hb
  agrees s := (h s).agrees s.rest

instance : Reading GroupOpen where
  rest
    | .setFlags s => s.rest
    | .group s => s.rest
  extend
    | .setFlags s, x => .setFlags (extend s x)
    | .group s, x => .group (extend s x)
  rest_extend g x := by cases g <;> rfl
  extend_extend g x y := by cases g <;> simp [Reading.extend_extend]

theorem Reads.ofGroupOpen {r : GroupOpen → Option β} (hset : Reads fun s => r (.setFlags s))
    (hgroup : Reads fun s => r (.group s)) : Reads r where
  suffix g b h := by
    cases g with
    | setFlags s => exact hset.suffix s b h
    | group s => exact hgroup.suffix s b h
  agrees g := by
    cases g with
    | setFlags s => exact hset.agrees s
    | group s => exact hgroup.agrees s

theorem readFlags_suffix {f g : Flags} {seen cs after : List Char} (h : readFlags f seen cs = some (g, after)) :
    after <:+ cs := by
  induction cs generalizing f seen with
  | nil => cases h
  | cons c cs ih =>
    rw [readFlags] at h
    split at h
    · split at h
      · cases h
      · cases h
        exact List.suffix_rfl
    · refine List.IsSuffix.trans ?_ (List.suffix_cons c cs)
      split at h
      · cases h
      · split at h
        · exact ih h
        · split at h
          · exact ih h
          · cases h

/- Flags stop before a parenthesis, which what follows them has to take. -/
theorem takes_flags {s : Flags × List Char → Option β} (hs : ∀ f, Takes fun cs => s (f, cs)) (f : Flags)
    (seen : List Char) : Takes fun cs => readFlags f seen cs >>= s where
  suffix cs b h := by
    obtain ⟨⟨g, after⟩, hg, hb⟩ := Option.bind_eq_some_iff.1 h
    exact ((hs g).suffix after b hb).trans (readFlags_suffix hg)
  shorter cs b h := by
    obtain ⟨⟨g, after⟩, hg, hb⟩ := Option.bind_eq_some_iff.1 h
    exact Nat.lt_of_lt_of_le ((hs g).shorter after b hb) (readFlags_suffix hg).length_le
  agrees cs := by
    induction cs generalizing f seen with
    | nil =>
      refine .of_none fun after b h => ?_
      obtain ⟨⟨g, cs⟩, hg, hb⟩ := Option.bind_eq_some_iff.1 h
      have hlength := Nat.lt_of_lt_of_le ((hs g).shorter cs b hb) (readFlags_suffix hg).length_le
      exact Nat.le_of_lt_succ hlength
    | cons c cs ih =>
      simp only [extend_cons, readFlags]
      split
      · split
        · exact .of_none fun _ _ h => nomatch h
        · exact (hs f).agrees (c :: cs)
      · split
        · exact .of_none fun _ _ h => nomatch h
        · split
          · exact ih f (c :: seen)
          · split
            · exact ih _ (c :: seen)
            · exact .of_none fun _ _ h => nomatch h

theorem not_isNameChar_paren (first : Bool) : isNameChar first ')' = false := by
  cases first <;> decide +kernel

def groupNamed (names : List (List Char)) (name tail : List Char) : Option (List Char × List Char) :=
  match name, tail with
  | c :: more, '>' :: after =>
    if isNameChar true c && more.all (isNameChar false) && !names.contains name then some (name, after) else none
  | _, _ => none

theorem readGroupName_eq (names : List (List Char)) (cs : List Char) :
    readGroupName names cs = groupNamed names (cs.takeWhile (· != '>')) (cs.dropWhile (· != '>')) := rfl

theorem groupNamed_paren {names : List (List Char)} {name tail : List Char} (h : ')' ∈ name) :
    groupNamed names name tail = none := by
  unfold groupNamed
  split
  · rename_i c more after
    have hbad : (isNameChar true c && more.all (isNameChar false)) = false := by
      rcases List.mem_cons.1 h with rfl | hmore
      · simp [not_isNameChar_paren]
      · simp only [Bool.and_eq_false_imp, List.all_eq_false]
        exact fun _ => ⟨')', hmore, by simp [not_isNameChar_paren]⟩
    simp [hbad]
  · rfl

theorem readGroupName_append (names : List (List Char)) (cs after : List Char) :
    readGroupName names (cs ++ ')' :: after) = (readGroupName names cs).map fun b => extend b (')' :: after) := by
  rw [readGroupName_eq, readGroupName_eq]
  rcases span_append (p := (· != '>')) rfl cs after with ⟨hdrop, hmem⟩ | ⟨hdrop, htake, hrest⟩
  · rw [groupNamed_paren hmem, hdrop]
    cases cs.takeWhile (· != '>') <;> rfl
  · rw [htake, hrest]
    cases cs.takeWhile (· != '>') with
    | nil => rfl
    | cons c name =>
      cases htail : cs.dropWhile (· != '>') with
      | nil => exact absurd htail hdrop
      | cons c' tail =>
        by_cases hc : c' = '>'
        · subst hc
          simp only [groupNamed, List.cons_append]
          split <;> rfl
        · simp [groupNamed, hc]

theorem readGroupName_suffix {names : List (List Char)} {cs : List Char} {b : List Char × List Char}
    (h : readGroupName names cs = some b) : b.2 <:+ cs := by
  simp only [readGroupName] at h
  split at h
  · rename_i c more after hname hdrop
    split at h
    · cases h
      have htail := List.suffix_cons '>' after
      rw [← hdrop] at htail
      exact htail.trans (List.dropWhile_suffix _)
    · cases h
  · cases h

def closeFlags (s : State) (alone : Bool) : Flags × List Char → Option GroupOpen
  | (f, ')' :: after) => if alone then none else some (.setFlags { s with flags := f, rest := after })
  | (f, _ :: after) => some (.group { s with flags := f, rest := after })
  | _ => none

def openNamed (s : State) (cs : List Char) : Option GroupOpen :=
  (readGroupName s.names cs).map fun (name, after) => .group { s with names := name :: s.names, rest := after }

theorem takes_closeFlags (s : State) (alone : Bool) (f : Flags) : Takes fun cs => closeFlags s alone (f, cs) := by
  refine .of_cons rfl fun c => ?_
  by_cases hc : c = ')'
  · subst hc
    simp only [closeFlags]
    exact .ite (fun _ _ => Iff.rfl) .fail (.give (fun _ => rfl) fun _ _ => rfl)
  · simp only [closeFlags]
    exact .give (fun _ => rfl) fun _ _ => rfl

theorem reads_openNamed (s : State) : Reads (openNamed s) :=
  (Reads.of_append (fun _ _ => readGroupName_suffix) (readGroupName_append s.names)).map (fun _ => rfl) fun _ _ => rfl

section Open

variable {s : State} (cs : List Char)

theorem readGroupOpen_skip : readGroupOpen s (s.flags.skip cs) = readGroupOpen s cs := by
  unfold readGroupOpen
  rw [s.flags.skip_skip]

theorem readGroupOpen_plain {c : Char} (hc : s.flags.Stops c) (hmark : c ≠ '?') :
    readGroupOpen s (c :: cs) = some (.group { s with rest := c :: cs }) := by
  simp [readGroupOpen, hc cs, hmark]

theorem readGroupOpen_look {c : Char} (hstop : s.flags.Stops '?') (hc : c = '=' ∨ c = '!') :
    readGroupOpen s ('?' :: c :: cs) = none := by
  unfold readGroupOpen
  rw [hstop _]
  rcases hc with rfl | rfl <;> rfl

theorem readGroupOpen_named (hstop : s.flags.Stops '?') : readGroupOpen s ('?' :: '<' :: cs) =
    if cs.head? = some '=' ∨ cs.head? = some '!' then none else openNamed s cs := by
  unfold readGroupOpen
  rw [hstop _]
  cases cs with
  | nil => rfl
  | cons c cs =>
    by_cases hlook : c = '='
    · subst hlook
      rfl
    · by_cases hnot : c = '!'
      · subst hnot
        rfl
      · simp [hlook, hnot, openNamed]

theorem readGroupOpen_longNamed (hstop : s.flags.Stops '?') :
    readGroupOpen s ('?' :: 'P' :: '<' :: cs) = openNamed s cs := by
  unfold readGroupOpen
  rw [hstop _]
  rfl

theorem readGroupOpen_flags {c : Char} (hstop : s.flags.Stops '?') (hname : c ≠ '<') (hlook : ¬ (c = '=' ∨ c = '!'))
    (hlong : c = 'P' → cs.head? ≠ some '<') :
    readGroupOpen s ('?' :: c :: cs) = readFlags s.flags [] (c :: cs) >>= closeFlags s (c == ')') := by
  unfold readGroupOpen
  rw [hstop _]
  split
  · simp_all
  · simp_all
  · simp_all
  · simp_all
  · simp_all
  · simp_all
  · rename_i heq
    cases heq
    cases readFlags s.flags [] (c :: cs) with
    | none => rfl
    | some p =>
      obtain ⟨g, tail⟩ := p
      cases tail with
      | nil => rfl
      | cons c' after =>
        by_cases hparen : c' = ')'
        · subst hparen
          simp [closeFlags]
        · simp [closeFlags]
  · simp_all

end Open

theorem reads_groupOpen (s : State) : Reads (readGroupOpen s) := by
  have hflags (c : Char) : Reads fun cs => readFlags s.flags [] (c :: cs) >>= closeFlags s (c == ')') :=
    (takes_flags (takes_closeFlags s (c == ')')) s.flags []).cons c
  have hmark (hstop : s.flags.Stops '?') : Reads fun cs => readGroupOpen s ('?' :: cs) := by
    refine (Takes.of_cons ?_ fun c => ?_).toReads
    · unfold readGroupOpen
      rw [hstop _]
      rfl
    · by_cases hlook : c = '=' ∨ c = '!'
      · simp only [readGroupOpen_look _ hstop hlook]
        exact .fail
      · by_cases hname : c = '<'
        · subst hname
          simp only [readGroupOpen_named _ hstop]
          refine .ite (fun cs after => ?_) .fail (reads_openNamed s)
          cases cs <;> simp [extend]
        · by_cases hlong : c = 'P'
          · subst hlong
            exact .of_head '<' (by decide) (reads_openNamed s) (hflags 'P') (fun cs => readGroupOpen_longNamed cs hstop)
              fun cs h => readGroupOpen_flags cs hstop hname hlook fun _ => h
          · have heq (cs : List Char) := readGroupOpen_flags cs hstop hname hlook fun h => absurd h hlong
            simp only [heq]
            exact hflags c
  refine .of_skip_stop (b := .group { s with rest := [] }) s.flags readGroupOpen_skip rfl ?_ (fun cs => ?_)
    fun c hc => ?_
  · unfold readGroupOpen
    rw [s.flags.skip_nil]
  · exact readGroupOpen_plain cs s.flags.stops_paren (by decide)
  · by_cases hquestion : c = '?'
    · subst hquestion
      exact .inl (hmark hc)
    · exact .inr fun cs => readGroupOpen_plain cs hc hquestion

/-! ### Sequences -/

def escapedExpr? : Primitive → Option Expr
  | .literal c byte => literalExpr? f c byte
  | .named k => some (.chars k)
  | .look a => some (.look a)

theorem readPrimitive_escape (cs : List Char) : readPrimitive f ('\\' :: cs) =
    readEscape f cs >>= fun p => escapedExpr? f p.1 >>= fun e => some (e, p.2) := by
  simp only [readPrimitive]
  refine bind_congr fun p => ?_
  obtain ⟨p, after⟩ := p
  cases p <;> rfl

def plainExpr? : Char → Option Expr
  | '.' => dotExpr? f
  | '^' => some (.look (if f.multiLine then .lineStart f.crlf else .textStart))
  | '$' => some (.look (if f.multiLine then .lineEnd f.crlf else .textEnd))
  | c => literalExpr? f c false

theorem readPrimitive_plain {c : Char} (hc : c ≠ '\\') (cs : List Char) :
    readPrimitive f (c :: cs) = plainExpr? f c >>= fun e => some (e, cs) := by
  by_cases hdot : c = '.'
  · subst hdot
    simp only [readPrimitive, plainExpr?]
    cases dotExpr? f <;> rfl
  · by_cases hstart : c = '^'
    · subst hstart
      rfl
    · by_cases hend : c = '$'
      · subst hend
        rfl
      · simp only [readPrimitive, plainExpr?]
        cases literalExpr? f c false <;> rfl

theorem readPrimitive_suffix {c : Char} {cs : List Char} {b : Expr × List Char}
    (h : readPrimitive f (c :: cs) = some b) : b.2 <:+ cs := by
  by_cases hc : c = '\\'
  · subst hc
    rw [readPrimitive_escape] at h
    obtain ⟨p, hp, hb⟩ := Option.bind_eq_some_iff.1 h
    obtain ⟨e, -, hb⟩ := Option.bind_eq_some_iff.1 hb
    cases hb
    exact readEscape_suffix f hp
  · rw [readPrimitive_plain f hc] at h
    obtain ⟨e, -, hb⟩ := Option.bind_eq_some_iff.1 h
    cases hb
    exact List.suffix_rfl

theorem takes_primitive {s : Expr × List Char → Option β} (hs : ∀ e, Reads fun cs => s (e, cs))
    (hbrace : ∀ a cs b, s (.look a, '{' :: cs) = some b → (rest b).length < (f.skip cs).length) :
    Takes fun cs => readPrimitive f cs >>= s := by
  refine .of_cons rfl fun c => ?_
  by_cases hc : c = '\\'
  · subst hc
    have hread : Takes fun cs => readEscape f cs >>= fun p => escapedExpr? f p.1 >>= fun e => s (e, p.2) := by
      refine takes_escape f (fun p => ?_) fun a cs b h => hbrace a cs b h
      dsimp only
      exact .value hs
    have heq (cs : List Char) : (readPrimitive f ('\\' :: cs) >>= s) =
        readEscape f cs >>= fun p => escapedExpr? f p.1 >>= fun e => s (e, p.2) := by
      rw [readPrimitive_escape]
      simp [Option.bind_assoc]
    simp only [heq]
    exact hread.toReads
  · have heq (cs : List Char) : (readPrimitive f (c :: cs) >>= s) = plainExpr? f c >>= fun e => s (e, cs) := by
      rw [readPrimitive_plain f hc]
      simp [Option.bind_assoc]
    simp only [heq]
    exact .value hs

section Parts

variable (n : Nat) (s : State) (earlier parts : List Part)

def closeGroup (q : Part × State) : Option (List Part × List Part × State) :=
  match q.2.rest with
  | ')' :: after =>
    some (earlier, parts ++ [⟨q.1.expr, q.1.depth + 1⟩], { q.2 with flags := s.flags, rest := after })
  | _ => none

def readGroup : GroupOpen → Option (List Part × List Part × State)
  | .setFlags t => some (earlier, parts ++ [⟨none, 0⟩], t)
  | .group inner => readBody n inner [] [] >>= closeGroup s earlier parts

/-- The next part of a sequence, given its first character: what is read so far, and where reading goes on. -/
def readPart (c : Char) (cs : List Char) : Option (List Part × List Part × State) :=
  match c with
  | '|' => some (sequenceOf parts :: earlier, [], { s with rest := cs })
  | '(' => readGroupOpen s cs >>= readGroup n s earlier parts
  | '[' => do
    let (k, after) ← readClass s.flags cs
    return (earlier, parts ++ [⟨some (.chars k.cls), k.depth⟩], { s with rest := after })
  | '?' => do return (earlier, ← repeatLast parts 0 (some 1), { s with rest := dropLazy cs })
  | '*' => do return (earlier, ← repeatLast parts 0 none, { s with rest := dropLazy cs })
  | '+' => do return (earlier, ← repeatLast parts 1 none, { s with rest := dropLazy cs })
  | '{' => do
    let (least, most, after) ← readCounts s.flags cs
    return (earlier, ← repeatLast parts least most, { s with rest := dropLazy (s.flags.skip after) })
  | _ => do
    let (e, after) ← readPrimitive s.flags (c :: cs)
    return (earlier, parts ++ [⟨some e, 0⟩], { s with rest := after })

theorem readBody_skip (cs : List Char) : readBody n { s with rest := s.flags.skip cs } earlier parts =
    readBody n { s with rest := cs } earlier parts := by
  cases n with
  | zero => rfl
  | succ n =>
    simp only [readBody, s.flags.skip_skip]
    rfl

theorem readBody_nil : readBody (n + 1) { s with rest := [] } earlier parts =
    some (alternativesOf earlier (sequenceOf parts), { s with rest := [] }) := by
  simp only [readBody, s.flags.skip_nil]

theorem readBody_paren (cs : List Char) : readBody (n + 1) { s with rest := ')' :: cs } earlier parts =
    some (alternativesOf earlier (sequenceOf parts), { s with rest := ')' :: cs }) := by
  simp only [readBody, s.flags.stops_paren _]

/-- The characters with which no single part begins. -/
def partMarks : List Char :=
  ['|', '(', '[', '?', '*', '+', '{']

theorem readPart_primitive {c : Char} (hc : c ∉ partMarks) (cs : List Char) : readPart n s earlier parts c cs =
    readPrimitive s.flags (c :: cs) >>= fun p => some (earlier, parts ++ [⟨some p.1, 0⟩], { s with rest := p.2 }) := by
  unfold readPart
  split
  all_goals first | rfl | exact absurd (by decide) hc

theorem readBody_part {c : Char} (hc : s.flags.Stops c) (hparen : c ≠ ')') (cs : List Char) :
    readBody (n + 1) { s with rest := c :: cs } earlier parts =
      readPart n s earlier parts c cs >>= fun q => readBody n q.2.2 q.1 q.2.1 := by
  by_cases hmark : c ∈ partMarks
  · simp only [partMarks, List.mem_cons, List.not_mem_nil, or_false] at hmark
    rcases hmark with rfl | rfl | rfl | rfl | rfl | rfl | rfl
    · simp only [readBody, hc _]
      rfl
    · have hopen : readGroupOpen { s with rest := '(' :: cs } cs = readGroupOpen s cs := rfl
      simp only [readBody, hc _, readPart, hopen]
      cases readGroupOpen s cs with
      | none => rfl
      | some g =>
        cases g with
        | setFlags t => rfl
        | group inner =>
          simp only [Option.bind_eq_bind, Option.bind_some, readGroup]
          cases readBody n inner [] [] with
          | none => rfl
          | some q =>
            obtain ⟨p, flags, names, tail⟩ := q
            cases tail with
            | nil => rfl
            | cons c after =>
              by_cases hclose : c = ')'
              · subst hclose
                rfl
              · simp [closeGroup, hclose]
    · simp [readBody, hc _, readPart, Option.bind_assoc]
    · simp [readBody, hc _, readPart, Option.bind_assoc]
    · simp [readBody, hc _, readPart, Option.bind_assoc]
    · simp [readBody, hc _, readPart, Option.bind_assoc]
    · simp [readBody, hc _, readPart, Option.bind_assoc]
  · rw [readPart_primitive n s earlier parts hmark]
    simp only [readBody, hc _]
    simp only [partMarks, List.mem_cons, List.not_mem_nil, or_false, not_or] at hmark
    split <;> first | simp_all; done | simp [Option.bind_assoc]

theorem reads_resume : Reads fun cs : List Char => some (earlier, parts, ({ s with rest := cs } : State)) :=
  .give (fun _ => rfl) fun _ _ => rfl

theorem reads_closeGroup : Reads (closeGroup s earlier parts) := by
  refine .ofPair fun p => .ofState fun t => (Takes.of_cons rfl fun c => ?_).toReads
  by_cases hclose : c = ')'
  · subst hclose
    exact reads_resume { t with flags := s.flags } earlier (parts ++ [⟨p.expr, p.depth + 1⟩])
  · have hnone (cs : List Char) : closeGroup s earlier parts (p, { t with rest := c :: cs }) = none := by
      simp [closeGroup, hclose]
    simp only [hnone]
    exact .fail

section Step

variable {n} (hbody : ∀ (s : State) earlier parts, Reads fun cs => readBody n { s with rest := cs } earlier parts)

include hbody

theorem reads_group : Reads (readGroup n s earlier parts) := by
  refine .ofGroupOpen (.ofState fun t => reads_resume t earlier _) (.ofState fun t => ?_)
  exact (hbody t [] []).bind (reads_closeGroup s earlier parts)

theorem reads_part {c : Char} (hc : c ≠ '\\') : Reads fun cs => readPart n s earlier parts c cs := by
  have hrepeat (least : Nat) (most : Option Nat) : Reads fun cs => repeatLast parts least most >>= fun ps =>
      some (earlier, ps, ({ s with rest := dropLazy cs } : State)) :=
    .value fun ps => reads_dropLazy.bind (reads_resume s earlier ps)
  by_cases hmark : c ∈ partMarks
  · simp only [partMarks, List.mem_cons, List.not_mem_nil, or_false] at hmark
    rcases hmark with rfl | rfl | rfl | rfl | rfl | rfl | rfl
    · exact reads_resume s (sequenceOf parts :: earlier) []
    · exact (reads_groupOpen s).bind (reads_group s earlier parts hbody)
    · refine (reads_class s.flags).bind (.ofPair fun k => ?_)
      exact reads_resume s earlier (parts ++ [⟨some (.chars k.cls), k.depth⟩])
    · exact hrepeat 0 (some 1)
    · exact hrepeat 0 none
    · exact hrepeat 1 none
    · refine (takes_counts s.flags).toReads.bind (.ofPair fun least => .ofPair fun most => ?_)
      exact (hrepeat least most).after_skip s.flags
  · have heq (cs : List Char) : readPart n s earlier parts c cs = plainExpr? s.flags c >>= fun e =>
        some (earlier, parts ++ [⟨some e, 0⟩], { s with rest := cs }) := by
      rw [readPart_primitive n s earlier parts hmark, readPrimitive_plain s.flags hc]
      simp [Option.bind_assoc]
    simp only [heq]
    exact .value fun e => reads_resume s earlier (parts ++ [⟨some e, 0⟩])

theorem reads_resumed : Reads fun q : List Part × List Part × State => readBody n q.2.2 q.1 q.2.1 :=
  .ofPair fun earlier => .ofPair fun parts => .ofState fun t => hbody t earlier parts

/- A repetition takes something of its counts. -/
theorem length_of_brace {cs : List Char} {b : Part × State}
    (h : readBody (n + 1) { s with rest := '{' :: cs } earlier parts = some b) :
    (rest b).length < (s.flags.skip cs).length := by
  rw [readBody_part n s earlier parts s.flags.stops_brace (by decide)] at h
  obtain ⟨q, hq, hb⟩ := Option.bind_eq_some_iff.1 h
  obtain ⟨⟨least, most, after⟩, hcounts, hq⟩ := Option.bind_eq_some_iff.1 hq
  obtain ⟨ps, -, hq⟩ := Option.bind_eq_some_iff.1 hq
  cases hq
  rw [← readCounts_skip] at hcounts
  have hshorter : after.length < (s.flags.skip cs).length := (takes_counts s.flags).shorter _ _ hcounts
  have hlazy := (reads_dropLazy.after_skip s.flags).suffix after _ rfl
  have hsuffix := (reads_resumed hbody).suffix _ b hb
  exact Nat.lt_of_le_of_lt (hsuffix.trans hlazy).length_le hshorter

theorem reads_escapedPart (hbrace : ∀ (s : State) earlier parts cs b,
      readBody n { s with rest := '{' :: cs } earlier parts = some b → (rest b).length < (s.flags.skip cs).length) :
    Reads fun cs => readPart n s earlier parts '\\' cs >>= fun q => readBody n q.2.2 q.1 q.2.1 := by
  have hread : Takes fun cs => readPrimitive s.flags cs >>= fun p =>
      readBody n { s with rest := p.2 } earlier (parts ++ [⟨some p.1, 0⟩]) :=
    takes_primitive s.flags (fun e => hbody s earlier (parts ++ [⟨some e, 0⟩])) fun a cs b h =>
      hbrace s earlier _ cs b h
  have heq (cs : List Char) : (readPart n s earlier parts '\\' cs >>= fun q => readBody n q.2.2 q.1 q.2.1) =
      readPrimitive s.flags ('\\' :: cs) >>= fun p =>
        readBody n { s with rest := p.2 } earlier (parts ++ [⟨some p.1, 0⟩]) := by
    rw [readPart_primitive n s earlier parts (by decide)]
    simp [Option.bind_assoc]
  simp only [heq]
  exact hread.cons '\\'

end Step

theorem reads_body : Reads fun cs => readBody n { s with rest := cs } earlier parts := by
  suffices hboth : (∀ (s : State) earlier parts, Reads fun cs => readBody n { s with rest := cs } earlier parts) ∧
      ∀ (s : State) earlier parts cs b, readBody n { s with rest := '{' :: cs } earlier parts = some b →
        (rest b).length < (s.flags.skip cs).length from hboth.1 s earlier parts
  induction n with
  | zero => exact ⟨fun _ _ _ => .fail, fun _ _ _ _ _ h => nomatch h⟩
  | succ n ih =>
    obtain ⟨hbody, hbrace⟩ := ih
    refine ⟨fun s earlier parts => ?_, fun s earlier parts cs b h => length_of_brace s earlier parts hbody h⟩
    refine .of_skip_stop s.flags (readBody_skip (n + 1) s earlier parts) rfl (readBody_nil n s earlier parts)
      (readBody_paren n s earlier parts) fun c hc => ?_
    by_cases hparen : c = ')'
    · subst hparen
      exact .inr (readBody_paren n s earlier parts)
    · left
      simp only [readBody_part n s earlier parts hc hparen]
      by_cases hescape : c = '\\'
      · subst hescape
        exact reads_escapedPart s earlier parts hbody hbrace
      · exact (reads_part s earlier parts hbody hescape).bind (reads_resumed hbody)

theorem readPart_suffix {c : Char} {cs : List Char} {q : List Part × List Part × State}
    (h : readPart n s earlier parts c cs = some q) : q.2.2.rest <:+ cs := by
  by_cases hescape : c = '\\'
  · subst hescape
    rw [readPart_primitive n s earlier parts (by decide)] at h
    obtain ⟨p, hp, hq⟩ := Option.bind_eq_some_iff.1 h
    cases hq
    exact readPrimitive_suffix s.flags hp
  · exact (reads_part s earlier parts (reads_body n) hescape).suffix cs q h

/- Fuel goes to groups only. -/
theorem readPart_fuel {n m : Nat} {cs : List Char} (h : ∀ inner : State, inner.rest <:+ cs →
    readBody n inner [] [] = readBody m inner [] []) (c : Char) :
    readPart n s earlier parts c cs = readPart m s earlier parts c cs := by
  by_cases hopen : c = '('
  · subst hopen
    refine Option.bind_congr fun g hg => ?_
    have hinner := (reads_groupOpen s).suffix cs g hg
    cases g with
    | setFlags t => rfl
    | group inner => simp only [readGroup, h inner hinner]
  · unfold readPart
    split
    all_goals first | rfl | exact absurd rfl hopen

theorem readBody_fuel (m : Nat) (hn : s.rest.length < n) (hm : s.rest.length < m) :
    readBody n s earlier parts = readBody m s earlier parts := by
  induction n generalizing m s earlier parts with
  | zero => exact absurd hn (Nat.not_lt_zero _)
  | succ n ih =>
    obtain ⟨m, rfl⟩ : ∃ k, m = k + 1 := Nat.exists_eq_succ_of_ne_zero (Nat.ne_of_gt (Nat.zero_lt_of_lt hm))
    have hle := (s.flags.skip_suffix s.rest).length_le
    rw [← readBody_skip (n + 1) s earlier parts s.rest, ← readBody_skip (m + 1) s earlier parts s.rest]
    cases hcs : s.flags.skip s.rest with
    | nil => rw [readBody_nil, readBody_nil]
    | cons c cs =>
      by_cases hparen : c = ')'
      · subst hparen
        rw [readBody_paren, readBody_paren]
      · have hc := Flags.stops_of_skip hcs
        have hnext (t : State) (earlier parts : List Part) (h : t.rest <:+ cs) :
            readBody n t earlier parts = readBody m t earlier parts := by
          have := h.length_le
          rw [hcs, List.length_cons] at hle
          exact ih t earlier parts m (by omega) (by omega)
        rw [readBody_part n s earlier parts hc hparen, readBody_part m s earlier parts hc hparen,
          readPart_fuel s earlier parts (fun inner h => hnext inner [] [] h) c]
        exact Option.bind_congr fun q hq => hnext q.2.2 q.1 q.2.1 (readPart_suffix m s earlier parts hq)

theorem isSome_alternativesOf : (alternativesOf earlier (sequenceOf parts)).expr.isSome := by
  unfold alternativesOf
  split
  · unfold sequenceOf
    split <;> rfl
  · rfl

/- Reading comes to its end at the end of the text or at a parenthesis. -/
theorem readBody_ends {b : Part × State} (h : readBody n s earlier parts = some b) :
    b.1.expr.isSome ∧ (b.2.rest = [] ∨ b.2.rest.head? = some ')') := by
  induction n generalizing s earlier parts with
  | zero => cases h
  | succ n ih =>
    rw [← readBody_skip (n + 1) s earlier parts s.rest] at h
    cases hcs : s.flags.skip s.rest with
    | nil =>
      rw [hcs, readBody_nil] at h
      cases h
      exact ⟨isSome_alternativesOf earlier parts, .inl rfl⟩
    | cons c cs =>
      rw [hcs] at h
      by_cases hparen : c = ')'
      · subst hparen
        rw [readBody_paren] at h
        cases h
        exact ⟨isSome_alternativesOf earlier parts, .inr rfl⟩
      · rw [readBody_part n s earlier parts (Flags.stops_of_skip hcs) hparen] at h
        obtain ⟨q, -, hb⟩ := Option.bind_eq_some_iff.1 h
        exact ih q.2.2 q.1 q.2.1 hb

end Parts

end Stencil.Pattern
