import Stencil.Condition
import Stencil.Proofs.Matching
import Stencil.Proofs.PatternReaders

/-!
# Anchored patterns

A pattern between slashes is read as a group after a mark for the start of the text. What may stand in that group are
the patterns that do not end in a comment, with room for the group in their depth, and small enough with it. A text that
is no pattern is refused, unless it closes the group itself.
-/

namespace Stencil

namespace Pattern

open Reading (rest extend)

def reading (cs : List Char) : Option (Part × State) :=
  readBody (cs.length + 1) { rest := cs } [] []

/-- The pattern that a text writes, of any depth, with its depth. -/
def written? (text : String) : Option (Expr × Nat) := do
  let (p, s) ← reading text.toList
  let e ← p.expr
  if s.rest.isEmpty then some (e, p.depth) else none

/-- A pattern with a parenthesis after it that closes no group. -/
def ClosesGroup (text : String) : Prop :=
  ∃ before after : String, text = before ++ ")" ++ after ∧ (written? before).isSome ∧ written? (before ++ ")") = none

/-- A parenthesis that follows the pattern belongs to it. -/
def EndsInComment (text : String) : Prop :=
  (written? text).isSome ∧ (written? (text ++ ")")).isSome

theorem reads_reading : Reads reading :=
  .fueled (R := fun n cs => readBody (n + 1) { rest := cs } [] []) (fun n => reads_body (n + 1) { rest := [] } [] [])
    fun n m _ hn hm => readBody_fuel (n + 1) _ [] [] (m + 1) (Nat.lt_succ_of_le hn) (Nat.lt_succ_of_le hm)

theorem written?_eq_some_iff {text : String} {e : Expr} {depth : Nat} : written? text = some (e, depth) ↔
    ∃ s, reading text.toList = some (⟨some e, depth⟩, s) ∧ s.rest = [] := by
  unfold written?
  cases reading text.toList with
  | none => simp
  | some b =>
    obtain ⟨⟨expr, d⟩, s⟩ := b
    cases expr <;> simp
    grind

theorem isSome_written?_iff {text : String} :
    (written? text).isSome ↔ ∃ b, reading text.toList = some b ∧ b.2.rest = [] := by
  constructor
  · intro h
    obtain ⟨⟨e, depth⟩, hw⟩ := Option.isSome_iff_exists.1 h
    obtain ⟨s, hs, hrest⟩ := written?_eq_some_iff.1 hw
    exact ⟨_, hs, hrest⟩
  · rintro ⟨⟨⟨expr, depth⟩, s⟩, hs, hrest⟩
    obtain ⟨e, rfl⟩ := Option.isSome_iff_exists.1 (readBody_ends _ _ _ _ hs).1
    exact Option.isSome_iff_exists.2 ⟨_, written?_eq_some_iff.2 ⟨s, hs, hrest⟩⟩

theorem parse?_eq_some_iff {fits : String → Bool} {text : String} {e : Expr} : parse? fits text = some e ↔
    ∃ depth, written? text = some (e, depth) ∧ depth ≤ depthLimit ∧ fits text := by
  have hparse : parse? fits text = reading text.toList >>= fun b => b.1.expr >>= fun e =>
      if b.2.rest.isEmpty && b.1.depth ≤ depthLimit && fits text then some e else none := rfl
  have heq : parse? fits text = written? text >>= fun w =>
      if w.2 ≤ depthLimit ∧ fits text then some w.1 else none := by
    rw [hparse]
    unfold written?
    cases reading text.toList with
    | none => rfl
    | some b =>
      obtain ⟨⟨expr, depth⟩, flags, names, tail⟩ := b
      cases expr with
      | none => rfl
      | some e => cases tail <;> simp
  rw [heq]
  cases written? text with
  | none => simp
  | some w =>
    obtain ⟨e', depth⟩ := w
    simp
    grind

/-! ### The group -/

def anchor (e : Expr) : Expr :=
  .seq (.look .textStart) (.seq e .empty)

theorem reading_anchored (cs : List Char) : reading ("^(?:".toList ++ cs ++ [')']) =
    (reading (cs ++ [')']) >>= closeGroup { rest := [] } [] [⟨some (.look .textStart), 0⟩]) >>= fun q =>
      readBody (cs.length + 4) q.2.2 q.1 q.2.1 := by
  have hstart : readPart (cs.length + 5) { rest := [] } [] [] '^' ('(' :: '?' :: ':' :: (cs ++ [')'])) =
      some ([], [⟨some (.look .textStart), 0⟩], { rest := '(' :: '?' :: ':' :: (cs ++ [')']) }) := rfl
  have hopen : readGroupOpen { rest := [] } ('?' :: ':' :: (cs ++ [')'])) = some (.group { rest := cs ++ [')'] }) := rfl
  have hinner : readBody (cs.length + 4) { rest := cs ++ [')'] } [] [] = reading (cs ++ [')']) := by
    refine readBody_fuel _ _ _ _ _ ?_ ?_
    · simp
    · simp
  have hlength : ("^(?:".toList ++ cs ++ [')']).length = cs.length + 5 := by simp
  have hgroup : readPart (cs.length + 4) { rest := [] } [] [⟨some (.look .textStart), 0⟩] '('
      ('?' :: ':' :: (cs ++ [')'])) =
        reading (cs ++ [')']) >>= closeGroup { rest := [] } [] [⟨some (.look .textStart), 0⟩] := by
    simp only [readPart, hopen]
    exact congrArg (· >>= closeGroup _ _ _) hinner
  have hfirst := readBody_part (cs.length + 5) { rest := [] } [] [] (c := '^') (fun _ => rfl) (by decide)
    ('(' :: '?' :: ':' :: (cs ++ [')']))
  have hsecond := readBody_part (cs.length + 4) { rest := [] } [] [⟨some (.look .textStart), 0⟩] (c := '(')
    (fun _ => rfl) (by decide) ('?' :: ':' :: (cs ++ [')']))
  rw [hstart] at hfirst
  rw [hgroup] at hsecond
  unfold reading
  rw [hlength]
  exact hfirst.trans hsecond

/- The group is closed where the parenthesis after the pattern stands, and nothing follows. -/
theorem reading_anchored_of_paren {cs : List Char} {e : Expr} {depth : Nat} {s : State}
    (h : reading (cs ++ [')']) = some (⟨some e, depth⟩, s)) (hrest : s.rest = [')']) :
    ∃ t, reading ("^(?:".toList ++ cs ++ [')']) = some (⟨some (anchor e), depth + 2⟩, t) ∧ t.rest = [] := by
  rw [reading_anchored, h]
  obtain ⟨flags, names, tail⟩ := s
  cases hrest
  have hend := readBody_nil (cs.length + 3) { names := names, rest := [] } []
    [⟨some (.look .textStart), 0⟩, ⟨some e, depth + 1⟩]
  have hdepth : max 0 (depth + 1) + 1 = depth + 2 := by omega
  simp only [alternativesOf, sequenceOf, List.isEmpty_nil, if_true, List.foldr, List.foldl, Option.getD_some,
    Nat.max_self, hdepth] at hend
  exact ⟨_, hend, rfl⟩

theorem paren_of_reading_anchored {cs : List Char} {b : Part × State}
    (h : reading ("^(?:".toList ++ cs ++ [')']) = some b) :
    ∃ p s after, reading (cs ++ [')']) = some (p, s) ∧ s.rest = ')' :: after := by
  rw [reading_anchored] at h
  obtain ⟨q, hq, -⟩ := Option.bind_eq_some_iff.1 h
  obtain ⟨⟨p, s⟩, hs, hclose⟩ := Option.bind_eq_some_iff.1 hq
  unfold closeGroup at hclose
  split at hclose
  · rename_i after hrest
    exact ⟨p, s, after, hs, hrest⟩
  · cases hclose

/-! ### Patterns and the parenthesis after them -/

theorem isSome_written?_paren {text : String} :
    (written? (text ++ ")")).isSome ↔ ∃ b, reading (text.toList ++ [')']) = some b ∧ b.2.rest = [] := by
  rw [isSome_written?_iff, String.toList_append]
  rfl

theorem reading_of_written {text : String} {e : Expr} {depth : Nat} (h : written? text = some (e, depth))
    (hend : ¬ EndsInComment text) :
    ∃ s, reading (text.toList ++ [')']) = some (⟨some e, depth⟩, s) ∧ s.rest = [')'] := by
  obtain ⟨s, hs, hrest⟩ := written?_eq_some_iff.1 h
  cases reads_reading.agrees text.toList with
  | same b left right =>
    rw [hs] at left
    cases left
    refine ⟨_, right [], ?_⟩
    simp [extend, hrest]
  | parted left right =>
    have hafter : (written? (text ++ ")")).isSome := isSome_written?_paren.2 ⟨_, (left _ hs).2, hrest⟩
    exact absurd ⟨by simp [h], hafter⟩ hend

theorem written?_of_closesGroup {text : String} (h : ClosesGroup text) : written? text = none := by
  obtain ⟨before, after, rfl, hsome, hnone⟩ := h
  obtain ⟨b, hb, hrest⟩ := isSome_written?_iff.1 hsome
  rw [← Option.not_isSome_iff_eq_none, isSome_written?_iff]
  rintro ⟨b', hb', hrest'⟩
  have htext : (before ++ ")" ++ after).toList = before.toList ++ ')' :: after.toList := by simp
  rw [htext] at hb'
  cases reads_reading.agrees before.toList with
  | same b₀ left right =>
    have hstop := (right after.toList).symm.trans hb'
    cases hstop
    simp [extend] at hrest'
  | parted left right =>
    have hafter : (written? (before ++ ")")).isSome := isSome_written?_paren.2 ⟨b, (left b hb).2, hrest⟩
    rw [hnone] at hafter
    cases hafter

/- What is read up to a parenthesis is a pattern by itself. -/
theorem reading_before_paren {cs after : List Char} {b : Part × State} (h : reading (cs ++ ')' :: after) = some b)
    (hrest : b.2.rest = ')' :: after) :
    ∃ b₀, reading cs = some b₀ ∧ b₀.2.rest = [] ∧ reading (cs ++ [')']) = some (extend b₀ [')']) := by
  cases reads_reading.agrees cs with
  | same b₀ left right =>
    have hstop := (right after).symm.trans h
    cases hstop
    have hnil : b₀.2.rest ++ ')' :: after = ')' :: after := hrest
    exact ⟨b₀, left, List.append_left_eq_self.1 hnil, right []⟩
  | parted left right =>
    have hpassed : b.2.rest.length ≤ after.length := right after b h
    rw [hrest, List.length_cons] at hpassed
    omega

/- Where reading stops before the end, it stops at a parenthesis that no group has opened. -/
theorem closesGroup_of_reading {text : String} {b : Part × State} (h : reading text.toList = some b)
    (hrest : b.2.rest ≠ []) : ClosesGroup text := by
  obtain ⟨before, hbefore⟩ := reads_reading.suffix _ b h
  obtain ⟨after, hafter⟩ : ∃ after, b.2.rest = ')' :: after := by
    rcases (readBody_ends _ _ _ _ h).2 with hnil | hparen
    · exact absurd hnil hrest
    · exact List.head?_eq_some_iff.1 hparen
  have htext : text.toList = before ++ ')' :: after := by
    rw [← hafter]
    exact hbefore.symm
  rw [htext] at h
  obtain ⟨b₀, hread, hnil, hparen⟩ := reading_before_paren h hafter
  refine ⟨String.ofList before, String.ofList after, ?_, ?_, ?_⟩
  · rw [← String.toList_inj]
    simp [htext]
  · rw [isSome_written?_iff, String.toList_ofList]
    exact ⟨b₀, hread, hnil⟩
  · rw [← Option.not_isSome_iff_eq_none, isSome_written?_paren, String.toList_ofList]
    rintro ⟨b', hb', hrest'⟩
    cases hparen.symm.trans hb'
    simp [extend] at hrest'

/-! ### Anchored patterns -/

/-- The text is a pattern that may be anchored: it leaves room for a group and the mark before it, fits with them, and
does not take the end of the group for its own. -/
def Anchorable (fits : String → Bool) (text : String) : Prop :=
  (∃ w ∈ written? text, w.2 + 2 ≤ depthLimit) ∧ fits (TypeTest.anchored text.toList) ∧ ¬ EndsInComment text

instance (text : String) : Decidable (EndsInComment text) :=
  inferInstanceAs (Decidable (_ ∧ _))

instance (fits : String → Bool) (text : String) : Decidable (Anchorable fits text) :=
  inferInstanceAs (Decidable (_ ∧ _))

theorem toList_anchored (cs : List Char) : (TypeTest.anchored cs).toList = "^(?:".toList ++ cs ++ [')'] :=
  String.toList_ofList

theorem written?_anchored {text : String} {e : Expr} {depth : Nat} (h : written? text = some (e, depth))
    (hend : ¬ EndsInComment text) : written? (TypeTest.anchored text.toList) = some (anchor e, depth + 2) := by
  obtain ⟨s, hs, hrest⟩ := reading_of_written h hend
  refine written?_eq_some_iff.2 ?_
  rw [toList_anchored]
  exact reading_anchored_of_paren hs hrest

theorem written?_of_anchored {text : String} {w : Expr × Nat} (h : written? (TypeTest.anchored text.toList) = some w)
    (hclose : ¬ ClosesGroup text) : (written? text).isSome ∧ ¬ EndsInComment text := by
  obtain ⟨s, hs, -⟩ := written?_eq_some_iff.1 h
  rw [toList_anchored] at hs
  obtain ⟨p, t, after, ht, hafter⟩ := paren_of_reading_anchored hs
  have hend : ¬ EndsInComment text := by
    rintro ⟨-, hcomment⟩
    obtain ⟨b, hb, hnil⟩ := isSome_written?_paren.1 hcomment
    cases ht.symm.trans hb
    rw [hafter] at hnil
    cases hnil
  refine ⟨?_, hend⟩
  cases reads_reading.agrees text.toList with
  | same b left right =>
    by_cases hnil : b.2.rest = []
    · exact isSome_written?_iff.2 ⟨b, left, hnil⟩
    · exact absurd (closesGroup_of_reading left hnil) hclose
  | parted left right =>
    have hpassed : t.rest.length ≤ 0 := right [] _ ht
    rw [hafter, List.length_cons] at hpassed
    omega

theorem parse?_of_closesGroup {text : String} (h : ClosesGroup text) (fits : String → Bool) : parse? fits text = none := by
  rw [Option.eq_none_iff_forall_ne_some]
  intro e he
  obtain ⟨depth, hwritten, -⟩ := parse?_eq_some_iff.1 he
  rw [written?_of_closesGroup h] at hwritten
  cases hwritten

theorem parse?_of_anchorable {fits : String → Bool} {text : String} (h : Anchorable fits text) :
    ∃ e, (fits text → parse? fits text = some e) ∧ parse? fits (TypeTest.anchored text.toList) = some (anchor e) := by
  obtain ⟨⟨⟨e, depth⟩, hwritten, hdepth⟩, hfits, hend⟩ := h
  have hshallow : depth + 2 ≤ depthLimit := hdepth
  refine ⟨e, fun hsmall => parse?_eq_some_iff.2 ⟨depth, hwritten, by omega, hsmall⟩, ?_⟩
  exact parse?_eq_some_iff.2 ⟨depth + 2, written?_anchored hwritten hend, hdepth, hfits⟩

theorem anchorable_of_parse? {fits : String → Bool} {text : String} {e : Expr}
    (h : parse? fits (TypeTest.anchored text.toList) = some e) (hclose : ¬ ClosesGroup text) :
    Anchorable fits text := by
  obtain ⟨depth, hanchored, hdepth, hfits⟩ := parse?_eq_some_iff.1 h
  obtain ⟨hsome, hend⟩ := written?_of_anchored hanchored hclose
  obtain ⟨⟨e', depth'⟩, hwritten⟩ := Option.isSome_iff_exists.1 hsome
  have hsame := (written?_anchored hwritten hend).symm.trans hanchored
  cases hsame
  exact ⟨⟨_, hwritten, hdepth⟩, hfits, hend⟩

theorem anchor_matches_iff {e : Expr} {text : String} :
    (anchor e).matches text = true ↔ ∃ j, e.Spans text.toList.toArray 0 j := by
  rw [Expr.matches_iff]
  constructor
  · rintro ⟨i, -, j, k, ⟨hstart, rfl⟩, l, hspan, -⟩
    have hi : i = 0 := by simpa [Look.holds] using hstart
    exact ⟨l, hi ▸ hspan⟩
  · rintro ⟨j, hspan⟩
    exact ⟨0, Nat.zero_le _, j, 0, ⟨rfl, rfl⟩, j, hspan, rfl⟩

end Pattern

namespace TypeTest

open Pattern (ClosesGroup Anchorable)

theorem parse_slashes (fits : String → Bool) (p : String) : parse fits ("/" ++ p ++ "/") =
    (Pattern.parse? fits (anchored p.toList)).elim (.error ((Fault.ofKind .invalidRegex).causedBy .pattern))
      (.ok ∘ .pattern) := by
  have htext : ("/" ++ p ++ "/").toList = '/' :: (p.toList ++ ['/']) := by simp
  have hbetween : betweenSlashes? ("/" ++ p ++ "/").toList = some p.toList := by
    simp [htext, betweenSlashes?]
  have hname (name : String) (h : name.toList.head? ≠ some '/') : "/" ++ p ++ "/" ≠ name := by
    rintro rfl
    exact h (by simp [htext])
  unfold parse
  split
  · exact absurd ‹_› (hname _ (by decide))
  · exact absurd ‹_› (hname _ (by decide))
  · exact absurd ‹_› (hname _ (by decide))
  · exact absurd ‹_› (hname _ (by decide))
  · exact absurd ‹_› (hname _ (by decide))
  · rw [hbetween]
    dsimp only
    cases Pattern.parse? fits (anchored p.toList) <;> rfl

/-- Whatever size of patterns fits, a text between slashes that may be anchored is a test whether the pattern matches
from the start of a text. Any other text is refused, pattern or not, unless it closes the group that it stands in. Such a
text is no pattern, and is taken if there is one with the group around it. -/
theorem parse_between_slashes (fits : String → Bool) (p : String) :
    let refused : Except Fault TypeTest := .error ((Fault.ofKind .invalidRegex).causedBy .pattern)
    (Anchorable fits p → ∃ e test, (fits p → Pattern.parse? fits p = some e) ∧
      parse fits ("/" ++ p ++ "/") = .ok test ∧
      ∀ t, test.holds (.text t) = true ↔ ∃ j, e.Spans t.toList.toArray 0 j) ∧
    (¬ Anchorable fits p → ¬ ClosesGroup p → parse fits ("/" ++ p ++ "/") = refused) ∧
    (ClosesGroup p → Pattern.parse? fits p = none ∧ (parse fits ("/" ++ p ++ "/") = refused ∨
      ∃ e, Pattern.parse? fits (anchored p.toList) = some e ∧
        parse fits ("/" ++ p ++ "/") = .ok (.pattern e))) := by
  intro refused
  rw [parse_slashes]
  refine ⟨fun h => ?_, fun hnot hclose => ?_, fun h => ⟨Pattern.parse?_of_closesGroup h fits, ?_⟩⟩
  · obtain ⟨e, he, hanchored⟩ := Pattern.parse?_of_anchorable h
    rw [hanchored]
    exact ⟨e, .pattern (Pattern.anchor e), he, rfl, fun t => Pattern.anchor_matches_iff⟩
  · have hnone : Pattern.parse? fits (anchored p.toList) = none := by
      rw [Option.eq_none_iff_forall_ne_some]
      intro e he
      exact hnot (Pattern.anchorable_of_parse? he hclose)
    rw [hnone]
    rfl
  · cases Pattern.parse? fits (anchored p.toList) with
    | none => exact .inl rfl
    | some e => exact .inr ⟨e, rfl, rfl⟩

/-- Two alternatives, with room for eight characters in the pattern as it is compiled. -/
theorem parse_between_slashes_alternatives :
    let fits (text : String) := decide (text.length ≤ 8)
    Anchorable fits "a|b" ∧ fits "a|b" = true ∧
    ∃ e test, Pattern.parse? fits "a|b" = some e ∧ parse fits "/a|b/" = .ok test ∧
      ∀ t, test.holds (.text t) = true ↔ ∃ j, e.Spans t.toList.toArray 0 j := by
  intro fits
  have h : Anchorable fits "a|b" := by decide +kernel
  obtain ⟨e, test, hparse, htest, hholds⟩ := (parse_between_slashes fits "a|b").1 h
  exact ⟨h, rfl, e, test, hparse rfl, htest, hholds⟩

/-- Between slashes the first text is taken though it is no pattern, and matches in the middle of a text; the second is
refused though it is one. -/
theorem parse_between_slashes_unanchored :
    let fits (_ : String) := true
    (Pattern.parse? fits "a)|(b").isNone ∧ (parse fits "/a)|(b/").toOption.any (fun test => test.holds (.text "xb")) ∧
    (Pattern.parse? fits "(?x)a#c").isSome ∧ (parse fits "/(?x)a#c/").toOption.isNone := by
  decide +kernel

end TypeTest

end Stencil
