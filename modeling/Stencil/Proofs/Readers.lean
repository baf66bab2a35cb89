import Stencil.Pattern.Parser

/-!
# Readers before a closing parenthesis

Whether a pattern may stand in a group is a question of what its readers do at the end of their text, when a closing
parenthesis follows there. Each takes the same part of the text in both cases, or has come to the end of the text in
the middle of something: in a class, an escape or a comment it then takes the parenthesis for its own. `Reads` says
this of a reader, and is kept when readers are put one after another.
-/

namespace Stencil.Pattern

/-- Something read, with the rest of the text. -/
class Reading (β : Type) where
  rest : β → List Char
  extend : β → List Char → β
  rest_extend : ∀ b x, rest (extend b x) = rest b ++ x
  extend_extend : ∀ b x y, extend (extend b x) y = extend b (x ++ y)

open Reading (rest extend)

instance : Reading (List Char) where
  rest cs := cs
  extend cs x := cs ++ x
  rest_extend _ _ := rfl
  extend_extend := List.append_assoc

instance {α β : Type} [Reading β] : Reading (α × β) where
  rest p := rest p.2
  extend p x := (p.1, extend p.2 x)
  rest_extend p x := Reading.rest_extend p.2 x
  extend_extend p x y := by rw [Reading.extend_extend]

variable {α β γ δ : Type} [Reading α] [Reading β] [Reading γ]

/-- What is read of a text and of the same text before a parenthesis and any other text. Both are the same, the first
reading stopping where the parenthesis stands for the others, or the first one has failed or come to the end and the
others have passed the parenthesis. -/
inductive Agree (l : Option β) (r : List Char → Option β) : Prop where
  | same (b : β) (left : l = some b) (right : ∀ after, r after = some (extend b (')' :: after)))
  | parted (left : ∀ b, l = some b → rest b = [] ∧ r [] = some b)
      (right : ∀ after b, r after = some b → (rest b).length ≤ after.length)

namespace Agree

theorem of_none {r : List Char → Option β} (right : ∀ after b, r after = some b → (rest b).length ≤ after.length) :
    Agree none r :=
  .parted (fun _ h => nomatch h) right

theorem bind {l : Option β} {r : List Char → Option β} {s : β → Option γ} (h : Agree l r)
    (hsuffix : ∀ b c, s b = some c → rest c <:+ rest b)
    (hs : ∀ b, Agree (s b) fun after => s (extend b (')' :: after))) :
    Agree (l >>= s) fun after => r after >>= s := by
  cases h with
  | same b left right =>
    simp only [left, right]
    exact hs b
  | parted left right =>
    refine .parted (fun c hc => ?_) (fun after c hc => ?_)
    · obtain ⟨b, hb, hbc⟩ := Option.bind_eq_some_iff.1 hc
      obtain ⟨hnil, hr⟩ := left b hb
      have hempty := hsuffix b c hbc
      rw [hnil, List.suffix_nil] at hempty
      rw [hr]
      exact ⟨hempty, hbc⟩
    · obtain ⟨b, hb, hbc⟩ := Option.bind_eq_some_iff.1 hc
      exact Nat.le_trans (hsuffix b c hbc).length_le (right after b hb)

end Agree

/-- A reader leaves an end of its text, and its readings before a parenthesis agree with those of the text alone. -/
structure Reads (r : α → Option β) : Prop where
  suffix : ∀ a b, r a = some b → rest b <:+ rest a
  agrees : ∀ a, Agree (r a) fun after => r (extend a (')' :: after))

/-- A reader that takes one character at least. -/
structure Takes (r : α → Option β) : Prop extends Reads r where
  shorter : ∀ a b, r a = some b → (rest b).length < (rest a).length

namespace Reads

theorem fail : Reads fun _ : α => (none : Option β) where
  suffix _ _ h := nomatch h
  agrees _ := .of_none fun _ _ h => nomatch h

theorem give {g : α → β} (hrest : ∀ a, rest (g a) = rest a) (hextend : ∀ a x, g (extend a x) = extend (g a) x) :
    Reads fun a => some (g a) where
  suffix a b h := by
    cases h
    simp [hrest]
  agrees a := .same (g a) rfl fun after => by rw [hextend]

theorem bind {r : α → Option β} {s : β → Option γ} (hr : Reads r) (hs : Reads s) : Reads fun a => r a >>= s where
  suffix a c h := by
    obtain ⟨b, hb, hc⟩ := Option.bind_eq_some_iff.1 h
    exact (hs.suffix b c hc).trans (hr.suffix a b hb)
  agrees a := (hr.agrees a).bind hs.suffix hs.agrees

theorem map {r : α → Option β} {g : β → γ} (hr : Reads r) (hrest : ∀ b, rest (g b) = rest b)
    (hextend : ∀ b x, g (extend b x) = extend (g b) x) : Reads fun a => (r a).map g := by
  have hread := hr.bind (give hrest hextend)
  simp only [Option.map_eq_bind]
  exact hread

/- A value on the way, not from the text, may be missing. -/
theorem value {o : Option δ} {s : δ → α → Option β} (hs : ∀ v, Reads (s v)) : Reads fun a => o >>= fun v => s v a := by
  cases o with
  | none => exact fail
  | some v => exact hs v

theorem ofPair {s : δ × α → Option β} (hs : ∀ v, Reads fun a => s (v, a)) : Reads s where
  suffix p b h := (hs p.1).suffix p.2 b h
  agrees p := (hs p.1).agrees p.2

/- A condition that the parenthesis does not change. -/
theorem ite {p : α → Prop} [DecidablePred p] {r s : α → Option β} (hp : ∀ a x, p (extend a (')' :: x)) ↔ p a)
    (hr : Reads r) (hs : Reads s) : Reads fun a => if p a then r a else s a where
  suffix a b h := by
    split at h
    · exact hr.suffix a b h
    · exact hs.suffix a b h
  agrees a := by
    simp only [hp]
    split
    · exact hr.agrees a
    · exact hs.agrees a

/- A reader of something that cannot hold the parenthesis. -/
theorem of_append {r : α → Option β} (hsuffix : ∀ a b, r a = some b → rest b <:+ rest a)
    (happend : ∀ a after, r (extend a (')' :: after)) = (r a).map fun b => extend b (')' :: after)) : Reads r where
  suffix := hsuffix
  agrees a := by
    simp only [happend]
    cases r a with
    | none => exact .of_none fun _ _ h => nomatch h
    | some b => exact .same b rfl fun _ => rfl

/- A reader that looks for something that cannot hold the parenthesis, and otherwise reads another way. -/
theorem orElse {q : α → Option β} {r : β → Option γ} {s : α → Option γ}
    (hq : ∀ a after, q (extend a (')' :: after)) = (q a).map fun b => extend b (')' :: after))
    (hsuffix : ∀ a b, q a = some b → rest b <:+ rest a) (hr : Reads r) (hs : Reads s) :
    Reads fun a => (q a).elim (s a) r where
  suffix a c h := by
    cases hq : q a with
    | some b =>
      rw [hq] at h
      exact (hr.suffix b c h).trans (hsuffix a b hq)
    | none =>
      rw [hq] at h
      exact hs.suffix a c h
  agrees a := by
    simp only [hq]
    cases q a with
    | some b => exact hr.agrees b
    | none => exact hs.agrees a

/- Enough fuel is as good as more. If one amount shows that the readings part, so do all that are enough, for the
reading of a parenthesis alone cannot both stop before it and pass it. -/
theorem fueled {R : Nat → α → Option β} (hR : ∀ n, Reads (R n))
    (hfuel : ∀ n m a, (rest a).length ≤ n → (rest a).length ≤ m → R n a = R m a) :
    Reads fun a => R (rest a).length a where
  suffix a b h := (hR _).suffix a b h
  agrees a := by
    have hright : ∀ n after, (rest a).length + after.length + 1 ≤ n →
        R (rest (extend a (')' :: after))).length (extend a (')' :: after)) = R n (extend a (')' :: after)) := by
      intro n after hn
      have hlength : (rest (extend a (')' :: after))).length ≤ n := by
        rw [Reading.rest_extend, List.length_append, List.length_cons]
        omega
      exact hfuel _ n _ (Nat.le_refl _) hlength
    have hagree : ∀ n, (rest a).length ≤ n →
        Agree (R (rest a).length a) fun after => R n (extend a (')' :: after)) := by
      intro n hn
      rw [hfuel _ n a (Nat.le_refl _) hn]
      exact (hR n).agrees a
    -- The parenthesis alone, read with any fuel that is enough.
    have hone : ∀ n, (rest a).length + 1 ≤ n → ∀ b, R n (extend a [')']) = some b →
        R ((rest a).length + 1) (extend a [')']) = some b := by
      intro n hn b hb
      have heq := (hright ((rest a).length + 1) [] (Nat.le_refl _)).symm.trans (hright n [] hn)
      exact heq.trans hb
    cases hagree ((rest a).length + 1) (by omega) with
    | same b left right =>
      refine .same b left fun after => ?_
      rw [hright ((rest a).length + after.length + 1) after (Nat.le_refl _)]
      cases hagree ((rest a).length + after.length + 1) (by omega) with
      | same b' left' right' =>
        rw [left] at left'
        cases left'
        exact right' after
      | parted left' right' =>
        have hstop := hone _ (by omega) b (left' b left).2
        rw [right] at hstop
        have hlength := congrArg List.length (congrArg rest (Option.some.inj hstop))
        simp [Reading.rest_extend] at hlength
    | parted left right =>
      refine .parted (fun b hb => ?_) (fun after b hb => ?_)
      · rw [hright _ [] (Nat.le_refl _)]
        exact left b hb
      · rw [hright _ after (Nat.le_refl _)] at hb
        cases hagree ((rest a).length + after.length + 1) (by omega) with
        | same b' left' right' =>
          have hpass := hone _ (by omega) _ (right' [])
          rw [(left b' left').2] at hpass
          have hlength := congrArg List.length (congrArg rest (Option.some.inj hpass))
          simp [Reading.rest_extend] at hlength
        | parted left' right' => exact right' after b hb

end Reads

namespace Takes

theorem bind {r : α → Option β} {s : β → Option γ} (hr : Takes r) (hs : Reads s) : Takes fun a => r a >>= s where
  toReads := hr.toReads.bind hs
  shorter a c h := by
    obtain ⟨b, hb, hc⟩ := Option.bind_eq_some_iff.1 h
    exact Nat.lt_of_le_of_lt (hs.suffix b c hc).length_le (hr.shorter a b hb)

theorem after {r : α → Option β} {s : β → Option γ} (hr : Reads r) (hs : Takes s) : Takes fun a => r a >>= s where
  toReads := hr.bind hs.toReads
  shorter a c h := by
    obtain ⟨b, hb, hc⟩ := Option.bind_eq_some_iff.1 h
    exact Nat.lt_of_lt_of_le (hs.shorter b c hc) (hr.suffix a b hb).length_le

theorem ofPair {s : δ × α → Option β} (hs : ∀ v, Takes fun a => s (v, a)) : Takes s where
  toReads := .ofPair fun v => (hs v).toReads
  shorter p b h := (hs p.1).shorter p.2 b h

theorem cons {r : List Char → Option β} (h : Takes r) (c : Char) : Reads fun cs => r (c :: cs) where
  suffix cs b hb := by
    rcases List.suffix_cons_iff.1 (h.suffix _ b hb) with heq | hsuffix
    · have hlength := h.shorter _ b hb
      rw [heq] at hlength
      exact absurd hlength (Nat.lt_irrefl _)
    · exact hsuffix
  agrees cs := h.agrees (c :: cs)

end Takes

@[simp] theorem extend_cons (c : Char) (cs x : List Char) : extend (c :: cs) x = c :: (cs ++ x) := rfl

/-! ### Blanks -/

theorem dropSpace_suffix (inComment : Bool) (cs : List Char) : dropSpace inComment cs <:+ cs := by
  induction cs generalizing inComment with
  | nil => simp [dropSpace]
  | cons c cs ih =>
    cases inComment with
    | true => exact (ih _).trans (List.suffix_cons c cs)
    | false =>
      simp only [dropSpace]
      split
      · exact (ih false).trans (List.suffix_cons c cs)
      · split
        · exact (ih true).trans (List.suffix_cons c cs)
        · exact List.suffix_rfl

theorem dropSpace_stop {inComment : Bool} {c : Char} {cs rest : List Char} (h : dropSpace inComment cs = c :: rest) :
    ¬ Unicode.isBlank c ∧ c ≠ '#' := by
  induction cs generalizing inComment with
  | nil => simp [dropSpace] at h
  | cons c' cs ih =>
    cases inComment with
    | true => exact ih h
    | false =>
      simp only [dropSpace] at h
      split at h
      · exact ih h
      · split at h
        · exact ih h
        · cases h
          exact ⟨‹_›, ‹_›⟩

/- Only a comment that is open at the end of the text runs on. -/
theorem dropSpace_append (inComment : Bool) (cs : List Char) :
    (∀ after, dropSpace inComment (cs ++ ')' :: after) = dropSpace inComment cs ++ ')' :: after) ∨
    (dropSpace inComment cs = [] ∧ dropSpace inComment (cs ++ [')']) = [] ∧
      ∀ after, (dropSpace inComment (cs ++ ')' :: after)).length ≤ after.length) := by
  induction cs generalizing inComment with
  | nil =>
    cases inComment with
    | true => exact .inr ⟨rfl, rfl, fun after => (dropSpace_suffix _ after).length_le⟩
    | false => exact .inl fun after => rfl
  | cons c cs ih =>
    cases inComment with
    | true => exact ih _
    | false =>
      simp only [dropSpace, List.cons_append]
      split
      · exact ih false
      · split
        · exact ih true
        · exact .inl fun after => rfl

namespace Flags

variable (f : Flags)

/-- The character is neither a blank nor the beginning of a comment. -/
def Stops (c : Char) : Prop :=
  ∀ cs, f.skip (c :: cs) = c :: cs

theorem stops_of_skip {f : Flags} {c : Char} {cs rest : List Char} (h : f.skip cs = c :: rest) : f.Stops c := by
  intro cs'
  by_cases hv : f.verbose
  · simp only [skip, hv, if_true] at h ⊢
    obtain ⟨hblank, hcomment⟩ := dropSpace_stop h
    simp [dropSpace, hblank, hcomment]
  · simp [skip, hv]

theorem skip_nil : f.skip [] = [] := by
  simp [skip, dropSpace]

theorem skip_skip (cs : List Char) : f.skip (f.skip cs) = f.skip cs := by
  cases h : f.skip cs with
  | nil => exact f.skip_nil
  | cons c rest => exact stops_of_skip h rest

theorem skip_suffix (cs : List Char) : f.skip cs <:+ cs := by
  unfold skip
  split
  · exact dropSpace_suffix _ _
  · exact List.suffix_rfl

theorem skip_append (cs : List Char) : (∀ after, f.skip (cs ++ ')' :: after) = f.skip cs ++ ')' :: after) ∨
    (f.skip cs = [] ∧ f.skip (cs ++ [')']) = [] ∧ ∀ after, (f.skip (cs ++ ')' :: after)).length ≤ after.length) := by
  unfold skip
  split
  · exact dropSpace_append false cs
  · exact .inl fun after => rfl

theorem stops_paren : f.Stops ')' := by
  intro cs
  unfold skip
  split <;> rfl

theorem stops_brace : f.Stops '{' := by
  intro cs
  unfold skip
  split <;> rfl

theorem reads_skip : Reads fun cs => some (f.skip cs) where
  suffix cs b h := by
    cases h
    exact f.skip_suffix cs
  agrees cs := by
    rcases f.skip_append cs with hsame | ⟨hnil, hone, hlength⟩
    · exact .same (f.skip cs) rfl fun after => congrArg some (hsame after)
    · refine .parted (fun b h => ?_) (fun after b h => ?_)
      · cases h
        exact ⟨hnil, congrArg some (hone.trans hnil.symm)⟩
      · cases h
        exact hlength after

end Flags

/- A loop over the characters that count, with enough fuel to come to the end of the text. -/
theorem fuel_enough {R : Nat → List Char → δ} (f : Flags) (hnil : ∀ n, R n [] = R 0 [])
    (hcons : ∀ n m c cs, R n (f.skip cs) = R m (f.skip cs) → R (n + 1) (c :: cs) = R (m + 1) (c :: cs))
    (n m : Nat) (cs : List Char) (hn : cs.length ≤ n) (hm : cs.length ≤ m) : R n cs = R m cs := by
  induction n generalizing m cs with
  | zero =>
    obtain rfl := List.eq_nil_of_length_eq_zero (Nat.le_zero.1 hn)
    rw [hnil m]
  | succ n ih =>
    cases cs with
    | nil => rw [hnil, hnil m]
    | cons c cs =>
      cases m with
      | zero => simp at hm
      | succ m =>
        have hle := (f.skip_suffix cs).length_le
        simp only [List.length_cons] at hn hm
        exact hcons n m c cs (ih m (f.skip cs) (by omega) (by omega))

section Skipping

variable {r : List Char → Option β} (f : Flags)

theorem Reads.after_skip (h : Reads r) : Reads fun cs => r (f.skip cs) :=
  f.reads_skip.bind h

/- For a reader that passes over blanks first. At other characters it reads on or stops. -/
theorem Reads.of_skip (hskip : ∀ cs, r (f.skip cs) = r cs) (hend : ∀ b, r [] = some b → rest b = [])
    (hnil : Agree (r []) fun after => r (')' :: after))
    (hcons : ∀ c, f.Stops c → Reads (fun cs => r (c :: cs)) ∨
      ∃ b, rest b = [] ∧ ∀ cs, r (c :: cs) = some (extend b (c :: cs))) : Reads r := by
  have hsuffix : ∀ cs b, r cs = some b → rest b <:+ f.skip cs := by
    intro cs b h
    rw [← hskip] at h
    cases hcs : f.skip cs with
    | nil =>
      rw [hcs] at h
      simp [hend b h]
    | cons c cs' =>
      rw [hcs] at h
      rcases hcons c (Flags.stops_of_skip hcs) with hread | ⟨b₀, hb₀, hstop⟩
      · exact (hread.suffix cs' b h).trans (List.suffix_cons c cs')
      · rw [hstop] at h
        cases h
        rw [Reading.rest_extend, hb₀]
        exact List.suffix_rfl
  refine ⟨fun cs b h => (hsuffix cs b h).trans (f.skip_suffix cs), fun cs => ?_⟩
  rw [← hskip cs]
  rcases f.skip_append cs with hsame | ⟨hempty, hone, hlength⟩
  · have hright : ∀ after, r (cs ++ ')' :: after) = r (f.skip cs ++ ')' :: after) := by
      intro after
      rw [← hskip, hsame]
    simp only [extend, hright]
    cases hcs : f.skip cs with
    | nil => exact hnil
    | cons c cs' =>
      rcases hcons c (Flags.stops_of_skip hcs) with hread | ⟨b₀, hb₀, hstop⟩
      · exact hread.agrees cs'
      · refine .same _ (hstop cs') fun after => ?_
        rw [Reading.extend_extend]
        exact hstop _
  · have hlast : r (cs ++ [')']) = r (f.skip cs) := by
      rw [← hskip, hone, hempty]
    refine .parted (fun b h => ⟨?_, hlast.trans h⟩) (fun after b h => ?_)
    · rw [hempty] at h
      exact hend b h
    · exact Nat.le_trans (hsuffix _ b h).length_le (hlength after)

theorem Takes.of_skip (hskip : ∀ cs, r (f.skip cs) = r cs) (hnil : r [] = none)
    (hcons : ∀ c, f.Stops c → Reads fun cs => r (c :: cs)) : Takes r := by
  have hread : Reads r := by
    refine .of_skip f hskip ?_ ?_ fun c hc => .inl (hcons c hc)
    · rw [hnil]
      exact fun _ h => nomatch h
    · rw [hnil]
      exact .of_none fun after b h => ((hcons ')' f.stops_paren).suffix after b h).length_le
  refine ⟨hread, fun cs b h => ?_⟩
  have hle := (f.skip_suffix cs).length_le
  rw [← hskip] at h
  cases hcs : f.skip cs with
  | nil =>
    rw [hcs, hnil] at h
    cases h
  | cons c cs' =>
    rw [hcs] at h hle
    have := ((hcons c (Flags.stops_of_skip hcs)).suffix cs' b h).length_le
    simp only [rest, List.length_cons] at this hle ⊢
    omega

theorem Reads.of_skip_stop {b : β} (hskip : ∀ cs, r (f.skip cs) = r cs) (hb : rest b = []) (hnil : r [] = some b)
    (hparen : ∀ cs, r (')' :: cs) = some (extend b (')' :: cs)))
    (hcons : ∀ c, f.Stops c → Reads (fun cs => r (c :: cs)) ∨ ∀ cs, r (c :: cs) = some (extend b (c :: cs))) :
    Reads r := by
  refine .of_skip f hskip (fun b' h => ?_) (.same b hnil hparen) fun c hc => (hcons c hc).imp id fun h => ⟨b, hb, h⟩
  rw [hnil] at h
  cases h
  exact hb

end Skipping

/- Without flags nothing is passed over. -/
theorem Takes.of_cons {r : List Char → Option β} (hnil : r [] = none) (hcons : ∀ c, Reads fun cs => r (c :: cs)) :
    Takes r :=
  .of_skip {} (fun _ => rfl) hnil fun c _ => hcons c

theorem Reads.of_stop {r : List Char → Option β} {b : β} (hb : rest b = []) (hnil : r [] = some b)
    (hparen : ∀ cs, r (')' :: cs) = some (extend b (')' :: cs)))
    (hcons : ∀ c, Reads (fun cs => r (c :: cs)) ∨ ∀ cs, r (c :: cs) = some (extend b (c :: cs))) : Reads r :=
  .of_skip_stop {} (fun _ => rfl) hb hnil hparen fun c _ => hcons c

/- For a reader that looks for a second character. -/
theorem Reads.of_head {r s t : List Char → Option β} (c : Char) (hparen : c ≠ ')') (hs : Reads s) (ht : Reads t)
    (hsecond : ∀ cs, r (c :: cs) = s cs) (hother : ∀ cs, cs.head? ≠ some c → r cs = t cs) : Reads r where
  suffix cs b h := by
    cases cs with
    | nil =>
      rw [hother [] (by simp)] at h
      exact ht.suffix [] b h
    | cons c' cs =>
      by_cases hc : c' = c
      · subst hc
        rw [hsecond] at h
        exact (hs.suffix cs b h).trans (List.suffix_cons c' cs)
      · rw [hother _ (by simp [hc])] at h
        exact ht.suffix _ b h
  agrees cs := by
    cases cs with
    | nil =>
      have hright (after : List Char) : r (extend [] (')' :: after)) = t (extend [] (')' :: after)) :=
        hother _ (by simp [extend, hparen.symm])
      simp only [hright, hother [] (by simp)]
      exact ht.agrees []
    | cons c' cs =>
      by_cases hc : c' = c
      · subst hc
        simp only [extend_cons, hsecond]
        exact hs.agrees cs
      · have hright (cs : List Char) : r (c' :: cs) = t (c' :: cs) := hother _ (by simp [hc])
        simp only [extend_cons, hright]
        exact ht.agrees (c' :: cs)

theorem reads_take (v : δ) : Reads fun cs : List Char => some (v, cs) :=
  .give (fun _ => rfl) fun _ _ => rfl

theorem reads_take_skip (f : Flags) (v : δ) : Reads fun cs : List Char => some (v, f.skip cs) :=
  f.reads_skip.bind (reads_take v)

end Stencil.Pattern
