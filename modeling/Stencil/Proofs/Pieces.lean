import Stencil.Proofs.CallChanges
import Stencil.Proofs.Integers

/-!
# Pieces of a text

A text is cut at the first occurrence of a separator, and what follows the occurrence is cut again. `split` makes these
cuts in one pass and `split` the builtin binds what lies between them, under numbered names that are all different and
none of which is reserved.
-/

namespace Stencil

namespace Text

/-- The first occurrence of a separator in a text, between what precedes and what follows it. -/
structure FirstCut (sep cs before after : List Char) : Prop where
  cut : cs = before ++ sep ++ after
  first : ∀ b a, cs = b ++ sep ++ a → before.length ≤ b.length

/-- The number of occurrences of a separator that do not overlap, taken from left to right. -/
inductive Occurrences (sep : List Char) : List Char → Nat → Prop where
  | none {cs : List Char} (h : ¬ sep <:+: cs) : Occurrences sep cs 0
  | next {cs before after : List Char} {n : Nat} (h : FirstCut sep cs before after)
      (rest : Occurrences sep after n) : Occurrences sep cs (n + 1)

theorem FirstCut.unique {sep cs before after before' after' : List Char} (h : FirstCut sep cs before after)
    (h' : FirstCut sep cs before' after') : before = before' ∧ after = after' := by
  have hle := h.first before' after' h'.cut
  have hge := h'.first before after h.cut
  have hcut := h.cut.symm.trans h'.cut
  rw [List.append_assoc, List.append_assoc] at hcut
  have hparts := List.append_inj hcut (by omega)
  exact ⟨hparts.1, List.append_cancel_left hparts.2⟩

theorem Occurrences.unique {sep cs : List Char} {n m : Nat} (hn : Occurrences sep cs n) (hm : Occurrences sep cs m) :
    n = m := by
  induction hn generalizing m with
  | none h =>
    cases hm with
    | none => rfl
    | next h' _ => exact absurd ⟨_, _, h'.cut.symm⟩ h
  | next h _ ih =>
    cases hm with
    | none h' => exact absurd ⟨_, _, h.cut.symm⟩ h'
    | next h' rest =>
      obtain ⟨-, rfl⟩ := h.unique h'
      rw [ih rest]

inductive Pieces (sep : List Char) : List Char → List (List Char) → Prop where
  | whole {cs : List Char} (h : ¬ sep <:+: cs) : Pieces sep cs [cs]
  | cut {cs before after : List Char} {pieces : List (List Char)} (h : FirstCut sep cs before after)
      (rest : Pieces sep after pieces) : Pieces sep cs (before :: pieces)

variable {sep : List Char}

theorem splitFrom_skip (sep piece : List Char) (k : Nat) (cs : List Char) :
    splitFrom sep piece k cs = splitFrom sep piece 0 (cs.drop k) := by
  induction cs generalizing k with
  | nil => cases k <;> simp [splitFrom]
  | cons c rest ih =>
    cases k with
    | zero => rfl
    | succ k => rw [splitFrom, ih, List.drop_succ_cons]

/- What was passed over has no occurrence that begins in it. -/
theorem pieces_splitFrom (hsep : sep ≠ []) (cs piece : List Char)
    (h : ∀ b a, piece.reverse ++ cs = b ++ sep ++ a → piece.length ≤ b.length) :
    Pieces sep (piece.reverse ++ cs) (splitFrom sep piece 0 cs) := by
  have hpos : 0 < sep.length := List.length_pos_iff.2 hsep
  induction hn : cs.length using Nat.strongRecOn generalizing cs piece with
  | ind n ih =>
    cases cs with
    | nil =>
      rw [List.append_nil] at h ⊢
      refine .whole ?_
      rintro ⟨b, a, hba⟩
      have hb := h b a hba.symm
      have hlength := congrArg List.length hba
      simp only [List.length_append, List.length_reverse] at hlength
      omega
    | cons c rest =>
      rw [splitFrom]
      split
      · rename_i hstarts
        obtain ⟨after, hafter⟩ := List.isPrefixOf_iff_prefix.1 hstarts
        have hdrop : rest.drop (sep.length - 1) = after := by
          have htail := congrArg (List.drop sep.length) hafter
          rw [List.drop_left, show sep.length = sep.length - 1 + 1 by omega, List.drop_succ_cons] at htail
          exact htail.symm
        have hshort : after.length < n := by
          have hlength := congrArg List.length hafter
          simp only [List.length_append, List.length_cons] at hlength hn
          omega
        rw [splitFrom_skip, hdrop]
        have hrest : Pieces sep after (splitFrom sep [] 0 after) :=
          ih _ hshort after [] (fun _ _ _ => Nat.zero_le _) rfl
        refine .cut ⟨?_, ?_⟩ hrest
        · rw [List.append_assoc, hafter]
        · intro b a hba
          rw [List.length_reverse]
          exact h b a hba
      · rename_i hstarts
        have hwhole : piece.reverse ++ c :: rest = (c :: piece).reverse ++ rest := by
          simp
        rw [hwhole] at h ⊢
        refine ih rest.length (by simp only [List.length_cons] at hn; omega) rest (c :: piece) ?_ rfl
        intro b a hba
        have hb := h b a hba
        -- An occurrence right behind `piece` would have been taken.
        have hne : b.length ≠ piece.length := by
          intro heq
          apply hstarts
          rw [← hwhole, List.append_assoc] at hba
          have hsplit := List.append_inj hba (by rw [List.length_reverse, heq])
          exact List.isPrefixOf_iff_prefix.2 ⟨a, hsplit.2.symm⟩
        simp only [List.length_cons]
        omega

theorem pieces_split (hsep : sep ≠ []) (cs : List Char) : Pieces sep cs (split sep cs) :=
  pieces_splitFrom hsep cs [] fun _ _ _ => Nat.zero_le _

namespace Pieces

variable {cs : List Char} {pieces : List (List Char)}

theorem occurrences (h : Pieces sep cs pieces) : ∃ n, Occurrences sep cs n ∧ pieces.length = n + 1 := by
  induction h with
  | whole h => exact ⟨0, .none h, rfl⟩
  | cut h _ ih =>
    obtain ⟨n, hn, hlength⟩ := ih
    exact ⟨n + 1, .next h hn, by rw [List.length_cons, hlength]⟩

theorem ne_nil (h : Pieces sep cs pieces) : pieces ≠ [] := by
  cases h <;> simp

theorem intercalate_eq (h : Pieces sep cs pieces) : sep.intercalate pieces = cs := by
  induction h with
  | whole => simp
  | cut h rest ih =>
    obtain ⟨p, ps, rfl⟩ := List.exists_cons_of_ne_nil rest.ne_nil
    rw [List.intercalate_cons_cons, ih, h.cut]

theorem not_infix (h : Pieces sep cs pieces) (hsep : sep ≠ []) : ∀ p ∈ pieces, ¬ sep <:+: p := by
  have hpos : 0 < sep.length := List.length_pos_iff.2 hsep
  induction h with
  | whole h => simpa using h
  | cut h _ ih =>
    rename_i before after _ _
    refine List.forall_mem_cons.2 ⟨?_, ih⟩
    -- An occurrence inside the piece would come before the first one.
    rintro ⟨b, a, hba⟩
    have hb := h.first b (a ++ sep ++ after) (by rw [h.cut, ← hba]; simp only [List.append_assoc])
    have hlength := congrArg List.length hba
    simp only [List.length_append] at hlength
    omega

end Pieces

end Text

/-! ### Numbered names -/

theorem numbered_inj {start : String} {n m : Nat} (h : start ++ toString n = start ++ toString m) : n = m := by
  have htext : n.repr = m.repr := (String.append_right_inj start).1 h
  have hdigits : Nat.toDigits 10 n = Nat.toDigits 10 m := by
    rw [← Nat.toList_repr, htext, Nat.toList_repr]
  rw [← Nat.ofDigitChars_ten_toDigits (n := n), hdigits, Nat.ofDigitChars_ten_toDigits]

/- A numbered name ends in a digit. -/
theorem numbered_ne_replaceOrder (start : String) (n : Nat) : start ++ toString n ≠ replaceOrderVariable := by
  intro h
  have hlist : start.toList ++ Nat.toDigits 10 n = ['n', 'e', 'w', 'r', 'e'] ++ ['p'] := by
    rw [← Nat.toList_repr, ← String.toList_append]
    exact congrArg String.toList h
  have hlast := congrArg List.getLast? hlist
  rw [List.getLast?_append, List.getLast?_eq_some_getLast Nat.toDigits_ne_nil, Option.some_or] at hlast
  have hp : (Nat.toDigits 10 n).getLast Nat.toDigits_ne_nil = 'p' := Option.some.inj hlast
  have hmem : 'p' ∈ Nat.toDigits 10 n := by
    rw [← hp]
    exact List.getLast_mem _
  exact absurd (Number.isDigit_of_mem_digits hmem) (by decide)

/-! ### Binding the pieces -/

namespace Store

variable {s t : Store} {c : Scope} {names : List String}

theorem rootOf_congr {d : Scope} (h : s.root d = s.root c) : s.rootOf d = s.rootOf c := by
  simp only [rootOf, h]

/- What a change to one Root means for every scope. -/
theorem ChangesOnly.rootOf_cases (h : ChangesOnly c names s t) (d : Scope) :
    s.root d = s.root c ∧ s.rootOf d = s.rootOf c ∧ t.rootOf d = t.rootOf c ∨
      s.root d ≠ s.root c ∧ t.rootOf d = s.rootOf d := by
  have hroot : t.root d = s.root d := by
    rw [root_eq_getD, root_eq_getD, h.link?]
  by_cases hd : s.root d = s.root c
  · exact .inl ⟨hd, rootOf_congr hd, rootOf_congr (by rw [hroot, h.root, hd])⟩
  · refine .inr ⟨hd, ?_⟩
    simp only [rootOf, hroot, h.others _ hd]

theorem ChangesOnly.get?_eq (h : ChangesOnly c names s t) {d : Scope} {name : String}
    (hname : s.root d ≠ s.root c ∨ name ∉ names) : t.get? d name = s.get? d name := by
  obtain ⟨hd, hbefore, hafter⟩ | ⟨-, hkept⟩ := h.rootOf_cases d
  · rw [Store.get?_eq, Store.get?_eq, hbefore, hafter]
    rcases hname with hne | hnot
    · exact absurd hd hne
    · exact h.get? name (.inl hnot)
  · rw [Store.get?_eq, Store.get?_eq, hkept]

theorem ChangesOnly.swapped_eq (h : ChangesOnly c names s t) (hnames : replaceOrderVariable ∉ names) (d : Scope) :
    t.swapped d = s.swapped d := by
  obtain ⟨-, hbefore, hafter⟩ | ⟨-, hkept⟩ := h.rootOf_cases d
  · rw [Store.swapped, Store.swapped, hbefore, hafter]
    exact h.swapped hnames
  · rw [Store.swapped, Store.swapped, hkept]

def textOf (s : Store) (c : Scope) (name : String) : String :=
  ((s.get? c name).map Value.toText).getD ""

theorem WellFormed.get?_setText (h : s.WellFormed) (hc : s.holds c) {name : String}
    (hname : name ≠ replaceOrderVariable) (text : String) :
    (s.setText c name text).get? c name = if text = "" then none else some (.text text) := by
  rw [get?_eq, setText, h.rootOf_set hc, if_pos rfl, Root.get?_set _ hname, if_pos rfl]
  simp [Option.filter, Value.isEmpty]

end Store

namespace Library

open Store

/- Later pieces have other names. -/
theorem get?_bindPieces {s : Store} {c : Scope} (h : s.WellFormed) (hc : s.holds c) (start : String) (n : Nat)
    {pieces : List (List Char)} {k : Nat} {piece : List Char} (hk : pieces[k]? = some piece) :
    (bindPieces c start n pieces s).get? c (start ++ toString (n + k)) =
      if piece = [] then none else some (.text (String.ofList piece)) := by
  induction pieces generalizing s n k with
  | nil => simp at hk
  | cons first rest ih =>
    let t := s.setText c (start ++ toString n) (String.ofList first)
    have ht : t.WellFormed := h.set c _ _
    have htc : t.holds c := by
      rw [← hc]
      exact holds_set s c _ _ c
    cases k with
    | zero =>
      obtain rfl : first = piece := by simpa using hk
      let names := (List.range rest.length).map fun j => start ++ toString (n + 1 + j)
      have hlater : t.ChangesOnly c names (bindPieces c start (n + 1) rest t) := by
        refine bindPieces_changesOnly c start (n + 1) rest (fun j hj hlt => ?_) t
        exact List.mem_map.2 ⟨j - (n + 1), List.mem_range.2 (by omega), by rw [Nat.add_sub_cancel' hj]⟩
      have hnot : start ++ toString n ∉ names := by
        intro hmem
        obtain ⟨j, -, hj⟩ := List.mem_map.1 hmem
        have := numbered_inj hj
        omega
      have hfirst := (hlater.get? _ (.inl hnot)).trans
        (h.get?_setText hc (numbered_ne_replaceOrder start n) (String.ofList first))
      show (bindPieces c start (n + 1) rest t).get? c (start ++ toString n) = _
      rw [hfirst]
      simp
    | succ k =>
      rw [bindPieces, show n + (k + 1) = n + 1 + k by omega]
      exact ih ht htc (n + 1) (by simpa using hk)

/-- The pieces are what a scope sees under the numbered names, where an empty piece is no variable. -/
def Binds (s : Store) (d : Scope) (start : String) (pieces : List (List Char)) : Prop :=
  ∀ k piece, pieces[k]? = some piece → s.get? d (start ++ toString (k + 1)) =
    if piece = [] then none else some (.text (String.ofList piece))

namespace Binds

variable {s : Store} {d : Scope} {start : String} {pieces : List (List Char)}

theorem textOf (h : Binds s d start pieces) {k : Nat} {piece : List Char} (hk : pieces[k]? = some piece) :
    s.textOf d (start ++ toString (k + 1)) = String.ofList piece := by
  rw [Store.textOf, h k piece hk]
  by_cases hpiece : piece = []
  · rw [if_pos hpiece, hpiece]
    rfl
  · rw [if_neg hpiece]
    rfl

theorem get?_eq (h : Binds s d start pieces) {k : Nat} {piece : List Char} (hk : pieces[k]? = some piece) :
    let name := start ++ toString (k + 1)
    s.get? d name = if s.textOf d name = "" then none else some (.text (s.textOf d name)) := by
  intro name
  rw [h.textOf hk, h k piece hk]
  simp

theorem map_textOf (h : Binds s d start pieces) :
    (List.range pieces.length).map (fun k => s.textOf d (start ++ toString (k + 1))) =
      pieces.map String.ofList := by
  refine List.ext_getElem (by simp) fun k hk hk' => ?_
  rw [List.length_map] at hk'
  rw [List.getElem_map, List.getElem_map, List.getElem_range]
  exact h.textOf (List.getElem?_eq_getElem hk')

end Binds

/-- Arguments that ask `split` for the pieces of a text. -/
structure Splits (args : Arguments) (start content sep : String) : Prop where
  start : args.get? 0 "prefix" = some start
  content : args.get? 1 "content" = some content
  sep : (args.get? 2 "sep").getD "," = sep
  few : args.positional.length ≤ 3

namespace Splits

variable {args : Arguments} {start content sep : String}

theorem split_eq (h : Splits args start content sep) (hsep : sep ≠ "") (site : CallSite) (w : World) :
    let pieces := Text.split sep.toList content.toList
    split site args w =
      .ok (.text (toString pieces.length)) { w with store := bindPieces site.scope start 1 pieces w.store } := by
  intro pieces
  have hfew : ¬ 3 < args.positional.length := by
    have := h.few
    omega
  have hempty : sep.isEmpty = false := by simpa using hsep
  simp only [split, Arguments.atMost, Arguments.require, h.start, h.content, h.sep, if_neg hfew, hempty]
  rfl

theorem call_eq (h : Splits args start content sep) (hsep : sep ≠ "") (c : Scope) (w : World) :
    let pieces := Text.split sep.toList content.toList
    standard.call "split" { scope := c } args w =
      .ok (toString pieces.length) { w with store := bindPieces c start 1 pieces w.store } := by
  intro pieces
  show dispatch "split" plain { scope := c } (split { scope := c } args) w = _
  exact Act.bind_of_ok (Act.attributed_eq_ok.2 (h.split_eq hsep { scope := c } w))

end Splits

theorem intercalate_of_pieces {content sep : String} {pieces : List (List Char)}
    (h : Text.Pieces sep.toList content.toList pieces) : sep.intercalate (pieces.map String.ofList) = content := by
  rw [← String.toList_inj, String.toList_intercalate, List.map_map]
  have hid : String.toList ∘ String.ofList = id := funext fun cs => String.toList_ofList
  rw [hid, List.map_id, h.intercalate_eq]

/-- `split` gives the number of pieces, one more than there are occurrences of the separator. From every scope of the
Root the pieces are read under their numbers; joined they are the content again, none of them holds the separator, and
an empty one has no variable. No other variable changes, nor does the order of `rep`. -/
theorem split_loses_nothing (w : World) (c : Scope) (args : Arguments) (start content sep : String)
    (hs : w.store.Reachable) (hc : w.store.holds c) (hargs : Splits args start content sep) (hsep : sep ≠ "") :
    ∃ n s, (∀ m, Text.Occurrences sep.toList content.toList m ↔ m = n) ∧
      standard.call "split" { scope := c } args w = .ok (toString (n + 1)) { w with store := s } ∧
      (∀ d, w.store.root d = w.store.root c →
        sep.intercalate ((List.range (n + 1)).map fun k => s.textOf d (start ++ toString (k + 1))) = content ∧
        ∀ k ≤ n, let name := start ++ toString (k + 1)
          ¬ sep.toList <:+: (s.textOf d name).toList ∧
          s.get? d name = if s.textOf d name = "" then none else some (.text (s.textOf d name))) ∧
      (∀ d name, w.store.root d ≠ w.store.root c ∨ (∀ k ≤ n, name ≠ start ++ toString (k + 1)) →
        s.get? d name = w.store.get? d name) ∧
      ∀ d, s.swapped d = w.store.swapped d := by
  have hseplist : sep.toList ≠ [] := by simpa using hsep
  let pieces := Text.split sep.toList content.toList
  have hpieces : Text.Pieces sep.toList content.toList pieces := Text.pieces_split hseplist _
  obtain ⟨n, hn, hlength⟩ := hpieces.occurrences
  let s := bindPieces c start 1 pieces w.store
  let names := (List.range (n + 1)).map fun k => start ++ toString (k + 1)
  have hchange : w.store.ChangesOnly c names s := by
    refine bindPieces_changesOnly c start 1 pieces (fun k hk hlt => ?_) w.store
    exact List.mem_map.2 ⟨k - 1, List.mem_range.2 (by omega), by rw [Nat.sub_add_cancel hk]⟩
  have hbinds : Binds s c start pieces := by
    intro k piece hk
    rw [Nat.add_comm]
    exact get?_bindPieces hs.wellFormed hc start 1 hk
  have hnumber : ∀ m, Text.Occurrences sep.toList content.toList m ↔ m = n :=
    fun m => ⟨fun hm => hm.unique hn, fun hm => hm ▸ hn⟩
  refine ⟨n, s, hnumber, hlength ▸ hargs.call_eq hsep c w, fun d hd => ?_, fun d name hname => ?_, fun d => ?_⟩
  · -- Every scope of the Root sees what the calling one sees.
    obtain ⟨-, -, hsame⟩ | ⟨hne, -⟩ := hchange.rootOf_cases d
    · have hbinds : Binds s d start pieces := by
        intro k piece hk
        rw [Store.get?_eq, hsame]
        exact hbinds k piece hk
      refine ⟨?_, fun k hk => ?_⟩
      · rw [← hlength, hbinds.map_textOf, intercalate_of_pieces hpieces]
      · have hpiece := List.getElem?_eq_getElem (l := pieces) (i := k) (by omega)
        refine ⟨?_, hbinds.get?_eq hpiece⟩
        rw [hbinds.textOf hpiece, String.toList_ofList]
        exact hpieces.not_infix hseplist _ (List.getElem_mem _)
    · exact absurd hd hne
  · refine hchange.get?_eq (hname.imp_right fun hother hmem => ?_)
    obtain ⟨k, hk, heq⟩ := List.mem_map.1 hmem
    exact hother k (by simpa [Nat.lt_succ_iff] using hk) heq.symm
  · refine hchange.swapped_eq (fun hmem => ?_) d
    obtain ⟨k, -, hk⟩ := List.mem_map.1 hmem
    exact numbered_ne_replaceOrder start (k + 1) hk

/-- Separators that overlap, a start that ends in a digit, and a variable in the place of an empty piece. -/
theorem split_loses_nothing_overlapping :
    let moment : Moment := { day := 0, second := 0, nano := 0 }
    let s : Store := ((Store.empty.addRoot {}).2.addSub ⟨0⟩).2.setText ⟨0⟩ "p12" "old"
    let w : World := { store := s, supply := { draw := fun _ => 0, reading := fun _ => moment } }
    let args : Arguments := { positional := ["p1", "aaaaab", "aa"] }
    s.Reachable ∧ s.holds ⟨1⟩ ∧ Splits args "p1" "aaaaab" "aa" ∧
      ∃ v : World, standard.call "split" { scope := ⟨1⟩ } args w = .ok "3" v ∧
        "aa".intercalate [v.store.textOf ⟨0⟩ "p11", v.store.textOf ⟨0⟩ "p12", v.store.textOf ⟨0⟩ "p13"] = "aaaaab" ∧
        v.store.get? ⟨0⟩ "p12" = none ∧ v.store.get? ⟨0⟩ "p13" = some (.text "ab") := by
  intro moment s w args
  have hs : s.Reachable :=
    .tail (.tail (.tail .refl (.addRoot _ {})) (.addSub _ ⟨0⟩ (by decide))) (.set _ ⟨0⟩ (by decide) "p12" _)
  have hargs : Splits args "p1" "aaaaab" "aa" := ⟨rfl, rfl, rfl, by decide⟩
  obtain ⟨n, t, -, hcall, hread, -, -⟩ :=
    split_loses_nothing w ⟨1⟩ args "p1" "aaaaab" "aa" hs (by decide) hargs (by decide)
  have hend := hcall.symm.trans (hargs.call_eq (by decide) ⟨1⟩ w)
  simp only [EStateM.Result.ok.injEq, World.mk.injEq, and_true] at hend
  obtain ⟨hcount, hstore⟩ := hend
  have hthree : (Text.split "aa".toList "aaaaab".toList).length = 3 := by decide
  obtain rfl : n = 2 := by
    rw [hthree] at hcount
    have := numbered_inj (congrArg ("" ++ ·) hcount)
    omega
  refine ⟨hs, by decide, hargs, _, hcall, (hread ⟨0⟩ rfl).1, ?_, ?_⟩
  · rw [hstore]
    decide +kernel
  · rw [hstore]
    decide +kernel

end Library

end Stencil
