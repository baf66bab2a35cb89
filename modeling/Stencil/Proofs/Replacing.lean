import Stencil.Proofs.Pieces

/-!
# Replacing by joining pieces

Replacing and splitting scan a text on their own and pass over the same occurrences: a replaced text is what lies
between the occurrences, joined with the replacement. From this follows when replacing changes nothing: the pieces
fix the text that joins them as soon as there are two.
-/

namespace Stencil

namespace Text

variable {sep : List Char}

theorem splitFrom_ne_nil (sep piece : List Char) (skip : Nat) (cs : List Char) : splitFrom sep piece skip cs ≠ [] := by
  fun_induction splitFrom sep piece skip cs with
  | case1 piece skip => simp
  | case2 piece skip c rest ih => exact ih
  | case3 piece c rest hstarts ih => simp
  | case4 piece c rest hstarts ih => exact ih

/- Both scans pass over the same characters; the piece under way is what the other scan has copied. -/
theorem intercalate_splitFrom (sep replacement piece : List Char) (skip : Nat) (cs : List Char) :
    replacement.intercalate (splitFrom sep piece skip cs) =
      piece.reverse ++ replaceFrom sep replacement skip cs := by
  fun_induction splitFrom sep piece skip cs with
  | case1 piece skip => simp [replaceFrom]
  | case2 piece skip c rest ih => rw [ih, replaceFrom]
  | case3 piece c rest hstarts ih =>
    rw [List.intercalate_cons_of_ne_nil (splitFrom_ne_nil _ _ _ _), ih, replaceFrom, if_pos hstarts]
    simp
  | case4 piece c rest hstarts ih =>
    rw [ih, replaceFrom, if_neg hstarts]
    simp

theorem replace_eq_intercalate (hsep : sep ≠ []) (replacement cs : List Char) :
    replace sep replacement cs = replacement.intercalate (split sep cs) := by
  have hempty : sep.isEmpty = false := by simpa using hsep
  rw [replace, hempty, split, intercalate_splitFrom]
  rfl

/-! ### When the text stays -/

/- Joined with one text or another, the same pieces differ in length by what stands between them. -/
theorem length_intercalate (r s piece : List Char) (pieces : List (List Char)) :
    (r.intercalate (piece :: pieces)).length + pieces.length * s.length =
      (s.intercalate (piece :: pieces)).length + pieces.length * r.length := by
  induction pieces generalizing piece with
  | nil => simp
  | cons next pieces ih =>
    have hnext := ih next
    simp only [List.intercalate_cons_cons, List.length_append, List.length_cons, Nat.succ_mul]
    omega

/- With a second piece the total length fixes the length of what joins them, and then the text behind the first
piece fixes the rest. -/
theorem intercalate_inj {piece : List Char} {pieces : List (List Char)} (hpieces : pieces ≠ []) {r s : List Char}
    (h : r.intercalate (piece :: pieces) = s.intercalate (piece :: pieces)) : r = s := by
  have hlength : r.length = s.length := by
    have htotal := length_intercalate r s piece pieces
    rw [h] at htotal
    have hproduct : pieces.length * r.length = pieces.length * s.length := by omega
    exact Nat.eq_of_mul_eq_mul_left (List.length_pos_iff.2 hpieces) hproduct
  rw [List.intercalate_cons_of_ne_nil hpieces, List.intercalate_cons_of_ne_nil hpieces, List.append_assoc,
    List.append_assoc] at h
  exact (List.append_inj (List.append_cancel_left h) hlength).1

theorem Pieces.intercalate_eq_iff {cs : List Char} {pieces : List (List Char)} (h : Pieces sep cs pieces)
    (replacement : List Char) :
    replacement.intercalate pieces = cs ↔ ¬ sep <:+: cs ∨ replacement = sep := by
  have hjoin := h.intercalate_eq
  cases h with
  | whole hnone => simp [hnone]
  | cut hcut rest =>
    have hoccurs : sep <:+: cs := ⟨_, _, hcut.cut.symm⟩
    constructor
    · intro hsame
      exact .inr (intercalate_inj rest.ne_nil (hsame.trans hjoin.symm))
    · rintro (hnone | rfl)
      · exact absurd hoccurs hnone
      · exact hjoin

end Text

namespace Library

open Store

/-! ### The builtin -/

theorem replaced_eq_intercalate {needle : String} (h : needle ≠ "") (replacement text : String) :
    Text.replaced needle replacement text =
      replacement.intercalate ((Text.split needle.toList text.toList).map String.ofList) := by
  have hid : String.toList ∘ String.ofList = id := funext fun cs => String.toList_ofList
  rw [Text.replaced, Text.replace_eq_intercalate (by simpa using h), ← String.toList_inj, String.toList_ofList,
    String.toList_intercalate, List.map_map, hid, List.map_id]

theorem replaced_empty (replacement text : String) :
    Text.replaced "" replacement text =
      String.join (text.toList.map fun c => replacement ++ String.singleton c) ++ replacement := by
  rw [← String.toList_inj, Text.replaced, String.toList_ofList, String.toList_append, String.toList_join]
  simp [Text.replace, List.flatMap_map]

theorem replaced_eq_self_iff {needle : String} (h : needle ≠ "") (replacement text : String) :
    Text.replaced needle replacement text = text ↔ ¬ needle.toList <:+: text.toList ∨ replacement = needle := by
  have hsep : needle.toList ≠ [] := by simpa using h
  have hpieces := Text.pieces_split hsep text.toList
  rw [Text.replaced, Text.replace_eq_intercalate hsep, ← String.toList_inj, String.toList_ofList,
    hpieces.intercalate_eq_iff, String.toList_inj]

/- The flag decides which of the last two arguments is searched. -/
theorem call_rep {args : Arguments} {needle first second : String} (h : args.positional = [needle, first, second])
    (c : Scope) (w : World) :
    standard.call "rep" { scope := c } args w =
      .ok (if w.store.swapped c then Text.replaced needle first second else Text.replaced needle second first) w := by
  have hrun : rep { scope := c } args w =
      .ok (.text (if w.store.swapped c then Text.replaced needle first second
        else Text.replaced needle second first)) w := by
    simp only [rep, h, Action.bind_store]
    cases w.store.swapped c <;> rfl
  show dispatch "rep" plain { scope := c } (rep { scope := c } args) w = _
  exact Act.bind_of_ok (Act.attributed_eq_ok.2 hrun)

/- What `split` binds is read back as the pieces. -/
theorem call_split_reads_pieces {w : World} {c : Scope} {args : Arguments} {start content sep : String}
    (hs : w.store.Reachable) (hc : w.store.holds c) (hargs : Splits args start content sep) (hsep : sep ≠ "") :
    ∃ s, let pieces := Text.split sep.toList content.toList
      standard.call "split" { scope := c } args w = .ok (toString pieces.length) { w with store := s } ∧
      (List.range pieces.length).map (fun k => s.textOf c (start ++ toString (k + 1))) = pieces.map String.ofList := by
  let pieces := Text.split sep.toList content.toList
  have hbinds : Binds (bindPieces c start 1 pieces w.store) c start pieces := by
    intro k piece hk
    rw [Nat.add_comm]
    exact get?_bindPieces hs.wellFormed hc start 1 hk
  exact ⟨_, hargs.call_eq hsep c w, hbinds.map_textOf⟩

/-- `rep` gives one text, whatever the store: with the flag off for the needle, the haystack and the replacement in
this order, with it on for the last two exchanged. For a needle that is not empty the text is what `split` binds for
the haystack, joined with the replacement; it is the haystack exactly when the needle does not occur or replaces
itself. The empty needle puts the replacement before every character and at the end. -/
theorem rep_joins_split_pieces (needle haystack replacement : String) :
    ∃ t, (∀ w c args, w.store.swapped c = false → args.positional = [needle, haystack, replacement] →
        standard.call "rep" { scope := c } args w = .ok t w) ∧
      (∀ w c args, w.store.swapped c = true → args.positional = [needle, replacement, haystack] →
        standard.call "rep" { scope := c } args w = .ok t w) ∧
      (needle ≠ "" → ∀ w c args start, w.store.Reachable → w.store.holds c → Splits args start haystack needle →
        ∃ n s, standard.call "split" { scope := c } args w = .ok (toString n) { w with store := s } ∧
          t = replacement.intercalate ((List.range n).map fun k => s.textOf c (start ++ toString (k + 1)))) ∧
      (needle ≠ "" → (t = haystack ↔ ¬ needle.toList <:+: haystack.toList ∨ replacement = needle)) ∧
      (needle = "" →
        t = String.join (haystack.toList.map fun c => replacement ++ String.singleton c) ++ replacement) := by
  refine ⟨Text.replaced needle replacement haystack, ?_, ?_, ?_, ?_, ?_⟩
  · intro w c args hswapped hargs
    rw [call_rep hargs, hswapped]
    rfl
  · intro w c args hswapped hargs
    rw [call_rep hargs, hswapped]
    rfl
  · intro hneedle w c args start hs hc hargs
    obtain ⟨s, hcall, hpieces⟩ := call_split_reads_pieces hs hc hargs hneedle
    refine ⟨_, s, hcall, ?_⟩
    rw [hpieces, replaced_eq_intercalate hneedle]
  · intro hneedle
    exact replaced_eq_self_iff hneedle replacement haystack
  · rintro rfl
    exact replaced_empty replacement haystack

/-- A needle that overlaps itself and a replacement inside it, with the flag off and on. -/
theorem rep_joins_split_pieces_overlapping :
    let moment : Moment := { day := 0, second := 0, nano := 0 }
    let s := (Store.empty.addRoot {}).2
    let off : World := { store := s, supply := { draw := fun _ => 0, reading := fun _ => moment } }
    let on : World := { off with store := s.setText ⟨0⟩ "newrep" "1" }
    s.Reachable ∧ s.holds ⟨0⟩ ∧ off.store.swapped ⟨0⟩ = false ∧ on.store.swapped ⟨0⟩ = true ∧
      standard.call "rep" { scope := ⟨0⟩ } { positional := ["aa", "aaaaab", "a"] } off = .ok "aaab" off ∧
      standard.call "rep" { scope := ⟨0⟩ } { positional := ["aa", "a", "aaaaab"] } on = .ok "aaab" on ∧
      ∃ n v, standard.call "split" { scope := ⟨0⟩ } { positional := ["p", "aaaaab", "aa"] } off =
          .ok (toString n) { off with store := v } ∧
        "aaab" = "a".intercalate ((List.range n).map fun k => v.textOf ⟨0⟩ ("p" ++ toString (k + 1))) := by
  intro moment s off on
  have hs : s.Reachable := .tail .refl (.addRoot _ {})
  have hoff : off.store.swapped ⟨0⟩ = false := by decide +kernel
  have hon : on.store.swapped ⟨0⟩ = true := by decide +kernel
  have hargs : Splits { positional := ["p", "aaaaab", "aa"] } "p" "aaaaab" "aa" := ⟨rfl, rfl, rfl, by decide⟩
  obtain ⟨t, hplain, hswapped, hsplit, -, -⟩ := rep_joins_split_pieces "aa" "aaaaab" "a"
  have hcall := hplain off ⟨0⟩ { positional := ["aa", "aaaaab", "a"] } hoff rfl
  have htext : t = "aaab" := by
    have hrep := hcall.symm.trans (call_rep rfl ⟨0⟩ off)
    rw [hoff] at hrep
    have hreplaced : t = Text.replaced "aa" "a" "aaaaab" := (EStateM.Result.ok.inj hrep).1
    rw [hreplaced]
    decide +kernel
  subst htext
  exact ⟨hs, by decide, hoff, hon, hcall, hswapped on ⟨0⟩ _ hon rfl,
    hsplit (by decide) off ⟨0⟩ _ "p" hs (by decide) hargs⟩

end Library

end Stencil
