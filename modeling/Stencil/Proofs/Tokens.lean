import Stencil.Proofs.Integers
import Stencil.Text.Search

/-!
# Tokens between commas

Splitting at one character cuts at each place where it stands. Texts that do not hold it come back as the tokens,
and there is always one token more than there are cuts.
-/

namespace Stencil.Text

variable {sep : Char}

theorem splitFrom_cons (sep c : Char) (piece rest : List Char) :
    splitFrom [sep] piece 0 (c :: rest) =
      if c = sep then piece.reverse :: splitFrom [sep] [] 0 rest else splitFrom [sep] (c :: piece) 0 rest := by
  have hstarts : [sep].isPrefixOf (c :: rest) = true ↔ c = sep := by
    rw [List.isPrefixOf_cons_cons, List.isPrefixOf_nil_left, Bool.and_true, beq_iff_eq]
    exact eq_comm
  rw [splitFrom]
  by_cases h : c = sep
  · rw [if_pos (hstarts.2 h), if_pos h]
    rfl
  · rw [if_neg (mt hstarts.1 h), if_neg h]

theorem splitFrom_of_not_mem {cs : List Char} (h : sep ∉ cs) (piece : List Char) :
    splitFrom [sep] piece 0 cs = [piece.reverse ++ cs] := by
  induction cs generalizing piece with
  | nil => rw [splitFrom, List.append_nil]
  | cons c rest ih =>
    obtain ⟨hc, hrest⟩ : sep ≠ c ∧ sep ∉ rest := by simpa using h
    rw [splitFrom_cons, if_neg (Ne.symm hc), ih hrest]
    simp

theorem splitFrom_append {cs : List Char} (h : sep ∉ cs) (piece rest : List Char) :
    splitFrom [sep] piece 0 (cs ++ sep :: rest) = (piece.reverse ++ cs) :: splitFrom [sep] [] 0 rest := by
  induction cs generalizing piece with
  | nil => rw [List.nil_append, splitFrom_cons, if_pos rfl, List.append_nil]
  | cons c cs ih =>
    obtain ⟨hc, hcs⟩ : sep ≠ c ∧ sep ∉ cs := by simpa using h
    rw [List.cons_append, splitFrom_cons, if_neg (Ne.symm hc), ih hcs]
    simp

theorem length_splitFrom (sep : Char) (piece cs : List Char) :
    (splitFrom [sep] piece 0 cs).length = cs.count sep + 1 := by
  induction cs generalizing piece with
  | nil => rfl
  | cons c rest ih =>
    rw [splitFrom_cons, List.count_cons]
    by_cases h : c = sep
    · rw [if_pos h, List.length_cons, ih, if_pos (by simp [h])]
    · rw [if_neg h, ih, if_neg (by simp [h])]

theorem splitAt_of_not_mem {cs : List Char} (h : sep ∉ cs) : splitAt sep cs = [cs] :=
  splitFrom_of_not_mem h []

theorem splitAt_append {cs : List Char} (h : sep ∉ cs) (rest : List Char) :
    splitAt sep (cs ++ sep :: rest) = cs :: splitAt sep rest :=
  splitFrom_append h [] rest

theorem length_splitAt (sep : Char) (cs : List Char) : (splitAt sep cs).length = cs.count sep + 1 :=
  length_splitFrom sep [] cs

theorem splitAt_three {a b c : String} (ha : ',' ∉ a.toList) (hb : ',' ∉ b.toList) (hc : ',' ∉ c.toList) :
    splitAt ',' (a ++ "," ++ b ++ "," ++ c).toList = [a.toList, b.toList, c.toList] := by
  have hlist : (a ++ "," ++ b ++ "," ++ c).toList = a.toList ++ ',' :: (b.toList ++ ',' :: c.toList) := by
    simp
  rw [hlist, splitAt_append ha, splitAt_append hb, splitAt_of_not_mem hc]

/-! ### Blank tokens -/

theorem trim_of_blank {cs : List Char} (h : isBlankText cs = true) : trim cs = [] := by
  have hdrop : cs.dropWhile Unicode.isBlank = [] := by
    have happend := @List.dropWhile_append_of_pos _ Unicode.isBlank cs [] (List.all_eq_true.1 h)
    simpa using happend
  rw [trim, hdrop]
  rfl

theorem not_blank_of_integer? {text : String} {n : Int} (h : Number.integer? text = .ok n) :
    isBlankText text.toList = false := by
  apply Bool.eq_false_iff.2
  intro hblank
  rw [Number.integer?, trim_of_blank hblank] at h
  cases h

theorem comma_not_mem_toString (n : Int) : ',' ∉ (toString n).toList := by
  intro h
  rcases Number.mem_toString h with hminus | hdigit
  · exact absurd hminus (by decide)
  · exact absurd hdigit (by decide)

end Stencil.Text
