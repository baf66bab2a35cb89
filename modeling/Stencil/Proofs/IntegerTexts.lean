import Stencil.Proofs.TextTypes

/-!
# Texts that write integers

A text writes an integer by a sign or none and digits, with blanks around them. Neither a sign nor a digit is a blank,
so trimming leaves just these, and they are read whenever their number fits.
-/

namespace Stencil

namespace Text

open Unicode (isBlank)

theorem dropWhile_blank_append {before core rest : List Char} (hbefore : isBlankText before) (hne : core ≠ [])
    (hcore : ∀ c ∈ core, isBlank c = false) : (before ++ (core ++ rest)).dropWhile isBlank = core ++ rest := by
  rw [List.dropWhile_append_of_pos (List.all_eq_true.1 hbefore)]
  cases core with
  | nil => exact absurd rfl hne
  | cons c core => exact List.dropWhile_cons_of_neg (by simp [hcore c List.mem_cons_self])

theorem trim_between_blanks {before core after : List Char} (hbefore : isBlankText before) (hafter : isBlankText after)
    (hne : core ≠ []) (hcore : ∀ c ∈ core, isBlank c = false) : trim (before ++ core ++ after) = core := by
  have hback : isBlankText after.reverse := by simpa [isBlankText] using hafter
  have hreverse : ∀ c ∈ core.reverse, isBlank c = false := fun c hc => hcore c (List.mem_reverse.1 hc)
  have hend := @dropWhile_blank_append _ _ [] hback (by simpa using hne) hreverse
  rw [List.append_nil] at hend
  rw [trim, List.append_assoc, dropWhile_blank_append hbefore hne hcore, List.reverse_append, hend, List.reverse_reverse]

end Text

namespace Number

/-- Blanks, a sign or none, the digits of the integer, and blanks again. -/
def Writes (text : String) (n : Int) : Prop :=
  ∃ before core after, text.toList = before ++ core ++ after ∧ Text.isBlankText before ∧ Denotes core n ∧
    Text.isBlankText after

theorem writes_of_integer? {text : String} {n : Int} (h : integer? text = .ok n) : Writes text n := by
  obtain ⟨before, after, htext, hbefore, hafter⟩ := Text.exists_trim text.toList
  exact ⟨before, Text.trim text.toList, after, htext, hbefore, denotes_of_readInteger h, hafter⟩

theorem integer?_of_writes {text : String} {n : Int} (h : Writes text n) (hn : signed64.holds n) :
    integer? text = .ok n := by
  obtain ⟨before, core, after, htext, hbefore, hcore, hafter⟩ := h
  have htrim : Text.trim text.toList = core := by
    rw [htext]
    exact Text.trim_between_blanks hbefore hafter hcore.ne_nil fun c hc => hcore.not_blank hc
  rw [integer?, htrim]
  exact readInteger_of_denotes (by decide) (by decide) hcore hn

theorem integer?_eq_ok_iff {text : String} {n : Int} : integer? text = .ok n ↔ Writes text n ∧ signed64.holds n :=
  ⟨fun h => ⟨writes_of_integer? h, holds_of_integer? h⟩, fun h => integer?_of_writes h.1 h.2⟩

theorem writes_toString {before after : String} (hbefore : Text.isBlankText before.toList)
    (hafter : Text.isBlankText after.toList) (n : Int) : Writes (before ++ toString n ++ after) n := by
  refine ⟨before.toList, (toString n).toList, after.toList, ?_, hbefore, denotes_toString n, hafter⟩
  rw [String.toList_append, String.toList_append]

end Number

open Number (Writes signed64)

theorem intArg_eq_ok_iff {text message : String} {kind : Fault.Kind} {n : Int} :
    intArg text kind message = .ok n ↔ Writes text n ∧ signed64.holds n := by
  rw [← Number.integer?_eq_ok_iff]
  exact ⟨integer?_of_intArg, Span.intArg_of_integer?⟩

theorem intArg_refused {text message : String} {kind : Fault.Kind} (h : ∀ n, intArg text kind message ≠ .ok n) :
    ∃ cause, intArg text kind message = .error { kind, message, cause := some (.integer cause) } := by
  unfold intArg at h ⊢
  cases hn : Number.integer? text with
  | ok n =>
    rw [hn] at h
    exact absurd rfl (h n)
  | error cause => exact ⟨cause, rfl⟩

/-- An argument is an integer exactly when its text writes one of 64 bits, and otherwise a fault of the kind and message
given. So decimal texts are read back, with any blanks around them, and a default changes nothing for a text that is not
blank. -/
theorem intArg_reads_written_integers (kind : Fault.Kind) (message : String) :
    (∀ text n, intArg text kind message = .ok n ↔
      Writes text n ∧ -9223372036854775808 ≤ n ∧ n ≤ 9223372036854775807) ∧
    (∀ text, (∀ n, Writes text n → ¬ (-9223372036854775808 ≤ n ∧ n ≤ 9223372036854775807)) →
      ∃ cause, intArg text kind message = .error { kind, message, cause := some (.integer cause) }) ∧
    (∀ n before after, -9223372036854775808 ≤ n → n ≤ 9223372036854775807 → Text.isBlankText before.toList →
      Text.isBlankText after.toList → intArg (before ++ toString n ++ after) kind message = .ok n) ∧
    ∀ text default, ¬ Text.isBlankText text.toList →
      intArgOr text default kind message = intArg text kind message := by
  have hexact {text : String} {n : Int} : intArg text kind message = .ok n ↔
      Writes text n ∧ -9223372036854775808 ≤ n ∧ n ≤ 9223372036854775807 := by
    rw [intArg_eq_ok_iff, Number.holds_signed64_iff]
  refine ⟨fun text n => hexact, fun text hnone => ?_, fun n before after hleast hgreatest hbefore hafter => ?_,
    fun text default hblank => ?_⟩
  · apply intArg_refused
    intro n hn
    obtain ⟨hwrites, hrange⟩ := hexact.1 hn
    exact hnone n hwrites hrange
  · exact hexact.2 ⟨Number.writes_toString hbefore hafter n, hleast, hgreatest⟩
  · rw [intArgOr, if_neg hblank]

/-- The least integer after a wide blank and with leading zeros, the number after the greatest, the greatest between
blanks, and a text with a point. -/
theorem intArg_reads_written_integers_at_limits :
    let read (text : String) := intArg text .invalidOffset "invalid offset"
    (Writes "\u2003-0009223372036854775808\n" (-9223372036854775808) ∧
      read "\u2003-0009223372036854775808\n" = .ok (-9223372036854775808)) ∧
    (Writes "+9223372036854775808" 9223372036854775808 ∧ ∃ cause, read "+9223372036854775808" =
      .error { kind := .invalidOffset, message := "invalid offset", cause := some (.integer cause) }) ∧
    read ("\t" ++ toString (9223372036854775807 : Int) ++ "\u3000") = .ok 9223372036854775807 ∧
    intArgOr "4.5" 7 .invalidOffset "invalid offset" = read "4.5" := by
  intro read
  obtain ⟨hexact, hrefused, hdecimal, hdefault⟩ := intArg_reads_written_integers .invalidOffset "invalid offset"
  have hleast : Writes "\u2003-0009223372036854775808\n" (-9223372036854775808) :=
    ⟨['\u2003'], "-0009223372036854775808".toList, ['\n'], by decide, by decide,
      ⟨['-'], "0009223372036854775808".toList, ⟨by decide, by decide, by decide, List.all_eq_true.1 (by decide)⟩,
        by decide⟩, by decide⟩
  have hpast : Writes "+9223372036854775808" 9223372036854775808 :=
    ⟨[], "+9223372036854775808".toList, [], by decide, by decide,
      ⟨['+'], "9223372036854775808".toList, ⟨by decide, by decide, by decide, List.all_eq_true.1 (by decide)⟩,
        by decide⟩, by decide⟩
  have hnone : ∀ n, Writes "+9223372036854775808" n → ¬ (-9223372036854775808 ≤ n ∧ n ≤ 9223372036854775807) := by
    intro n hwrites hrange
    cases (hexact _ n).2 ⟨hwrites, hrange⟩
  exact ⟨⟨hleast, (hexact _ _).2 ⟨hleast, by decide, by decide⟩⟩, ⟨hpast, hrefused _ hnone⟩,
    hdecimal _ "\t" "\u3000" (by decide) (by decide) (by decide) (by decide), hdefault "4.5" 7 (by decide)⟩

end Stencil
