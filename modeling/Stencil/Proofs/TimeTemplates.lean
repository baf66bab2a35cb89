import Mathlib.Data.List.Forall2
import Stencil.Proofs.MomentRange
import Stencil.Time.Template

/-!
# Time templates and their printed forms

A template is a row of characters and specifications, and reading finds that row. Every item but one has a text at
every local time, so that a template that is read is printed unless that item stands in it.
-/

namespace Stencil

namespace TimeItem

/-! ### Specifications -/

/-- Specifications of more than a letter, without a padding mark. -/
def longSpecs : List (List Char × TimeItem) :=
  [([':', 'z'], .offset (.minutes true)), ([':', ':', 'z'], .offset .seconds), ([':', ':', ':', 'z'], .offset .hours),
   (['.', 'f'], .fraction), (['.', '3', 'f'], .fractionDigits 3 true), (['.', '6', 'f'], .fractionDigits 6 true),
   (['.', '9', 'f'], .fractionDigits 9 true), (['3', 'f'], .fractionDigits 3 false),
   (['6', 'f'], .fractionDigits 6 false), (['9', 'f'], .fractionDigits 9 false), (['#', 'z'], .readOnly)]

/-- What may stand after a percent sign, with its items. -/
inductive Spec : List Char → List TimeItem → Prop
  | letter {c : Char} {items : List TimeItem} (h : ofLetter? c = some items) : Spec [c] items
  | marked {mark c : Char} {pad own : Pad} {field : TimeField} (hmark : padMark? mark = some pad)
    (h : ofLetter? c = some [.number field own]) : Spec [mark, c] [.number field pad]
  | long {spec : List Char} {item : TimeItem} (h : (spec, item) ∈ longSpecs) : Spec spec [item]

theorem spec_readOnly : Spec ['#', 'z'] [.readOnly] :=
  .long (by simp [longSpecs])

theorem ofSpec?_letter {c : Char} {items : List TimeItem} (h : ofLetter? c = some items) (rest : List Char) :
    ofSpec? (c :: rest) = some (items, rest) := by
  unfold ofSpec?
  split
  all_goals
    rename_i heq
    cases heq
  -- the characters that long specifications begin with are no letters
  any_goals cases h
  rw [h]
  rfl

theorem padMark?_letter {c : Char} {items : List TimeItem} (h : ofLetter? c = some items) : padMark? c = none := by
  cases hmark : padMark? c with
  | none => rfl
  | some pad =>
    unfold padMark? at hmark
    split at hmark <;> cases hmark <;> cases h

theorem readSpec?_letter {c : Char} {items : List TimeItem} (h : ofLetter? c = some items) (rest : List Char) :
    readSpec? (c :: rest) = some (items, rest) := by
  unfold readSpec?
  split
  · rename_i heq
    cases heq
  · rename_i heq
    cases heq
    cases h
  · rename_i heq
    cases heq
    rw [padMark?_letter h]
    exact ofSpec?_letter h rest

theorem readSpec?_marked {mark : Char} {pad : Pad} (h : padMark? mark = some pad) (cs : List Char) :
    readSpec? (mark :: cs) = (do
      let (items, after) ← ofSpec? cs
      return (← repad? pad items, after)) := by
  unfold padMark? at h
  split at h <;> cases h <;> rfl

theorem readSpec?_long {spec : List Char} {item : TimeItem} (h : (spec, item) ∈ longSpecs) (rest : List Char) :
    readSpec? (spec ++ rest) = some ([item], rest) := by
  have hall : ∀ p ∈ longSpecs, readSpec? (p.1 ++ rest) = some ([p.2], rest) := by
    simp only [longSpecs, List.forall_mem_cons, List.not_mem_nil, false_implies, implies_true, and_true]
    and_intros
    all_goals rfl
  exact hall (spec, item) h

theorem readSpec?_append {spec : List Char} {items : List TimeItem} (h : Spec spec items) (rest : List Char) :
    readSpec? (spec ++ rest) = some (items, rest) := by
  cases h with
  | letter h => exact readSpec?_letter h rest
  | marked hmark h =>
    rw [List.cons_append, readSpec?_marked hmark, List.cons_append, ofSpec?_letter h]
    rfl
  | long h => exact readSpec?_long h rest

/- A long specification is found in the table, whatever follows it. -/
theorem of_ofSpec? {cs rest : List Char} {items : List TimeItem} (h : ofSpec? cs = some (items, rest)) :
    (∃ c, cs = c :: rest ∧ ofLetter? c = some items) ∨
      ∃ spec item, (spec, item) ∈ longSpecs ∧ cs = spec ++ rest ∧ items = [item] := by
  unfold ofSpec? at h
  split at h
  any_goals
    obtain ⟨rfl, rfl⟩ := Prod.mk.inj (Option.some.inj h)
    exact .inr (by simp [longSpecs])
  · obtain ⟨_, hletter, heq⟩ := Option.map_eq_some_iff.1 h
    obtain ⟨rfl, rfl⟩ := Prod.mk.inj heq
    exact .inl ⟨_, rfl, hletter⟩
  · cases h

theorem of_repad? {pad : Pad} {items items' : List TimeItem} (h : repad? pad items = some items') :
    ∃ field own, items = [.number field own] ∧ items' = [.number field pad] := by
  unfold repad? at h
  split at h
  · exact ⟨_, _, rfl, (Option.some.inj h).symm⟩
  · cases h

theorem number_not_mem_longSpecs {spec : List Char} {field : TimeField} {pad : Pad} :
    (spec, .number field pad) ∉ longSpecs := by
  simp [longSpecs]

theorem spec_of_readSpec? {cs rest : List Char} {items : List TimeItem} (h : readSpec? cs = some (items, rest)) :
    ∃ spec, Spec spec items ∧ cs = spec ++ rest := by
  unfold readSpec? at h
  split at h
  · cases h
  · obtain ⟨rfl, rfl⟩ := Prod.mk.inj (Option.some.inj h)
    exact ⟨['#', 'z'], spec_readOnly, rfl⟩
  · split at h
    · rename_i mark _ _ _ pad hmark
      obtain ⟨⟨found, after⟩, hfound, h⟩ := Option.bind_eq_some_iff.1 h
      obtain ⟨repadded, hrepad, heq⟩ := Option.bind_eq_some_iff.1 h
      obtain ⟨rfl, rfl⟩ := Prod.mk.inj (Option.some.inj heq)
      obtain ⟨field, own, rfl, rfl⟩ := of_repad? hrepad
      rcases of_ofSpec? hfound with ⟨c, rfl, hletter⟩ | ⟨spec, item, hmem, -, hitem⟩
      · exact ⟨[mark, c], .marked hmark hletter, rfl⟩
      · obtain rfl := List.singleton_inj.1 hitem
        exact absurd hmem number_not_mem_longSpecs
    · rcases of_ofSpec? h with ⟨c, hcs, hletter⟩ | ⟨spec, item, hmem, hcs, rfl⟩
      · exact ⟨[c], .letter hletter, hcs⟩
      · exact ⟨spec, .long hmem, hcs⟩

theorem readSpec?_eq_some_iff {cs rest : List Char} {items : List TimeItem} :
    readSpec? cs = some (items, rest) ↔ ∃ spec, Spec spec items ∧ cs = spec ++ rest := by
  constructor
  · exact spec_of_readSpec?
  · rintro ⟨spec, hspec, rfl⟩
    exact readSpec?_append hspec rest

/-! ### Templates -/

/-- A row of characters and specifications, with its items. -/
inductive Spells : List Char → List TimeItem → Prop
  | nil : Spells [] []
  | literal {c : Char} {cs : List Char} {items : List TimeItem} (hc : c ≠ '%') (h : Spells cs items) :
    Spells (c :: cs) (.literal c :: items)
  | spec {spec cs : List Char} {own items : List TimeItem} (hspec : Spec spec own) (h : Spells cs items) :
    Spells ('%' :: (spec ++ cs)) (own ++ items)

theorem spells_of_readFrom {n : Nat} {cs : List Char} {items : List TimeItem} (h : readFrom n cs = some items) :
    Spells cs items := by
  induction n generalizing cs items with
  | zero =>
    cases cs with
    | nil =>
      cases h
      exact .nil
    | cons c cs => cases h
  | succ n ih =>
    unfold readFrom at h
    split at h
    · cases h
      exact .nil
    · cases h
    · rename_i rest heq
      cases heq
      obtain ⟨⟨own, after⟩, hread, h⟩ := Option.bind_eq_some_iff.1 h
      obtain ⟨items', hrest, heq⟩ := Option.bind_eq_some_iff.1 h
      cases heq
      obtain ⟨spec, hspec, rfl⟩ := readSpec?_eq_some_iff.1 hread
      exact .spec hspec (ih hrest)
    · rename_i c rest hc heq
      cases heq
      obtain ⟨items', hrest, rfl⟩ := Option.map_eq_some_iff.1 h
      exact .literal (by simpa using hc) (ih hrest)

theorem readFrom_of_spells {n : Nat} {cs : List Char} {items : List TimeItem} (h : Spells cs items)
    (hn : cs.length ≤ n) : readFrom n cs = some items := by
  induction h generalizing n with
  | nil => cases n <;> rfl
  | @literal c cs items hc _ ih =>
    cases n with
    | zero => cases hn
    | succ n =>
      rw [List.length_cons] at hn
      rw [readFrom, ih (by omega)]
      · rfl
      · exact hc
  | @spec spec cs own items hspec _ ih =>
    cases n with
    | zero => cases hn
    | succ n =>
      rw [List.length_cons, List.length_append] at hn
      rw [readFrom, readSpec?_append hspec]
      simp [ih (n := n) (by omega)]

theorem parse?_eq_some_iff {text : String} {items : List TimeItem} :
    parse? text = some items ↔ Spells text.toList items := by
  constructor
  · exact spells_of_readFrom
  · intro h
    exact readFrom_of_spells h (Nat.le_of_eq String.length_toList)

def IsTemplate (text : String) : Prop :=
  ∃ items, Spells text.toList items

theorem isTemplate_iff {text : String} : IsTemplate text ↔ (parse? text).isSome := by
  simp only [IsTemplate, ← parse?_eq_some_iff, Option.isSome_iff_exists]

instance (text : String) : Decidable (IsTemplate text) :=
  decidable_of_iff _ isTemplate_iff.symm

/-! ### The item without a printed form -/

theorem Spells.append {cs cs' : List Char} {items items' : List TimeItem} (h : Spells cs items)
    (h' : Spells cs' items') : Spells (cs ++ cs') (items ++ items') := by
  induction h with
  | nil => exact h'
  | literal hc _ ih => exact .literal hc ih
  | spec hspec _ ih =>
    rw [List.cons_append, List.append_assoc, List.append_assoc]
    exact .spec hspec ih

theorem readOnly_not_mem_ofLetter? {c : Char} {items : List TimeItem} (h : ofLetter? c = some items) :
    .readOnly ∉ items := by
  unfold ofLetter? at h
  split at h <;> cases h <;> decide

theorem Spec.eq_of_readOnly_mem {spec : List Char} {items : List TimeItem} (h : Spec spec items)
    (hmem : .readOnly ∈ items) : spec = ['#', 'z'] := by
  cases h with
  | letter h => exact absurd hmem (readOnly_not_mem_ofLetter? h)
  | marked => cases List.mem_singleton.1 hmem
  | long h =>
    obtain rfl := List.mem_singleton.1 hmem
    simpa [longSpecs] using h

/-- Two templates with the one specification between them that has no printed form. -/
def HasReadOnly (text : String) : Prop :=
  ∃ before after, IsTemplate before ∧ IsTemplate after ∧ text = before ++ "%#z" ++ after

theorem Spells.split_readOnly {cs : List Char} {items : List TimeItem} (h : Spells cs items)
    (hmem : .readOnly ∈ items) :
    ∃ before after left right, Spells before left ∧ Spells after right ∧ cs = before ++ ['%', '#', 'z'] ++ after := by
  induction h with
  | nil => cases hmem
  | literal hc _ ih =>
    rcases List.mem_cons.1 hmem with heq | hmem
    · cases heq
    · obtain ⟨before, after, left, right, hleft, hright, rfl⟩ := ih hmem
      exact ⟨_, after, _, right, .literal hc hleft, hright, rfl⟩
  | spec hspec hrest ih =>
    rcases List.mem_append.1 hmem with hown | hmem
    · obtain rfl := hspec.eq_of_readOnly_mem hown
      exact ⟨[], _, [], _, .nil, hrest, rfl⟩
    · obtain ⟨before, after, left, right, hleft, hright, rfl⟩ := ih hmem
      refine ⟨_, after, _, right, .spec hspec hleft, hright, ?_⟩
      simp

theorem hasReadOnly_iff {text : String} :
    HasReadOnly text ↔ ∃ items, Spells text.toList items ∧ .readOnly ∈ items := by
  have hmark : "%#z".toList = ['%', '#', 'z'] := rfl
  constructor
  · rintro ⟨before, after, ⟨left, hleft⟩, ⟨right, hright⟩, rfl⟩
    refine ⟨_, ?_, List.mem_append_right left (List.mem_append_left right (List.mem_singleton_self _))⟩
    rw [String.toList_append, String.toList_append, hmark, List.append_assoc]
    exact hleft.append (.spec spec_readOnly hright)
  · rintro ⟨items, h, hmem⟩
    obtain ⟨before, after, left, right, hleft, hright, htext⟩ := h.split_readOnly hmem
    refine ⟨String.ofList before, String.ofList after, ⟨left, by simpa using hleft⟩, ⟨right, by simpa using hright⟩, ?_⟩
    rw [← String.toList_inj, htext, String.toList_append, String.toList_append, hmark, String.toList_ofList,
      String.toList_ofList]

instance (text : String) : Decidable (HasReadOnly text) :=
  decidable_of_iff (∃ items ∈ parse? text, .readOnly ∈ items) (by
    simp only [hasReadOnly_iff, ← parse?_eq_some_iff, Option.mem_def])

/-! ### Printing -/

/-- The name that an item asks for has its place in the table. -/
def Named (t : LocalTime) : TimeItem → Prop
  | .monthName _ => 1 ≤ t.date.month ∧ t.date.month ≤ months.length
  | .weekdayName _ => t.date.weekday < weekdays.length
  | _ => True

theorem named_toLocal (m : Moment) (item : TimeItem) : item.Named m.toLocal := by
  unfold Named
  split
  · exact Date.ofDays_month _
  · simp only [Date.weekday, weekdays, List.length_cons, List.length_nil]
    omega
  · trivial

/-- The item stands for a part of the text at a local time, with all names found. -/
structure PrintsAs (t : LocalTime) (item : TimeItem) (part : List Char) : Prop where
  text : item.print? t = some part
  named : item.Named t

theorem print?_eq_none_iff {t : LocalTime} {item : TimeItem} : item.print? t = none ↔ item = .readOnly := by
  cases item <;> simp [print?]

theorem printTime?_of_readOnly {items : List TimeItem} (h : .readOnly ∈ items) (t : LocalTime) :
    printTime? items t = none := by
  rw [printTime?, Option.map_eq_none_iff]
  induction items with
  | nil => cases h
  | cons item items ih =>
    rw [List.mapM_cons]
    rcases List.mem_cons.1 h with rfl | hmem
    · rfl
    · cases item.print? t with
      | none => rfl
      | some part =>
        rw [Option.bind_eq_bind, Option.bind_some, ih hmem]
        rfl

theorem exists_parts {items : List TimeItem} (h : .readOnly ∉ items) (m : Moment) :
    ∃ parts, List.Forall₂ (PrintsAs m.toLocal) items parts ∧ items.mapM (print? m.toLocal) = some parts := by
  induction items with
  | nil => exact ⟨[], .nil, rfl⟩
  | cons item items ih =>
    obtain ⟨hitem, hitems⟩ : .readOnly ≠ item ∧ .readOnly ∉ items := by simpa using h
    obtain ⟨parts, hparts, hmap⟩ := ih hitems
    obtain ⟨part, hpart⟩ := Option.ne_none_iff_exists'.1 (mt print?_eq_none_iff.1 (Ne.symm hitem))
    refine ⟨part :: parts, .cons ⟨hpart, named_toLocal m item⟩ hparts, ?_⟩
    rw [List.mapM_cons, hpart, hmap]
    rfl

end TimeItem

open TimeItem

/-- Printing a moment some hours later. Where that leaves the years of moments the offset is refused, whatever the
template; a text that is no template is refused for its format. A template is printed item by item, unless it has an
item without a printed form in it. -/
theorem shiftedTime_prints_templates (m : Moment) (hours : Int) (text : String) :
    (¬ m.Reaches hours → shiftedTime m hours text = .error (.fault (Fault.ofKind .invalidOffset))) ∧
    (m.Reaches hours → ¬ IsTemplate text →
      shiftedTime m hours text = .error (.fault (Fault.ofKind .invalidFormat))) ∧
    (m.Reaches hours → IsTemplate text → ¬ HasReadOnly text →
      ∃ items parts, Spells text.toList items ∧ List.Forall₂ (PrintsAs (m.addHours hours).toLocal) items parts ∧
        shiftedTime m hours text = .ok (String.ofList parts.flatten)) ∧
    (m.Reaches hours → HasReadOnly text → shiftedTime m hours text = .error .unprintable) := by
  unfold shiftedTime
  refine ⟨fun hout => ?_, fun hin hnot => ?_, fun hin htemplate hall => ?_, fun hin hread => ?_⟩
  · rw [Moment.shift?_of_not_reaches hout]
  · have hnone : parse? text = none := by simpa [isTemplate_iff] using hnot
    simp only [Moment.shift?_of_reaches hin, hnone]
  · obtain ⟨items, hitems⟩ := htemplate
    have hprintable : .readOnly ∉ items := fun hmem => hall (hasReadOnly_iff.2 ⟨items, hitems, hmem⟩)
    obtain ⟨parts, hparts, hmap⟩ := exists_parts hprintable (m.addHours hours)
    refine ⟨items, parts, hitems, hparts, ?_⟩
    simp only [Moment.shift?_of_reaches hin, parse?_eq_some_iff.2 hitems, printTime?, hmap, Option.map_some]
  · obtain ⟨items, hitems, hmem⟩ := hasReadOnly_iff.1 hread
    simp only [Moment.shift?_of_reaches hin, parse?_eq_some_iff.2 hitems, printTime?_of_readOnly hmem]

/-- A leap second moved out of range, and an hour back by an unknown letter, by a template where `#z` follows a percent
sign that is printed, and by one with the item that is not. -/
theorem shiftedTime_prints_templates_leap_second :
    let m : Moment := { day := 17166, second := 86399, nano := 1500000000, zone := .universal }
    (¬ m.Reaches 9223372036854775807 ∧
      shiftedTime m 9223372036854775807 "%Q" = .error (.fault (Fault.ofKind .invalidOffset))) ∧
    (m.Reaches (-1) ∧ ¬ IsTemplate "%Q" ∧
      shiftedTime m (-1) "%Q" = .error (.fault (Fault.ofKind .invalidFormat))) ∧
    (IsTemplate "%%#z %-d %b%:::z" ∧ ¬ HasReadOnly "%%#z %-d %b%:::z" ∧
      ∃ items parts, Spells "%%#z %-d %b%:::z".toList items ∧
        List.Forall₂ (PrintsAs (m.addHours (-1)).toLocal) items parts ∧
        shiftedTime m (-1) "%%#z %-d %b%:::z" = .ok (String.ofList parts.flatten)) ∧
    (HasReadOnly "%H %#z" ∧ shiftedTime m (-1) "%H %#z" = .error .unprintable) := by
  intro m
  have hout : ¬ m.Reaches 9223372036854775807 := by decide +kernel
  have hin : m.Reaches (-1) := by decide +kernel
  have hunknown : ¬ IsTemplate "%Q" := by decide +kernel
  have htemplate : IsTemplate "%%#z %-d %b%:::z" := by decide +kernel
  have hall : ¬ HasReadOnly "%%#z %-d %b%:::z" := by decide +kernel
  have hread : HasReadOnly "%H %#z" := by decide +kernel
  exact ⟨⟨hout, (shiftedTime_prints_templates m _ _).1 hout⟩,
    ⟨hin, hunknown, (shiftedTime_prints_templates m _ _).2.1 hin hunknown⟩,
    ⟨htemplate, hall, (shiftedTime_prints_templates m _ _).2.2.1 hin htemplate hall⟩,
    hread, (shiftedTime_prints_templates m _ _).2.2.2 hin hread⟩

/-- A template that passes the check and gives neither a text nor a fault. -/
theorem shiftedTime_of_read_only_offset :
    let noon : Moment := { day := 19783, second := 45000, nano := 0, zone := .universal }
    noon.Reaches 0 ∧ IsTemplate "%#z" ∧ shiftedTime noon 0 "%#z" = .error .unprintable := by
  decide +kernel

end Stencil
