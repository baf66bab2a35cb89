import Stencil.Member

/-!
# Looking members up

A tag is a name that is not empty, a `#`, and a discriminator of four characters. The form of a query decides alone
whether it is one, so that nobody can take a tag over by choosing it as a nickname.
-/

namespace Stencil

namespace Guild

/-! ### Tags -/

theorem splitTagByBytes?_eq (query : List Char) : splitTagByBytes? query = some (splitTag? query) :=
  (Option.some_get _).symm

theorem splitTag?_eq_some_iff {query name discriminator : List Char} :
    splitTag? query = some (name, discriminator) ↔
      query = name ++ '#' :: discriminator ∧ name ≠ [] ∧ discriminator.length = 4 := by
  have hcut := splitTagByBytes?_eq query
  constructor
  · intro h
    rw [h] at hcut
    by_cases hlong : 5 < query.length
    · obtain ⟨before, c, after, rfl, hname, hfour⟩ := exists_fifth_from_end hlong
      rw [splitTagByBytes?_append c hname hfour] at hcut
      by_cases hhash : c = '#'
      · rw [if_pos hhash] at hcut
        cases hcut
        exact ⟨by rw [hhash], hname, hfour⟩
      · rw [if_neg hhash] at hcut
        cases hcut
    · rw [splitTagByBytes?_of_short (Nat.not_lt.1 hlong)] at hcut
      cases hcut
  · rintro ⟨rfl, hname, hfour⟩
    rw [splitTagByBytes?_append '#' hname hfour, if_pos rfl] at hcut
    exact (Option.some.inj hcut).symm

/-! ### Who a query means -/

/-- A member with the tag that the query is. -/
def Tagged (query : String) (m : Member) : Prop :=
  m.name ≠ "" ∧ m.discriminator.length = 4 ∧ m.tag = query

def Called (query : String) (m : Member) : Prop :=
  m.nick = some query ∨ m.name = query

def IsFirst (g : Guild) (p : Member → Prop) (m : Member) : Prop :=
  ∃ before after, g.members = before ++ m :: after ∧ p m ∧ ∀ k ∈ before, ¬ p k

theorem find?_eq_some_iff_isFirst {g : Guild} {test : Member → Bool} {p : Member → Prop}
    (h : ∀ m, test m = true ↔ p m) {m : Member} : g.members.find? test = some m ↔ g.IsFirst p m := by
  simp only [List.find?_eq_some_iff_append, IsFirst, h, Bool.not_eq_true', ← Bool.not_eq_true]
  constructor
  · rintro ⟨hm, before, after, hmembers, hbefore⟩
    exact ⟨before, after, hmembers, hm, hbefore⟩
  · rintro ⟨before, after, hmembers, hm, hbefore⟩
    exact ⟨hm, before, after, hmembers, hbefore⟩

theorem find?_eq_none_iff_forall {g : Guild} {test : Member → Bool} {p : Member → Prop}
    (h : ∀ m, test m = true ↔ p m) : g.members.find? test = none ↔ ∀ m ∈ g.members, ¬ p m := by
  simp only [List.find?_eq_none, h]

theorem tagged_iff {query : String} {name discriminator : List Char}
    (h : splitTag? query.toList = some (name, discriminator)) (m : Member) :
    Tagged query m ↔ m.name.toList = name ∧ m.discriminator.toList = discriminator := by
  obtain ⟨hquery, hname, hfour⟩ := splitTag?_eq_some_iff.1 h
  have htag : m.tag = query ↔ m.name.toList ++ '#' :: m.discriminator.toList = name ++ '#' :: discriminator := by
    rw [← String.toList_inj, hquery]
    simp [Member.tag]
  constructor
  · rintro ⟨-, hlength, heq⟩
    rw [← String.length_toList] at hlength
    have hsplit := List.append_inj' (htag.1 heq) (by simp [hlength, hfour])
    exact ⟨hsplit.1, (List.cons.inj hsplit.2).2⟩
  · rintro ⟨hn, hd⟩
    refine ⟨?_, ?_, htag.2 (by rw [hn, hd])⟩
    · rintro hempty
      rw [hempty] at hn
      exact hname hn.symm
    · rw [← String.length_toList, hd, hfour]

theorem splitTag?_tag {m : Member} (hname : m.name ≠ "") (hfour : m.discriminator.length = 4) :
    splitTag? m.tag.toList = some (m.name.toList, m.discriminator.toList) := by
  refine splitTag?_eq_some_iff.2 ⟨by simp [Member.tag], ?_, ?_⟩
  · simpa using hname
  · rw [String.length_toList, hfour]

theorem not_tagged {query : String} (h : splitTag? query.toList = none) (m : Member) : ¬ Tagged query m := by
  rintro ⟨hname, hfour, rfl⟩
  rw [splitTag?_tag hname hfour] at h
  cases h

section

variable (g : Guild) (query : String)

theorem byTag?_eq_some_iff {m : Member} : g.byTag? query = some m ↔ g.IsFirst (Tagged query) m := by
  unfold byTag?
  cases h : splitTag? query.toList with
  | none =>
    refine ⟨(nomatch ·), ?_⟩
    rintro ⟨before, after, -, hm, -⟩
    exact absurd hm (not_tagged h m)
  | some parts => exact find?_eq_some_iff_isFirst fun k => by simp [tagged_iff h]

theorem byTag?_eq_none_iff : g.byTag? query = none ↔ ∀ m ∈ g.members, ¬ Tagged query m := by
  unfold byTag?
  cases h : splitTag? query.toList with
  | none => exact ⟨fun _ m _ => not_tagged h m, fun _ => rfl⟩
  | some parts => exact find?_eq_none_iff_forall fun k => by simp [tagged_iff h]

theorem byNickOrName?_eq_some_iff {m : Member} : g.byNickOrName? query = some m ↔ g.IsFirst (Called query) m :=
  find?_eq_some_iff_isFirst fun k => by simp [Called]

theorem byNickOrName?_eq_none_iff : g.byNickOrName? query = none ↔ ∀ m ∈ g.members, ¬ Called query m :=
  find?_eq_none_iff_forall fun k => by simp [Called]

theorem named?_eq_some_iff {m : Member} : g.named? query = some m ↔
    g.IsFirst (Tagged query) m ∨ (∀ k ∈ g.members, ¬ Tagged query k) ∧ g.IsFirst (Called query) m := by
  rw [named?, Option.or_eq_some_iff, byTag?_eq_some_iff, byTag?_eq_none_iff, byNickOrName?_eq_some_iff]

theorem named?_eq_none_iff :
    g.named? query = none ↔ ∀ m ∈ g.members, ¬ Tagged query m ∧ ¬ Called query m := by
  rw [named?, Option.or_eq_none_iff, byTag?_eq_none_iff, byNickOrName?_eq_none_iff]
  constructor
  · rintro ⟨htagged, hcalled⟩ m hm
    exact ⟨htagged m hm, hcalled m hm⟩
  · intro h
    exact ⟨fun m hm => (h m hm).1, fun m hm => (h m hm).2⟩

end

theorem exists_isFirst {g : Guild} {p : Member → Prop} {m : Member} (hm : m ∈ g.members) (h : p m) :
    ∃ k, g.IsFirst p k := by
  classical
  have hfound : (g.members.find? fun k => decide (p k)).isSome := by
    exact List.find?_isSome.2 ⟨m, hm, by simpa using h⟩
  obtain ⟨k, hk⟩ := Option.isSome_iff_exists.1 hfound
  exact ⟨k, (find?_eq_some_iff_isFirst fun k => by simp).1 hk⟩

theorem IsFirst.congr {g : Guild} {p q : Member → Prop} (h : ∀ m, p m ↔ q m) {m : Member} :
    g.IsFirst p m ↔ g.IsFirst q m := by
  simp only [IsFirst, h]

/-- A query is cut by bytes without fail. The tag of a member, of the usual form, means the first member with its name
and discriminator; whoever is found has the query as tag, nickname or name; and nobody is found exactly if nobody has
it. -/
theorem named_finds_tagged_member (g : Guild) :
    (∀ query, splitTagByBytes? query = some (splitTag? query) ∧ ∀ name discriminator,
      splitTag? query = some (name, discriminator) ↔
        query = name ++ '#' :: discriminator ∧ name ≠ [] ∧ discriminator.length = 4) ∧
    (∀ m ∈ g.members, m.name ≠ "" → m.discriminator.length = 4 →
      ∃ k, g.named? m.tag = some k ∧
        g.IsFirst (fun k => k.name = m.name ∧ k.discriminator = m.discriminator) k) ∧
    (∀ query k, g.named? query = some k →
      k ∈ g.members ∧ (k.tag = query ∨ k.nick = some query ∨ k.name = query)) ∧
    (∀ query, g.named? query = none ↔ ∀ m ∈ g.members, m.nick ≠ some query ∧ m.name ≠ query ∧
      ¬ (m.name ≠ "" ∧ m.discriminator.length = 4 ∧ m.tag = query)) := by
  refine ⟨fun query => ⟨splitTagByBytes?_eq query, fun _ _ => splitTag?_eq_some_iff⟩, fun m hm hname hfour => ?_, fun query k hk => ?_, fun query => ?_⟩
  · obtain ⟨k, hk⟩ := exists_isFirst hm (p := Tagged m.tag) ⟨hname, hfour, rfl⟩
    refine ⟨k, (g.named?_eq_some_iff m.tag).2 (.inl hk), (IsFirst.congr fun k => ?_).1 hk⟩
    rw [tagged_iff (splitTag?_tag hname hfour), String.toList_inj, String.toList_inj]
  · rcases (g.named?_eq_some_iff query).1 hk with hfirst | ⟨-, hfirst⟩
    · obtain ⟨before, after, hmembers, ⟨-, -, htag⟩, -⟩ := hfirst
      exact ⟨by simp [hmembers], .inl htag⟩
    · obtain ⟨before, after, hmembers, hcalled, -⟩ := hfirst
      exact ⟨by simp [hmembers], .inr hcalled⟩
  · rw [g.named?_eq_none_iff query]
    refine forall₂_congr fun m _ => ?_
    rw [Called, not_or, and_comm, and_assoc]
    rfl

/-- A tag with a `#` and a wide character in the name, which another member has as nickname. -/
theorem named_finds_tagged_member_beside_nickname :
    let other : Member := { id := 1, name := "ana", discriminator := "0001", nick := some "b#→#0002" }
    let first : Member := { id := 2, name := "b#→", discriminator := "0002" }
    let second : Member := { first with id := 3, nick := some "bo" }
    let g : Guild := { members := [other, first, second] }
    other.nick = some second.tag ∧ g.named? second.tag = some first ∧
      g.IsFirst (fun k => k.name = second.name ∧ k.discriminator = second.discriminator) first ∧
      g.named? "b#→#002" = none := by
  intro other first second g
  obtain ⟨-, htag, -, hnone⟩ := named_finds_tagged_member g
  obtain ⟨k, hk, hfirst⟩ := htag second (by simp [g]) (by decide) (by decide)
  have hid : k = first := Option.some.inj (hk.symm.trans (by decide +kernel))
  subst hid
  exact ⟨by decide, hk, hfirst, (hnone _).2 (by decide)⟩

end Guild

end Stencil
