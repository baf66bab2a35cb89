import Mathlib.Logic.Relation
import Stencil.World

/-!
# Stores that operations can make

A store changes by three operations: a Root is added, a Sub is added, a variable is set. What they
keep is proved once here: old scopes stay as they are, bases are older than what views them, remembered
Roots are the ones that going from base to base finds, and tables stay proper.
-/

namespace Stencil

/-! ### Tables -/

structure Table.Proper (t : Table) : Prop where
  sorted : t.Sorted
  nonempty : ∀ e ∈ t.entries, e.2.isEmpty = false
  unreserved : ∀ e ∈ t.entries, e.1 ≠ replaceOrderVariable

namespace Table

theorem proper_empty : Table.Proper .empty where
  sorted := NameMap.sorted_empty
  nonempty _ he := nomatch he
  unreserved _ he := nomatch he

theorem Proper.erase {t : Table} (h : t.Proper) (name : String) : Table.Proper (t.erase name) where
  sorted := h.sorted.erase name
  nonempty e he := h.nonempty e ((List.mem_filter.1 he).1)
  unreserved e he := h.unreserved e ((List.mem_filter.1 he).1)

theorem Proper.insert {t : Table} (h : t.Proper) {name : String} {v : Value}
    (hv : v.isEmpty = false) (hn : name ≠ replaceOrderVariable) :
    Table.Proper (t.insert name v) where
  sorted := h.sorted.insert name v
  nonempty e he := by
    rcases NameMap.mem_insertEntry he with rfl | he
    · exact hv
    · exact h.nonempty e he
  unreserved e he := by
    rcases NameMap.mem_insertEntry he with rfl | he
    · exact hn
    · exact h.unreserved e he

theorem Proper.set {t : Table} (h : t.Proper) {name : String} (hn : name ≠ replaceOrderVariable)
    (value : Option Value) : Table.Proper (t.set name value) := by
  cases value with
  | none => exact h.erase name
  | some v =>
    simp only [Table.set]
    split
    · exact h.erase name
    · exact h.insert (by simpa using ‹¬ v.isEmpty = true›) hn

theorem get?_set (t : Table) (name : String) (value : Option Value) (other : String) :
    (Table.set t name value).get? other =
      if other = name then value.filter (fun v => !v.isEmpty) else t.get? other := by
  cases value with
  | none => simp [Table.set, NameMap.get?_erase]
  | some v =>
    cases hv : v.isEmpty with
    | true => simp [Table.set, NameMap.get?_erase, Option.filter, hv]
    | false => simp [Table.set, NameMap.get?_insert, Option.filter, hv]

theorem Proper.isEmpty_of_get? {t : Table} (h : t.Proper) {name : String} {v : Value}
    (hv : t.get? name = some v) : v.isEmpty = false := by
  obtain ⟨before, rest, he, -⟩ := List.lookup_eq_some_iff.1 hv
  exact h.nonempty (name, v) (by simp [he])

/-- What a proper table holds can be put back. -/
theorem Proper.filter_get? {t : Table} (h : t.Proper) (name : String) :
    (t.get? name).filter (fun v => !v.isEmpty) = t.get? name := by
  cases hv : t.get? name with
  | none => rfl
  | some v => simp [h.isEmpty_of_get? hv]

end Table

/-! ### Frames -/

/-- What a frame keeps for good: nothing for a Root, and for a Sub the scope it views and its Root. -/
def Frame.link? : Frame → Option (Scope × Scope)
  | .root _ => none
  | .sub b r => some (b, r)

def Frame.mapRoot (f : Root → Root) : Frame → Frame
  | .root r => .root (f r)
  | .sub b r => .sub b r

namespace Store

variable {s t : Store} {c : Scope}

theorem frame?_eq_some_of_holds (h : s.holds c) : ∃ f, s.frame? c = some f := by
  simp only [holds, decide_eq_true_eq] at h
  exact ⟨s.frames[c.index], Array.getElem?_eq_getElem h⟩

theorem holds_of_frame? {f : Frame} (h : s.frame? c = some f) : s.holds c := by
  simp only [holds, decide_eq_true_eq]
  exact (Array.getElem?_eq_some_iff.1 h).1

theorem holds_next_addSub (s : Store) (c : Scope) : (s.addSub c).2.holds s.next := by
  simp [holds, next, addSub]

theorem frame?_push (frames : Array Frame) (f : Frame) (c : Scope) :
    Store.frame? ⟨frames.push f⟩ c =
      if c = (⟨frames.size⟩ : Scope) then some f else Store.frame? ⟨frames⟩ c := by
  obtain ⟨i⟩ := c
  simp only [frame?, Array.getElem?_push, Scope.mk.injEq]

theorem frame?_addSub (s : Store) (parent c : Scope) :
    (s.addSub parent).2.frame? c =
      if c = s.next then some (.sub parent (s.root parent)) else s.frame? c :=
  frame?_push s.frames (.sub parent (s.root parent)) c

theorem frame?_addRoot (s : Store) (guild : Directory) (c : Scope) :
    (s.addRoot guild).2.frame? c = if c = s.next then some (.root { guild }) else s.frame? c :=
  frame?_push s.frames (.root { guild }) c

theorem modifyRoot_eq (s : Store) (c : Scope) (f : Root → Root) :
    s.modifyRoot c f = { s with frames := s.frames.modify (s.root c).index (Frame.mapRoot f) } := by
  unfold modifyRoot
  congr 2
  funext x
  cases x <;> rfl

theorem frame?_modifyRoot (s : Store) (c : Scope) (f : Root → Root) (d : Scope) :
    (s.modifyRoot c f).frame? d =
      if d = s.root c then (s.frame? d).map (Frame.mapRoot f) else s.frame? d := by
  obtain ⟨i⟩ := d
  have hi : (⟨i⟩ : Scope) = s.root c ↔ (s.root c).index = i := by
    cases hr : s.root c
    simp [eq_comm]
  simp only [modifyRoot_eq, frame?, Array.getElem?_modify, hi]

/-! ### Links -/

def link? (s : Store) (c : Scope) : Option (Scope × Scope) :=
  (s.frame? c).bind Frame.link?

theorem link?_eq_some_iff {b r : Scope} : s.link? c = some (b, r) ↔ s.frame? c = some (.sub b r) := by
  unfold link?
  cases hf : s.frame? c with
  | none => simp
  | some f => cases f <;> simp [Frame.link?]

theorem root_eq_getD (s : Store) (c : Scope) : s.root c = ((s.link? c).map (·.2)).getD c := by
  unfold root link?
  cases hf : s.frame? c with
  | none => rfl
  | some f => cases f <;> rfl

theorem root_of_root {r : Root} (h : s.frame? c = some (.root r)) : s.root c = c := by
  simp only [root, h]

theorem root_of_sub {b r : Scope} (h : s.frame? c = some (.sub b r)) : s.root c = r := by
  simp only [root, h]

theorem base_eq_getD (s : Store) (c : Scope) : s.base c = ((s.link? c).map (·.1)).getD c := by
  unfold base link?
  cases hf : s.frame? c with
  | none => rfl
  | some f => cases f <;> rfl

theorem kind_eq_ite (s : Store) (c : Scope) :
    s.kind c = if (s.link? c).isSome then .sub else .root := by
  unfold kind link?
  cases hf : s.frame? c with
  | none => rfl
  | some f => cases f <;> rfl

theorem link?_modifyRoot (s : Store) (c : Scope) (f : Root → Root) (d : Scope) :
    (s.modifyRoot c f).link? d = s.link? d := by
  unfold link?
  rw [frame?_modifyRoot]
  split
  · cases s.frame? d with
    | none => rfl
    | some x => cases x <;> rfl
  · rfl

theorem root_modifyRoot (s : Store) (c : Scope) (f : Root → Root) (d : Scope) :
    (s.modifyRoot c f).root d = s.root d := by
  rw [root_eq_getD, root_eq_getD, link?_modifyRoot]

theorem holds_modifyRoot (s : Store) (c : Scope) (f : Root → Root) (d : Scope) :
    (s.modifyRoot c f).holds d = s.holds d := by
  simp only [modifyRoot_eq, holds, Array.size_modify]

/-- Every scope of the first store is one of the second, with the links that it had. -/
def Keeps (s t : Store) : Prop :=
  ∀ c, s.holds c → t.holds c ∧ t.link? c = s.link? c

namespace Keeps

variable {u : Store}

theorem refl (s : Store) : s.Keeps s :=
  fun _ h => ⟨h, rfl⟩

theorem trans (h : s.Keeps t) (h' : t.Keeps u) : s.Keeps u := by
  intro c hc
  obtain ⟨ht, hl⟩ := h c hc
  obtain ⟨hu, hl'⟩ := h' c ht
  exact ⟨hu, hl'.trans hl⟩

theorem root (h : s.Keeps t) (hc : s.holds c) : t.root c = s.root c := by
  rw [root_eq_getD, root_eq_getD, (h c hc).2]

theorem base (h : s.Keeps t) (hc : s.holds c) : t.base c = s.base c := by
  rw [base_eq_getD, base_eq_getD, (h c hc).2]

theorem kind (h : s.Keeps t) (hc : s.holds c) : t.kind c = s.kind c := by
  rw [kind_eq_ite, kind_eq_ite, (h c hc).2]

theorem push (frames : Array Frame) (f : Frame) : Store.Keeps ⟨frames⟩ ⟨frames.push f⟩ := by
  intro c hc
  have hn : c ≠ ⟨frames.size⟩ := by
    rintro rfl
    simp [holds] at hc
  constructor
  · simp only [holds, Array.size_push, decide_eq_true_eq] at hc ⊢
    omega
  · simp only [link?, frame?_push, if_neg hn]

theorem modifyRoot (s : Store) (c : Scope) (f : Root → Root) : s.Keeps (s.modifyRoot c f) := by
  intro d hd
  exact ⟨(holds_modifyRoot s c f d).trans hd, link?_modifyRoot s c f d⟩

end Keeps

/-! ### Well-formed stores -/

/-- Going from base to base, from the first scope, ends at the second, which is a Root. -/
inductive Climbs (s : Store) : Scope → Scope → Prop where
  | root {c : Scope} {r : Root} (h : s.frame? c = some (.root r)) : Climbs s c c
  | sub {c b r d : Scope} (h : s.frame? c = some (.sub b r)) (hb : Climbs s b d) : Climbs s c d

theorem Climbs.unique {d e : Scope} (hd : s.Climbs c d) (he : s.Climbs c e) : d = e := by
  induction hd with
  | root h =>
    cases he with
    | root h' => rfl
    | sub h' _ =>
      rw [h] at h'
      cases h'
  | sub h hb ih =>
    cases he with
    | root h' =>
      rw [h] at h'
      cases h'
    | sub h' hb' =>
      rw [h] at h'
      cases h'
      exact ih hb'

theorem Climbs.root_frame {d : Scope} (h : s.Climbs c d) : ∃ r, s.frame? d = some (.root r) := by
  induction h with
  | root h => exact ⟨_, h⟩
  | sub _ _ ih => exact ih

/-- Bases are older than what views them, a Sub remembers the Root that its base remembers, and all
tables are proper. -/
structure WellFormed (s : Store) : Prop where
  older : ∀ c b r, s.link? c = some (b, r) → b.index < c.index
  agree : ∀ c b r, s.link? c = some (b, r) → s.root b = r
  proper : ∀ c r, s.frame? c = some (.root r) → r.table.Proper

namespace WellFormed

theorem holds_base (h : s.WellFormed) {b r : Scope} (hl : s.link? c = some (b, r)) : s.holds b := by
  have hc := holds_of_frame? (link?_eq_some_iff.1 hl)
  have hb := h.older c b r hl
  simp only [holds, decide_eq_true_eq] at hc ⊢
  omega

/-- Bounded by the place of the scope, going from base to base finds the remembered Root. -/
theorem climb_eq_root (h : s.WellFormed) (k : Nat) (hk : c.index ≤ k) : s.climb k c = s.root c := by
  induction k generalizing c with
  | zero =>
    cases hl : s.link? c with
    | none => simp [climb, root_eq_getD, hl]
    | some link =>
      have hb := h.older c link.1 link.2 hl
      omega
  | succ k ih =>
    cases hf : s.frame? c with
    | none => simp only [climb, root, hf]
    | some f =>
      cases f with
      | root r => simp only [climb, root, hf]
      | sub b r =>
        have hl := link?_eq_some_iff.2 hf
        have hb := h.older c b r hl
        simp only [climb, hf]
        rw [ih (by omega), h.agree c b r hl, root_of_sub hf]

theorem resolveRoot_eq_root (h : s.WellFormed) (c : Scope) : s.resolveRoot c = s.root c :=
  h.climb_eq_root c.index (Nat.le_refl _)

/- Bases are older and older on the way, so the way ends; what all scopes on it have in common is the
remembered Root. -/
theorem climbs_root (h : s.WellFormed) (hc : s.holds c) : s.Climbs c (s.root c) := by
  induction hn : c.index using Nat.strongRecOn generalizing c with
  | ind n ih =>
    obtain ⟨f, hf⟩ := frame?_eq_some_of_holds hc
    cases f with
    | root r =>
      rw [root_of_root hf]
      exact .root hf
    | sub b r =>
      have hl := link?_eq_some_iff.2 hf
      have hb := ih b.index (by have := h.older c b r hl; omega) (h.holds_base hl) rfl
      rw [h.agree c b r hl] at hb
      rw [root_of_sub hf]
      exact .sub hf hb

theorem root_frame (h : s.WellFormed) (hc : s.holds c) :
    ∃ r, s.frame? (s.root c) = some (.root r) :=
  (h.climbs_root hc).root_frame

theorem holds_root (h : s.WellFormed) (hc : s.holds c) : s.holds (s.root c) := by
  obtain ⟨r, hr⟩ := h.root_frame hc
  exact holds_of_frame? hr

theorem proper_rootOf (h : s.WellFormed) (hc : s.holds c) : (s.rootOf c).table.Proper := by
  obtain ⟨r, hr⟩ := h.root_frame hc
  have ho : s.rootOf c = r := by simp [rootOf, hr]
  rw [ho]
  exact h.proper (s.root c) r hr

theorem empty : Store.empty.WellFormed where
  older c b r h := by simp [Store.empty, link?, frame?] at h
  agree c b r h := by simp [Store.empty, link?, frame?] at h
  proper c r h := by simp [Store.empty, frame?] at h

/-- A new frame does no harm if it is a Root without variables or remembers the Root of its base. -/
theorem push {frames : Array Frame} (h : Store.WellFormed ⟨frames⟩) {f : Frame}
    (hr : ∀ r, f = .root r → r.table.Proper)
    (hs : ∀ b r, f = .sub b r → Store.holds ⟨frames⟩ b ∧ Store.root ⟨frames⟩ b = r) :
    Store.WellFormed ⟨frames.push f⟩ := by
  have keeps := Keeps.push frames f
  -- a link of the new store is the new frame's or an old one
  have link_cases : ∀ c b r, Store.link? ⟨frames.push f⟩ c = some (b, r) →
      Store.holds ⟨frames⟩ b ∧ Store.root ⟨frames⟩ b = r ∧ b.index < c.index := by
    intro c b r hl
    have hf := link?_eq_some_iff.1 hl
    rw [frame?_push] at hf
    split at hf
    · rename_i hc
      obtain ⟨hb, hbr⟩ := hs b r (Option.some.inj hf)
      refine ⟨hb, hbr, ?_⟩
      rw [hc]
      simpa [holds] using hb
    · have hold := link?_eq_some_iff.2 hf
      exact ⟨h.holds_base hold, h.agree c b r hold, h.older c b r hold⟩
  refine ⟨fun c b r hl => (link_cases c b r hl).2.2, fun c b r hl => ?_, fun c r hf => ?_⟩
  · obtain ⟨hb, hbr, -⟩ := link_cases c b r hl
    rw [keeps.root hb, hbr]
  · rw [frame?_push] at hf
    split at hf
    · exact hr r (Option.some.inj hf)
    · exact h.proper c r hf

theorem addRoot (h : s.WellFormed) (guild : Directory) : (s.addRoot guild).2.WellFormed := by
  refine h.push (fun r hr => ?_) (fun b r hr => by cases hr)
  cases hr
  exact Table.proper_empty

theorem addSub (h : s.WellFormed) (hc : s.holds c) : (s.addSub c).2.WellFormed := by
  refine h.push (fun r hr => by cases hr) (fun b r hr => ?_)
  cases hr
  exact ⟨hc, rfl⟩

theorem modifyRoot (h : s.WellFormed) (c : Scope) {f : Root → Root}
    (hf : ∀ r : Root, r.table.Proper → (f r).table.Proper) : (s.modifyRoot c f).WellFormed where
  older d b r hl := h.older d b r (by rwa [link?_modifyRoot] at hl)
  agree d b r hl := by
    rw [link?_modifyRoot] at hl
    rw [root_modifyRoot]
    exact h.agree d b r hl
  proper d r hr := by
    rw [frame?_modifyRoot] at hr
    split at hr
    · cases hd : s.frame? d with
      | none => simp [hd] at hr
      | some x =>
        cases x with
        | root old =>
          simp only [hd, Option.map_some, Frame.mapRoot, Option.some.injEq, Frame.root.injEq] at hr
          exact hr ▸ hf old (h.proper d old hd)
        | sub b o => simp [hd, Frame.mapRoot] at hr
    · exact h.proper d r hr

end WellFormed

end Store

/-! ### Variables -/

def Root.set (r : Root) (name : String) (value : Option Value) : Root :=
  if name = replaceOrderVariable then { r with swapped := value.any fun v => !v.isEmpty }
  else { r with table := r.table.set name value }

theorem Root.proper_set {r : Root} (h : r.table.Proper) (name : String) (value : Option Value) :
    (r.set name value).table.Proper := by
  unfold Root.set
  split
  · exact h
  · exact h.set ‹_› value

theorem Root.get?_set (r : Root) {name : String} (hn : name ≠ replaceOrderVariable)
    (value : Option Value) (other : String) :
    (r.set name value).table.get? other =
      if other = name then value.filter (fun v => !v.isEmpty) else r.table.get? other := by
  rw [Root.set, if_neg hn]
  exact Table.get?_set r.table name value other

theorem Root.swapped_set (r : Root) {name : String} (hn : name ≠ replaceOrderVariable)
    (value : Option Value) : (r.set name value).swapped = r.swapped := by
  rw [Root.set, if_neg hn]

namespace Store

variable {s t : Store} {c : Scope}

theorem set_eq_modifyRoot (s : Store) (c : Scope) (name : String) (value : Option Value) :
    s.set c name value = s.modifyRoot c fun r => r.set name value := rfl

theorem get?_eq (s : Store) (c : Scope) (name : String) :
    s.get? c name = (s.rootOf c).table.get? name := rfl

/-- A variable that is set is set for all scopes with that Root, and nothing else changes. -/
theorem WellFormed.rootOf_set (h : s.WellFormed) (hc : s.holds c) (name : String) (value : Option Value)
    (d : Scope) : (s.set c name value).rootOf d =
      if s.root d = s.root c then (s.rootOf d).set name value else s.rootOf d := by
  obtain ⟨r, hr⟩ := h.root_frame hc
  rw [set_eq_modifyRoot]
  by_cases hd : s.root d = s.root c
  · simp only [rootOf, root_modifyRoot, frame?_modifyRoot, hd, hr, if_true, Option.map_some,
      Frame.mapRoot]
  · simp only [rootOf, root_modifyRoot, frame?_modifyRoot, if_neg hd]

theorem WellFormed.set (h : s.WellFormed) (c : Scope) (name : String) (value : Option Value) :
    (s.set c name value).WellFormed :=
  h.modifyRoot c fun _ hr => Root.proper_set hr name value

theorem root_set (s : Store) (c : Scope) (name : String) (value : Option Value) (d : Scope) :
    (s.set c name value).root d = s.root d := by
  rw [set_eq_modifyRoot, root_modifyRoot]

theorem holds_set (s : Store) (c : Scope) (name : String) (value : Option Value) (d : Scope) :
    (s.set c name value).holds d = s.holds d := by
  rw [set_eq_modifyRoot, holds_modifyRoot]

theorem size_set (s : Store) (c : Scope) (name : String) (value : Option Value) :
    (s.set c name value).frames.size = s.frames.size := by
  rw [set_eq_modifyRoot, modifyRoot_eq, Array.size_modify]

theorem size_addSub (s : Store) (c : Scope) : (s.addSub c).2.frames.size = s.frames.size + 1 :=
  Array.size_push _

theorem size_addRoot (s : Store) (guild : Directory) : (s.addRoot guild).2.frames.size = s.frames.size + 1 :=
  Array.size_push _

theorem root_addSub_next (s : Store) (c : Scope) : (s.addSub c).2.root s.next = s.root c := by
  have hframe : (s.addSub c).2.frame? s.next = some (.sub c (s.root c)) := by
    rw [frame?_addSub, if_pos rfl]
  exact root_of_sub hframe

theorem root_addSub {d : Scope} (hd : s.holds d) : (s.addSub c).2.root d = s.root d :=
  (Keeps.push s.frames _).root hd

theorem root_addRoot_next (s : Store) (guild : Directory) : (s.addRoot guild).2.root s.next = s.next := by
  have hframe : (s.addRoot guild).2.frame? s.next = some (.root { guild }) := by
    rw [frame?_addRoot, if_pos rfl]
  exact root_of_root hframe

theorem root_addRoot {d : Scope} (hd : s.holds d) (guild : Directory) :
    (s.addRoot guild).2.root d = s.root d :=
  (Keeps.push s.frames _).root hd

/- A new frame is none of the Roots that scopes had before. -/
theorem WellFormed.rootOf_push {d : Scope} (h : s.WellFormed) (hd : s.holds d) (f : Frame) :
    Store.rootOf ⟨s.frames.push f⟩ d = s.rootOf d := by
  have hroot := h.holds_root hd
  have hne : s.root d ≠ s.next := by
    intro heq
    rw [heq] at hroot
    simp [holds, next] at hroot
  have hkept : Store.root ⟨s.frames.push f⟩ d = s.root d := (Keeps.push s.frames f).root hd
  have hframe : Store.frame? ⟨s.frames.push f⟩ (s.root d) = s.frame? (s.root d) := by
    rw [frame?_push]
    exact if_neg hne
  simp only [rootOf, hkept, hframe]

theorem WellFormed.rootOf_addSub {d : Scope} (h : s.WellFormed) (hd : s.holds d) :
    (s.addSub c).2.rootOf d = s.rootOf d :=
  h.rootOf_push hd _

theorem WellFormed.rootOf_addRoot {d : Scope} (h : s.WellFormed) (hd : s.holds d) (guild : Directory) :
    (s.addRoot guild).2.rootOf d = s.rootOf d :=
  h.rootOf_push hd _

theorem rootOf_addRoot_next (s : Store) (guild : Directory) :
    (s.addRoot guild).2.rootOf s.next = { guild } := by
  simp only [rootOf, root_addRoot_next, frame?_addRoot, if_true]

theorem WellFormed.rootOf_addSub_next (h : s.WellFormed) (hc : s.holds c) :
    (s.addSub c).2.rootOf s.next = s.rootOf c := by
  have hroot : (s.addSub c).2.root s.next = (s.addSub c).2.root c := by
    rw [root_addSub_next, root_addSub hc]
  rw [← h.rootOf_addSub (c := c) hc, rootOf, hroot, rootOf]

/-! ### Operations -/

/-- One operation on a store, on scopes that the store has. -/
inductive Change : Store → Store → Prop where
  | addRoot (s : Store) (guild : Directory) : Change s (s.addRoot guild).2
  | addSub (s : Store) (c : Scope) (h : s.holds c) : Change s (s.addSub c).2
  | set (s : Store) (c : Scope) (h : s.holds c) (name : String) (value : Option Value) :
      Change s (s.set c name value)

abbrev Reaches : Store → Store → Prop :=
  Relation.ReflTransGen Change

/-- A store that operations make out of the empty one. -/
def Reachable (s : Store) : Prop :=
  Store.empty.Reaches s

theorem Change.keeps (h : Change s t) : s.Keeps t := by
  cases h with
  | addRoot guild => exact Keeps.push s.frames _
  | addSub c hc => exact Keeps.push s.frames _
  | set c hc name value => exact Keeps.modifyRoot s c _

theorem Change.wellFormed (h : Change s t) (hs : s.WellFormed) : t.WellFormed := by
  cases h with
  | addRoot guild => exact hs.addRoot guild
  | addSub c hc => exact hs.addSub hc
  | set c hc name value => exact hs.set c name value

theorem Reaches.keeps (h : s.Reaches t) : s.Keeps t := by
  induction h with
  | refl => exact Keeps.refl s
  | tail _ step ih => exact ih.trans step.keeps

theorem Reaches.wellFormed (h : s.Reaches t) (hs : s.WellFormed) : t.WellFormed := by
  induction h with
  | refl => exact hs
  | tail _ step ih => exact step.wellFormed ih

theorem Reachable.wellFormed (h : s.Reachable) : s.WellFormed :=
  Reaches.wellFormed h WellFormed.empty

theorem Reaches.set (hc : s.holds c) (name : String) (value : Option Value) :
    s.Reaches (s.set c name value) :=
  .single (.set s c hc name value)

theorem Reaches.addSub (hc : s.holds c) : s.Reaches (s.addSub c).2 :=
  .single (.addSub s c hc)

theorem Reaches.holds (h : s.Reaches t) (hc : s.holds c) : t.holds c :=
  (h.keeps c hc).1

end Store

end Stencil
