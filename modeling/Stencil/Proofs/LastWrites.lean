import Mathlib.Data.List.Basic
import Stencil.Proofs.Scopes

/-!
# A store remembers last writes

A history is what hosts have done with a store, the latest operation first. It tells by itself which Root
every scope has and what was last written under a name through the scopes of a Root. The store that the
operations make agrees with it: it is one map for each Root, from names to last writes.
-/

namespace Stencil

inductive Operation where
  | addRoot (guild : Directory)
  | addSub (parent : Scope)
  | set (scope : Scope) (name : String) (value : Option Value)
  | setText (scope : Scope) (name text : String)

namespace Operation

def apply : Operation → Store → Store
  | .addRoot guild, s => (s.addRoot guild).2
  | .addSub parent, s => (s.addSub parent).2
  | .set scope name value, s => s.set scope name value
  | .setText scope name text, s => s.setText scope name text

def addsScope : Operation → Bool
  | .addRoot _ | .addSub _ => true
  | .set _ _ _ | .setText _ _ _ => false

def through? : Operation → Option Scope
  | .addRoot _ => none
  | .addSub parent => some parent
  | .set scope _ _ | .setText scope _ _ => some scope

/-- The value that an operation writes under a name, through a scope with the given Root. -/
def writeTo (rootOf : Scope → Scope) (root : Scope) (name : String) : Operation → Option (Option Value)
  | .set scope other value => if rootOf scope = root ∧ other = name then some value else none
  | .setText scope other text =>
    if rootOf scope = root ∧ other = name then some (some (.text text)) else none
  | .addRoot _ | .addSub _ => none

end Operation

/-- Operations on a store, the latest first. -/
abbrev History := List Operation

namespace History

def store (h : History) : Store :=
  h.foldr Operation.apply .empty

def scopes (h : History) : Nat :=
  h.countP Operation.addsScope

/-- Every operation is done through a scope that was added before. -/
def legal : History → Bool
  | [] => true
  | op :: earlier => op.through?.all (·.index < scopes earlier) && legal earlier

/-- The Root of a scope: a Sub has that of the scope it was made for. -/
def root : History → Scope → Scope
  | [], c => c
  | .addSub parent :: earlier, c =>
    if c.index = scopes earlier then root earlier parent else root earlier c
  | _ :: earlier, c => root earlier c

/-- What was last written under a name through any scope that shares the Root of a scope. -/
def lastWrite (h : History) (c : Scope) (name : String) : Option (Option Value) :=
  h.findSome? (Operation.writeTo (root h) (root h c) name)

/-- What stays of a write: neither no value nor empty text is kept. -/
def kept (write : Option (Option Value)) : Option Value :=
  write.join.filter fun v => !v.isEmpty

variable {h earlier : History} {op : Operation} {c d : Scope} {name : String}

theorem legal_cons : legal (op :: earlier) = true ↔
    (∀ c, op.through? = some c → c.index < scopes earlier) ∧ legal earlier = true := by
  simp only [legal, Bool.and_eq_true]
  cases op.through? <;> simp

theorem scopes_cons_of_adds (hop : op.addsScope = true) : scopes (op :: earlier) = scopes earlier + 1 := by
  simp only [scopes, List.countP_cons, hop, if_true]

theorem scopes_le_cons : scopes earlier ≤ scopes (op :: earlier) := by
  simp only [scopes, List.countP_cons]
  omega

theorem through_lt (hl : legal h = true) (hop : op ∈ h) (hc : op.through? = some c) :
    c.index < scopes h := by
  induction h with
  | nil => cases hop
  | cons latest earlier ih =>
    obtain ⟨hlatest, hearlier⟩ := legal_cons.1 hl
    have hmore : scopes earlier ≤ scopes (latest :: earlier) := scopes_le_cons
    rcases List.mem_cons.1 hop with rfl | hop
    · have hlt := hlatest c hc
      omega
    · have hlt := ih hearlier hop
      omega

/- A scope that is still to be added has no Root but itself. -/
theorem root_of_scopes_le (hc : scopes h ≤ c.index) : root h c = c := by
  induction h with
  | nil => rfl
  | cons op earlier ih =>
    have hearlier : scopes earlier ≤ c.index := Nat.le_trans scopes_le_cons hc
    cases op with
    | addSub parent =>
      have hne : c.index ≠ scopes earlier := by
        rw [scopes_cons_of_adds rfl] at hc
        omega
      rw [root, if_neg hne]
      exact ih hearlier
    | addRoot guild => exact ih hearlier
    | set scope name value => exact ih hearlier
    | setText scope name text => exact ih hearlier

theorem root_cons_of_lt (hc : c.index < scopes h) : root (op :: h) c = root h c := by
  cases op with
  | addSub parent => rw [root, if_neg (Nat.ne_of_lt hc)]
  | addRoot guild => rfl
  | set scope name value => rfl
  | setText scope name text => rfl

theorem root_addSub_new {parent : Scope} (hc : c.index = scopes h) :
    root (.addSub parent :: h) c = root h parent := by
  rw [root, if_pos hc]

theorem root_lt (hl : legal h = true) (hc : c.index < scopes h) : (root h c).index < scopes h := by
  induction h generalizing c with
  | nil => exact absurd hc (Nat.not_lt_zero _)
  | cons op earlier ih =>
    obtain ⟨hop, hearlier⟩ := legal_cons.1 hl
    have hmore : scopes earlier ≤ scopes (op :: earlier) := scopes_le_cons
    by_cases hold : c.index < scopes earlier
    · rw [root_cons_of_lt hold]
      have hlt := ih hearlier hold
      omega
    · cases op with
      | addSub parent =>
        have hnew : c.index = scopes earlier := by
          rw [scopes_cons_of_adds rfl] at hc
          omega
        rw [root_addSub_new hnew]
        have hlt := ih hearlier (hop parent rfl)
        omega
      | addRoot guild =>
        have hself : root earlier c = c := root_of_scopes_le (by omega)
        show (root earlier c).index < scopes (.addRoot guild :: earlier)
        rw [hself]
        exact hc
      | set scope name value => exact absurd hc hold
      | setText scope name text => exact absurd hc hold

/-! ### Last writes -/

theorem writeTo_congr {f g : Scope → Scope} (hfg : ∀ c, op.through? = some c → f c = g c) (r : Scope)
    (name : String) : op.writeTo f r name = op.writeTo g r name := by
  cases op with
  | addRoot guild => rfl
  | addSub parent => rfl
  | set scope other value => simp only [Operation.writeTo, hfg scope rfl]
  | setText scope other text => simp only [Operation.writeTo, hfg scope rfl]

/- Earlier operations were done through earlier scopes, whose Roots are what they were. -/
theorem findSome?_root_cons (hl : legal h = true) (r : Scope) (name : String) :
    h.findSome? (Operation.writeTo (root (op :: h)) r name) =
      h.findSome? (Operation.writeTo (root h) r name) := by
  rw [← List.head?_filterMap, ← List.head?_filterMap]
  refine congrArg List.head? (List.filterMap_congr fun past hpast => ?_)
  exact writeTo_congr (fun c hc => root_cons_of_lt (through_lt hl hpast hc)) r name

theorem lastWrite_of_adds (hl : legal h = true) (hop : op.addsScope = true) (hc : root (op :: h) c = root h d)
    (name : String) : lastWrite (op :: h) c name = lastWrite h d name := by
  have hwrite : ∀ f r, op.writeTo f r name = none := by
    intro f r
    cases op with
    | addRoot guild => rfl
    | addSub parent => rfl
    | set scope other value => cases hop
    | setText scope other text => cases hop
  rw [lastWrite, List.findSome?_cons, hwrite, findSome?_root_cons hl, hc]
  rfl

theorem lastWrite_of_new (hl : legal h = true) (hc : scopes h ≤ c.index) (name : String) :
    lastWrite h c name = none := by
  have hself : root h c = c := root_of_scopes_le hc
  refine List.findSome?_eq_none_iff.2 fun past hpast => ?_
  have hother : ∀ d, past.through? = some d → root h d ≠ root h c := by
    intro d hd heq
    have hlt := root_lt hl (through_lt hl hpast hd)
    rw [heq, hself] at hlt
    omega
  cases past with
  | addRoot guild => rfl
  | addSub parent => rfl
  | set scope other value => exact if_neg fun hboth => hother scope rfl hboth.1
  | setText scope other text => exact if_neg fun hboth => hother scope rfl hboth.1

theorem lastWrite_set (value : Option Value) (other : String) :
    lastWrite (.set d name value :: h) c other =
      if root h d = root h c ∧ name = other then some value else lastWrite h c other := by
  have hroot : root (.set d name value :: h) = root h := rfl
  by_cases hboth : root h d = root h c ∧ name = other
  · have hwrite : Operation.writeTo (root h) (root h c) other (.set d name value) = some value :=
      if_pos hboth
    rw [lastWrite, hroot, List.findSome?_cons, hwrite, if_pos hboth]
  · have hwrite : Operation.writeTo (root h) (root h c) other (.set d name value) = none := if_neg hboth
    rw [lastWrite, hroot, List.findSome?_cons, hwrite, if_neg hboth]
    rfl

end History

/-! ### The store and its history -/

open History

/-- A Root owns what stays of last writes. -/
structure Root.Reflects (r : Root) (last : String → Option (Option Value)) : Prop where
  get? : ∀ name, name ≠ replaceOrderVariable → r.table.get? name = kept (last name)
  swapped : r.swapped = (kept (last replaceOrderVariable)).isSome

theorem Root.reflects_new (guild : Directory) : Root.Reflects { guild } fun _ => none where
  get? name _ := NameMap.get?_empty name
  swapped := rfl

theorem Root.Reflects.set {r : Root} {last : String → Option (Option Value)} (h : r.Reflects last)
    (name : String) (value : Option Value) :
    (r.set name value).Reflects fun other => if name = other then some value else last other := by
  by_cases hname : name = replaceOrderVariable
  · have hset : r.set name value = { r with swapped := value.any fun v => !v.isEmpty } := if_pos hname
    rw [hset]
    refine ⟨fun other hother => ?_, ?_⟩
    · have hne : name ≠ other := by
        rw [hname]
        exact Ne.symm hother
      rw [if_neg hne]
      exact h.get? other hother
    · rw [if_pos hname]
      cases value with
      | none => rfl
      | some v => cases hv : v.isEmpty <;> simp [kept, Option.filter, hv]
  · refine ⟨fun other hother => ?_, ?_⟩
    · rw [Root.get?_set r hname]
      by_cases heq : name = other
      · rw [if_pos heq, if_pos heq.symm]
        rfl
      · rw [if_neg heq, if_neg (Ne.symm heq)]
        exact h.get? other hother
    · rw [Root.swapped_set r hname, if_neg hname]
      exact h.swapped

/-- A store agrees with a history: it has the scopes that the history adds, with the Roots that the history
gives them, and every scope sees what stays of last writes. -/
structure Store.Remembers (s : Store) (h : History) : Prop where
  wellFormed : s.WellFormed
  size : s.frames.size = scopes h
  root : ∀ c : Scope, c.index < scopes h → s.root c = History.root h c
  reflects : ∀ c : Scope, c.index < scopes h → (s.rootOf c).Reflects (lastWrite h c)

namespace Store.Remembers

variable {s : Store} {h : History} {c : Scope}

theorem holds_iff (hs : s.Remembers h) : s.holds c = true ↔ c.index < scopes h := by
  rw [holds, decide_eq_true_eq, hs.size]

theorem index_next (hs : s.Remembers h) : s.next.index = scopes h := hs.size

theorem empty : Store.empty.Remembers [] where
  wellFormed := .empty
  size := rfl
  root _ hc := absurd hc (Nat.not_lt_zero _)
  reflects _ hc := absurd hc (Nat.not_lt_zero _)

/- A scope of the longer history is the new one or one of before. -/
theorem eq_next_of_not_lt (hs : s.Remembers h) {op : Operation} (hop : op.addsScope = true)
    (hc : c.index < scopes (op :: h)) (hn : ¬ c.index < scopes h) : c = s.next := by
  obtain ⟨i⟩ := c
  rw [scopes_cons_of_adds hop] at hc
  simp only [next, hs.size, Scope.mk.injEq]
  simp only at hc hn
  omega

theorem addRoot (hs : s.Remembers h) (hl : legal h = true) (guild : Directory) :
    (s.addRoot guild).2.Remembers (.addRoot guild :: h) where
  wellFormed := hs.wellFormed.addRoot guild
  size := by rw [size_addRoot, hs.size, scopes_cons_of_adds rfl]
  root c hc := by
    by_cases hold : c.index < scopes h
    · rw [root_addRoot (hs.holds_iff.2 hold), root_cons_of_lt hold]
      exact hs.root c hold
    · rw [hs.eq_next_of_not_lt rfl hc hold, root_addRoot_next]
      exact (root_of_scopes_le (Nat.le_of_eq hs.index_next.symm)).symm
  reflects c hc := by
    by_cases hold : c.index < scopes h
    · have hlast : lastWrite (.addRoot guild :: h) c = lastWrite h c :=
        funext fun name => lastWrite_of_adds hl rfl (root_cons_of_lt hold) name
      rw [hs.wellFormed.rootOf_addRoot (hs.holds_iff.2 hold), hlast]
      exact hs.reflects c hold
    · have hlast : lastWrite (.addRoot guild :: h) c = fun _ => none := by
        funext name
        rw [lastWrite_of_adds (d := c) hl rfl rfl]
        exact lastWrite_of_new hl (Nat.le_of_not_lt hold) name
      rw [hlast, hs.eq_next_of_not_lt rfl hc hold, rootOf_addRoot_next]
      exact Root.reflects_new guild

theorem addSub (hs : s.Remembers h) (hl : legal h = true) {parent : Scope} (hp : parent.index < scopes h) :
    (s.addSub parent).2.Remembers (.addSub parent :: h) where
  wellFormed := hs.wellFormed.addSub (hs.holds_iff.2 hp)
  size := by rw [size_addSub, hs.size, scopes_cons_of_adds rfl]
  root c hc := by
    by_cases hold : c.index < scopes h
    · rw [root_addSub (hs.holds_iff.2 hold), root_cons_of_lt hold]
      exact hs.root c hold
    · rw [hs.eq_next_of_not_lt rfl hc hold, root_addSub_next, root_addSub_new hs.index_next]
      exact hs.root parent hp
  reflects c hc := by
    by_cases hold : c.index < scopes h
    · have hlast : lastWrite (.addSub parent :: h) c = lastWrite h c :=
        funext fun name => lastWrite_of_adds hl rfl (root_cons_of_lt hold) name
      rw [hs.wellFormed.rootOf_addSub (hs.holds_iff.2 hold), hlast]
      exact hs.reflects c hold
    · rw [hs.eq_next_of_not_lt rfl hc hold]
      have hlast : lastWrite (.addSub parent :: h) s.next = lastWrite h parent :=
        funext fun name => lastWrite_of_adds hl rfl (root_addSub_new hs.index_next) name
      rw [hs.wellFormed.rootOf_addSub_next (hs.holds_iff.2 hp), hlast]
      exact hs.reflects parent hp

theorem set (hs : s.Remembers h) {d : Scope} (hd : d.index < scopes h) (name : String)
    (value : Option Value) : (s.set d name value).Remembers (.set d name value :: h) where
  wellFormed := hs.wellFormed.set d name value
  size := by
    rw [size_set]
    exact hs.size
  root c hc := by
    rw [root_set]
    exact hs.root c hc
  reflects c hc := by
    have hold : c.index < scopes h := hc
    have hshared : s.root c = s.root d ↔ History.root h d = History.root h c := by
      rw [hs.root c hold, hs.root d hd]
      exact eq_comm
    rw [hs.wellFormed.rootOf_set (hs.holds_iff.2 hd)]
    by_cases hroot : History.root h d = History.root h c
    · have hlast : lastWrite (.set d name value :: h) c =
          fun other => if name = other then some value else lastWrite h c other := by
        funext other
        rw [lastWrite_set]
        simp only [hroot, true_and]
      rw [if_pos (hshared.2 hroot), hlast]
      exact (hs.reflects c hold).set name value
    · have hlast : lastWrite (.set d name value :: h) c = lastWrite h c := by
        funext other
        rw [lastWrite_set, if_neg fun hboth => hroot hboth.1]
      rw [if_neg fun heq => hroot (hshared.1 heq), hlast]
      exact hs.reflects c hold

theorem step (hs : s.Remembers h) {op : Operation} (hl : legal (op :: h) = true) :
    (op.apply s).Remembers (op :: h) := by
  obtain ⟨hop, hlegal⟩ := legal_cons.1 hl
  cases op with
  | addRoot guild => exact hs.addRoot hlegal guild
  | addSub parent => exact hs.addSub hlegal (hop parent rfl)
  | set d name value => exact hs.set (hop d rfl) name value
  | setText d name text =>
    -- a text is written as any other value is, in the store and in the history
    have hset := hs.set (hop d rfl) name (some (.text text))
    exact ⟨hset.wellFormed, hset.size, hset.root, hset.reflects⟩

end Store.Remembers

/-! ### What is read -/

theorem Value.isEmpty_eq_false_iff {v : Value} : v.isEmpty = false ↔ v ≠ .text "" := by
  cases v with
  | text s =>
    rw [isEmpty, Ne, Value.text.injEq, ← Bool.not_eq_true, String.isEmpty_iff]
  | member m => simp [isEmpty]

namespace NameMap

variable {α : Type} {m : NameMap α}

theorem Sorted.mem_entries_iff (h : m.Sorted) {name : String} {a : α} :
    (name, a) ∈ m.entries ↔ m.get? name = some a := by
  obtain ⟨entries⟩ := m
  simp only [Sorted, get?] at h ⊢
  induction entries with
  | nil => simp
  | cons e rest ih =>
    obtain ⟨hfirst, hrest⟩ := List.pairwise_cons.1 h
    by_cases hname : name = e.1
    · obtain ⟨k, b⟩ := e
      obtain rfl : name = k := hname
      -- later entries have greater names, so that the first one is the only one
      have hlater : (name, a) ∉ rest := fun hmem => String.lt_irrefl name (hfirst _ hmem)
      rw [List.lookup_cons_self, List.mem_cons, or_iff_left hlater, Prod.mk.injEq, Option.some.injEq]
      simp only [true_and, eq_comm]
    · have hbeq : (name == e.1) = false := by simpa using hname
      rw [List.lookup_cons, hbeq, List.mem_cons, ih hrest]
      refine or_iff_right fun heq => hname ?_
      rw [← heq]

theorem Sorted.mem_names_iff (h : m.Sorted) {name : String} :
    name ∈ m.names ↔ (m.get? name).isSome = true := by
  rw [Option.isSome_iff_exists]
  constructor
  · intro hmem
    obtain ⟨⟨k, a⟩, he, rfl⟩ := List.mem_map.1 hmem
    exact ⟨a, h.mem_entries_iff.1 he⟩
  · rintro ⟨a, ha⟩
    exact List.mem_map.2 ⟨(name, a), h.mem_entries_iff.2 ha, rfl⟩

end NameMap

namespace History

theorem remembers {h : History} (hl : legal h = true) : (store h).Remembers h := by
  induction h with
  | nil => exact .empty
  | cons op earlier ih => exact (ih (legal_cons.1 hl).2).step hl

theorem kept_eq_some_iff {write : Option (Option Value)} {v : Value} :
    kept write = some v ↔ write = some (some v) ∧ v ≠ .text "" := by
  rw [kept, Option.filter_eq_some_iff, Option.join_eq_some_iff, ← Value.isEmpty_eq_false_iff,
    Bool.not_eq_true']

/-- A store is one map for each Root, from names to what was last written through any scope with that Root.
A name is unbound where there was no write, or one without a value or with empty text; the name that orders
the arguments of `rep` is never bound, and its last write says what the order is. The table that a scope
sees lists the bound names in order, each once, with their values. -/
theorem store_remembers_last_writes (h : History) (hl : legal h = true) (c : Scope)
    (hc : c.index < scopes h) :
    (store h).root c = root h c ∧
    (∀ name v, (store h).get? c name = some v ↔
      name ≠ replaceOrderVariable ∧ lastWrite h c name = some (some v) ∧ v ≠ .text "") ∧
    ((store h).swapped c = true ↔
      ∃ v, lastWrite h c replaceOrderVariable = some (some v) ∧ v ≠ .text "") ∧
    ((store h).table c).names.Pairwise (· < ·) ∧
    (∀ name, name ∈ ((store h).table c).names ↔ ((store h).get? c name).isSome = true) ∧
    (∀ name v, (name, v) ∈ ((store h).table c).entries ↔ (store h).get? c name = some v) := by
  have hs := remembers hl
  have hreflects := hs.reflects c hc
  have hproper : ((store h).table c).Proper := hs.wellFormed.proper_rootOf (hs.holds_iff.2 hc)
  refine ⟨hs.root c hc, fun name v => ?_, ?_, List.pairwise_map.2 hproper.sorted,
    fun name => hproper.sorted.mem_names_iff, fun name v => hproper.sorted.mem_entries_iff⟩
  · rw [← kept_eq_some_iff, Store.get?_eq]
    constructor
    · intro hv
      have hname : name ≠ replaceOrderVariable :=
        hproper.unreserved (name, v) (hproper.sorted.mem_entries_iff.2 hv)
      rw [hreflects.get? name hname] at hv
      exact ⟨hname, hv⟩
    · rintro ⟨hname, hv⟩
      rw [hreflects.get? name hname]
      exact hv
  · have hswapped : (store h).swapped c = (kept (lastWrite h c replaceOrderVariable)).isSome :=
      hreflects.swapped
    rw [hswapped, Option.isSome_iff_exists]
    exact exists_congr fun v => kept_eq_some_iff

/-- Two Roots, one of them with a Sub of a Sub. A member written through the last Sub is seen by its Root,
empty text through it unbinds, and a member as the value of `newrep` counts as one. -/
theorem store_remembers_last_writes_mixed :
    let ada : Value := .member { id := 7, name := "ada", discriminator := "0001" }
    let made : History := [.addSub ⟨1⟩, .addRoot {}, .addSub ⟨0⟩, .addRoot {}]
    let h : History := [.setText ⟨3⟩ "y" "", .set ⟨1⟩ "newrep" (some ada), .setText ⟨2⟩ "newrep" "on",
      .set ⟨2⟩ "newrep" none, .setText ⟨2⟩ "x" "b", .set ⟨3⟩ "x" (some ada), .setText ⟨0⟩ "x" "a",
      .setText ⟨1⟩ "y" "1"] ++ made
    legal h = true ∧ (store h).root ⟨3⟩ = ⟨0⟩ ∧ (store h).get? ⟨0⟩ "x" = some ada ∧
      (store h).get? ⟨2⟩ "x" = some (.text "b") ∧ (store h).get? ⟨0⟩ "y" ≠ some (.text "1") ∧
      (store h).swapped ⟨3⟩ = true ∧ "x" ∈ ((store h).table ⟨1⟩).names ∧
      "newrep" ∉ ((store h).table ⟨1⟩).names := by
  intro ada made h
  have hl : legal h = true := by decide
  obtain ⟨-, hget₀, -, -, -, -⟩ := store_remembers_last_writes h hl ⟨0⟩ (by decide)
  obtain ⟨-, hget₁, -, -, hnames, -⟩ := store_remembers_last_writes h hl ⟨1⟩ (by decide)
  obtain ⟨-, hget₂, -, -, -, -⟩ := store_remembers_last_writes h hl ⟨2⟩ (by decide)
  obtain ⟨hroot, -, hswapped, -, -, -⟩ := store_remembers_last_writes h hl ⟨3⟩ (by decide)
  refine ⟨hl, hroot, (hget₀ "x" ada).2 ⟨by decide, by decide, by decide⟩,
    (hget₂ "x" (.text "b")).2 ⟨by decide, by decide, by decide⟩, fun hy => ?_,
    hswapped.2 ⟨ada, by decide, by decide⟩, ?_, fun hmem => ?_⟩
  · exact absurd ((hget₀ "y" (.text "1")).1 hy).2.1 (by decide)
  · rw [hnames, (hget₁ "x" ada).2 ⟨by decide, by decide, by decide⟩]
    rfl
  · obtain ⟨v, hv⟩ := Option.isSome_iff_exists.1 ((hnames "newrep").1 hmem)
    exact ((hget₁ "newrep" v).1 hv).1 rfl

end History

end Stencil
