/-!
# Maps from names

Entries in increasing order of their names, each name once. Names are ordered by code point.
-/

namespace Stencil

/-- A map from names, as its entries in order. -/
structure NameMap (α : Type) where
  entries : List (String × α) := []
  deriving DecidableEq, Repr

namespace NameMap

variable {α : Type}

def empty : NameMap α := {}

def get? (m : NameMap α) (name : String) : Option α :=
  m.entries.lookup name

def contains (m : NameMap α) (name : String) : Bool :=
  (m.get? name).isSome

def insertEntry (name : String) (a : α) : List (String × α) → List (String × α)
  | [] => [(name, a)]
  | (k, b) :: rest =>
    if name < k then (name, a) :: (k, b) :: rest
    else if name = k then (name, a) :: rest
    else (k, b) :: insertEntry name a rest

def insert (m : NameMap α) (name : String) (a : α) : NameMap α :=
  ⟨insertEntry name a m.entries⟩

def erase (m : NameMap α) (name : String) : NameMap α :=
  ⟨m.entries.filter fun e => e.1 != name⟩

def names (m : NameMap α) : List String :=
  m.entries.map (·.1)

def size (m : NameMap α) : Nat :=
  m.entries.length

/-- The map with these entries; the last of several with one name counts. -/
def ofList (entries : List (String × α)) : NameMap α :=
  entries.foldl (fun m (name, a) => m.insert name a) empty

/-! ### What is under a name -/

theorem get?_empty (name : String) : (empty : NameMap α).get? name = none := rfl

theorem lookup_insertEntry (name : String) (a : α) (entries : List (String × α)) (other : String) :
    (insertEntry name a entries).lookup other =
      if other = name then some a else entries.lookup other := by
  induction entries with
  | nil => grind [insertEntry]
  | cons e rest ih => grind [insertEntry]

theorem get?_insert (m : NameMap α) (name : String) (a : α) (other : String) :
    (m.insert name a).get? other = if other = name then some a else m.get? other :=
  lookup_insertEntry name a m.entries other

theorem get?_erase (m : NameMap α) (name other : String) :
    (m.erase name).get? other = if other = name then none else m.get? other := by
  obtain ⟨entries⟩ := m
  simp only [get?, erase]
  induction entries with
  | nil => simp
  | cons e rest ih => grind

/-! ### The order of names -/

/-- Names once each, in increasing order. -/
def Sorted (m : NameMap α) : Prop :=
  m.entries.Pairwise fun a b => a.1 < b.1

theorem sorted_empty : (empty : NameMap α).Sorted := List.Pairwise.nil

theorem mem_insertEntry {name : String} {a : α} {entries : List (String × α)} {e : String × α}
    (h : e ∈ insertEntry name a entries) : e = (name, a) ∨ e ∈ entries := by
  induction entries with
  | nil => grind [insertEntry]
  | cons d rest ih => grind [insertEntry]

/-- A new entry goes to its place: what is before it is smaller, what is after it greater. -/
theorem pairwise_insertEntry (name : String) (a : α) {entries : List (String × α)}
    (h : entries.Pairwise fun a b => a.1 < b.1) :
    (insertEntry name a entries).Pairwise fun a b => a.1 < b.1 := by
  induction entries with
  | nil => simp [insertEntry]
  | cons e rest ih =>
    obtain ⟨first, later⟩ := List.pairwise_cons.1 h
    simp only [insertEntry]
    split
    · rename_i before
      refine List.pairwise_cons.2 ⟨fun d hd => ?_, h⟩
      rcases List.mem_cons.1 hd with rfl | hd
      · exact before
      · exact String.lt_trans before (first d hd)
    · split
      · rename_i _ same
        exact List.pairwise_cons.2 ⟨fun d hd => same ▸ first d hd, later⟩
      · rename_i notBefore different
        refine List.pairwise_cons.2 ⟨fun d hd => ?_, ih later⟩
        rcases mem_insertEntry hd with rfl | hd
        · exact Std.lt_of_le_of_ne (String.not_lt.1 notBefore) (Ne.symm different)
        · exact first d hd

theorem Sorted.insert {m : NameMap α} (h : m.Sorted) (name : String) (a : α) :
    (m.insert name a).Sorted :=
  pairwise_insertEntry name a h

theorem Sorted.erase {m : NameMap α} (h : m.Sorted) (name : String) : (m.erase name).Sorted :=
  List.Pairwise.filter _ h

end NameMap

end Stencil
