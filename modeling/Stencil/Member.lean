import Stencil.Fault
import Stencil.Text.Offsets

/-!
# Members and guilds

A guild is the member list of one chat server. Members are found by id, by their tag
`name#discriminator`, by nickname or by name. A directory is what a platform answers in place of a
member list.
-/

namespace Stencil

structure Member where
  id : UInt64
  name : String
  discriminator : String
  nick : Option String := none
  bot : Bool := false
  deriving DecidableEq, Repr

namespace Member

/-- The tag `name#discriminator`, which is how a member shows in output. -/
def tag (m : Member) : String :=
  m.name ++ "#" ++ m.discriminator

def displayName (m : Member) : String :=
  m.nick.getD m.name

def mention (m : Member) : String :=
  "<@" ++ toString m.id.toNat ++ ">"

def attr? (m : Member) : String → Option String
  | "id" => some (toString m.id.toNat)
  | "name" => some m.name
  | "discriminator" => some m.discriminator
  | "nick" => some (m.nick.getD "")
  | "display_name" => some m.displayName
  | "mention" => some m.mention
  | "bot" => some (if m.bot then "true" else "false")
  | _ => none

/-- The attribute at a path, blanks around it aside. Attributes have no attributes of their own, and
no attribute's name holds a point, so a path of several parts names nothing. -/
def attr (m : Member) (path : String) : Except Fault String :=
  match m.attr? (Text.trimmed path) with
  | some text => .ok text
  | none => .error { kind := .noAttribute, message := "has no attrs: " ++ path }

end Member

structure Guild where
  members : List Member := []
  deriving DecidableEq, Repr

namespace Guild

def byId? (g : Guild) (id : UInt64) : Option Member :=
  g.members.find? (·.id == id)

/-- The name and discriminator of a query with `#` as its fifth character from the end and at least
one character before it, cut by the offset of that `#`. The outer `none` stands for a cut that cannot
be made. -/
def splitTagByBytes? (query : List Char) : Option (Option (List Char × List Char)) := do
  let chars := Text.charOffsets 0 query
  if chars.length ≤ 5 then return none
  let (offset, hash) ← chars[chars.length - 5]?
  if hash ≠ '#' then return none
  let (name, _) ← Text.cutAfter? query offset
  let (_, discriminator) ← Text.cutAfter? query (offset + 1)
  return some (name, discriminator)

theorem splitTagByBytes?_of_short {query : List Char} (h : query.length ≤ 5) :
    splitTagByBytes? query = some none := by
  simp [splitTagByBytes?, Text.length_charOffsets, h]

theorem splitTagByBytes?_append {name discriminator : List Char} (c : Char) (hname : name ≠ [])
    (hfour : discriminator.length = 4) :
    splitTagByBytes? (name ++ c :: discriminator) =
      some (if c = '#' then some (name, discriminator) else none) := by
  have hpos : 0 < name.length := List.length_pos_iff.2 hname
  have hlength : (name ++ c :: discriminator).length = name.length + 5 := by simp [hfour]
  simp only [splitTagByBytes?, Text.length_charOffsets, hlength, if_neg (show ¬ name.length + 5 ≤ 5 by omega),
    Nat.add_sub_cancel, Text.getElem?_charOffsets, Nat.zero_add]
  by_cases hhash : c = '#'
  · subst hhash
    have hfirst := Text.cutAfter?_byteCount name ('#' :: discriminator)
    have hsecond := Text.cutAfter?_byteCount (name ++ ['#']) discriminator
    have hbytes : Text.byteCount (name ++ ['#']) = Text.byteCount name + 1 := Text.byteCount_append name ['#']
    rw [List.append_assoc, List.singleton_append, hbytes] at hsecond
    simp [hfirst, hsecond]
  · simp [hhash]

theorem exists_fifth_from_end {query : List Char} (h : 5 < query.length) :
    ∃ name c discriminator, query = name ++ c :: discriminator ∧ name ≠ [] ∧ discriminator.length = 4 := by
  have hdrop : (query.drop (query.length - 5)).length = 5 := by
    rw [List.length_drop]
    omega
  obtain ⟨c, discriminator, hcons⟩ := List.exists_cons_of_length_eq_add_one hdrop
  refine ⟨query.take (query.length - 5), c, discriminator, ?_, ?_, ?_⟩
  · rw [← hcons, List.take_append_drop]
  · intro hnil
    have htake := congrArg List.length hnil
    rw [List.length_take, List.length_nil] at htake
    omega
  · rw [hcons, List.length_cons] at hdrop
    omega

/- The offset of a character is never inside another one. -/
theorem isSome_splitTagByBytes? (query : List Char) : (splitTagByBytes? query).isSome := by
  by_cases hlong : 5 < query.length
  · obtain ⟨name, c, discriminator, rfl, hname, hfour⟩ := exists_fifth_from_end hlong
    rw [splitTagByBytes?_append c hname hfour]
    rfl
  · rw [splitTagByBytes?_of_short (Nat.not_lt.1 hlong)]
    rfl

def splitTag? (query : List Char) : Option (List Char × List Char) :=
  (splitTagByBytes? query).get (isSome_splitTagByBytes? query)

/-- The first member with this tag, if the query has the form of one. -/
def byTag? (g : Guild) (query : String) : Option Member :=
  match splitTag? query.toList with
  | some (name, discriminator) =>
    g.members.find? fun m => m.name.toList == name && m.discriminator.toList == discriminator
  | none => none

def byNickOrName? (g : Guild) (query : String) : Option Member :=
  g.members.find? fun m => m.nick == some query || m.name == query

/-- The member that a query means: by tag first, then by nickname or name. -/
def named? (g : Guild) (query : String) : Option Member :=
  (g.byTag? query).or (g.byNickOrName? query)

end Guild

/-- How the members of a chat server are looked up, as its platform answers. -/
structure Directory where
  members : List Member := []
  byId? : UInt64 → Option Member := fun _ => none
  named? : String → Option Member := fun _ => none

def Guild.directory (g : Guild) : Directory where
  members := g.members
  byId? := g.byId?
  named? := g.named?

/-- What a variable holds: text, or a member kept whole until it is written out. -/
inductive Value where
  | text (s : String)
  | member (m : Member)
  deriving DecidableEq, Repr

namespace Value

/-- Empty text counts as no value. -/
def isEmpty : Value → Bool
  | .text s => s.isEmpty
  | .member _ => false

def toText : Value → String
  | .text s => s
  | .member m => m.tag

end Value

end Stencil
