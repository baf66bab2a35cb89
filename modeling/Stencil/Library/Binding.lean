import Stencil.Library.Wording

/-!
# Builtins on variables and members
-/

namespace Stencil.Library

/-- `set(name, value?)`: binds a text; no value and empty text unbind. -/
def set : Run := fun site args => do
  Act.ofExcept (args.atMost 2)
  let name ← Act.ofExcept (args.require 0 "name")
  if Text.isBlankText name.toList then
    Act.raise (Arguments.invalid "no name")
  else
    Action.update (·.set site.scope name ((args.get? 1 "value").map .text))
    return .text ""

/-- Binds the pieces to a name followed by their number, the first of them having this number. -/
def bindPieces (scope : Scope) (name : String) : (number : Nat) → List (List Char) → Store → Store
  | _, [], s => s
  | n, piece :: rest, s =>
    bindPieces scope name (n + 1) rest (s.setText scope (name ++ toString n) (String.ofList piece))

/-- `split(prefix, content, sep?)`: binds the pieces of a text and gives their number. -/
def split : Run := fun site args => do
  Act.ofExcept (args.atMost 3)
  let name ← Act.ofExcept (args.require 0 "prefix")
  let content ← Act.ofExcept (args.require 1 "content")
  let sep := (args.get? 2 "sep").getD ","
  if sep.isEmpty then
    Act.raise (Arguments.invalid "empty separator")
  else
    let pieces := Text.split sep.toList content.toList
    Action.update (bindPieces site.scope name 1 pieces)
    return .text (toString pieces.length)

/-- A member as a whole, or one attribute of it if one is named. -/
def project (m : Member) (path : Option String) : Except Fault Value :=
  match path.map Text.trimmed with
  | some name => if name.isEmpty then .ok (.member m) else (m.attr name).map .text
  | none => .ok (.member m)

/-- `user(attrs?)`: a random member. -/
def user : Run := fun site args => do
  Act.ofExcept (args.atMost 1)
  let members := ((← Action.store).guild site.scope).members
  if members.isEmpty then
    Act.raise { kind := .notFound, message := "no members" }
  else
    let d ← Action.draw
    match members[d.index members.length]? with
    | some m => Act.ofExcept (project m (args.get? 0 "attrs"))
    | none => Act.raise { kind := .notFound, message := "no members" }

def readId (text : String) : Except Fault UInt64 :=
  match Number.readInteger Number.unsigned64 (Text.trim text.toList) with
  | .ok n => .ok (UInt64.ofNat n.toNat)
  | .error e => .error ((Arguments.invalid "no id").causedBy (.integer e))

/-- `nameof(id, attrs?)`: the tag of a member, or an attribute of it. -/
def nameof : Run := fun site args => do
  Act.ofExcept (args.atMost 2)
  let id ← Act.ofExcept ((args.require 0 "id").bind readId)
  match ((← Action.store).guild site.scope).byId? id with
  | some m => return .text (← Act.ofExcept (project m (args.get? 1 "attrs"))).toText
  | none => Act.raise (Fault.ofKind .notFound)

/-- `member(key, name)`: binds a member found by name. -/
def member : Run := fun site args => do
  Act.ofExcept (args.atMost 2)
  let key ← Act.ofExcept (args.require 0 "key")
  let name ← Act.ofExcept (args.require 1 "name")
  match ((← Action.store).guild site.scope).named? name with
  | some m =>
    Action.update (·.set site.scope key (some (.member m)))
    return .text ""
  | none => Act.raise (Fault.ofKind .notFound)

end Stencil.Library
