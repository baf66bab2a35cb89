import Stencil.Library.Binding

/-!
# Builtins of a host

Beside the standard builtins a host may register its own. Those here repeat their arguments, fail on
purpose, or tell what a builtin can see of its call.
-/

namespace Stencil.Host

/-- `echo(text?)`: its first argument. -/
def echo : Library.Run := fun _ args =>
  return .text (args.positional.head?.getD "")

/-- `join(texts..., key=text...)`: its arguments with bars between them, then the named ones. -/
def join : Library.Run := fun _ args =>
  let named := args.named.entries.map fun (name, text) => ";" ++ name ++ "=" ++ text
  return .text ("|".intercalate args.positional ++ String.join named)

def fail : Library.Run := fun _ _ =>
  Act.raise (Fault.ofKind .noContent)

/-- `fail_named()`: a fault that names another builtin. -/
def failNamed : Library.Run := fun _ _ =>
  Act.raise ((Fault.ofKind .badIndex).raisedIn "inner")

def firstMember : Library.Run := fun site _ => do
  match ((← Action.store).guild site.scope).members with
  | m :: _ => return .member m
  | [] => Act.raise (Fault.ofKind .notFound)

def flagText (b : Bool) : String :=
  if b then "true" else "false"

def orDash (text : Option String) : String :=
  text.getD "-"

/-- What `probe` tells of a call without changing anything. -/
def observe (site : CallSite) (s : Store) (what name : String) : Option String :=
  match what with
  | "" | "bare" => some (flagText site.bare)
  | "store" => some (orDash site.into)
  | "is_root" => some (flagText (s.root site.scope == site.scope))
  | "get" | "arena_get" => some (orDash ((s.get? site.scope name).map Value.toText))
  | "members" => some (",".intercalate ((s.guild site.scope).members.map Member.tag))
  | "member" =>
    let found := (Library.readId name).toOption.bind (s.guild site.scope).byId?
    some (orDash (found.map Member.tag))
  | "named" => some (orDash (((s.guild site.scope).named? name).map Member.tag))
  | "legacy" => some (flagText (s.swapped site.scope))
  | _ => none

/-- `probe(what?, name?, text?)`: what a builtin sees of its call, or a change of a variable. -/
def probe : Library.Run := fun site args => do
  let what := args.positional[0]?.getD ""
  let name := args.positional[1]?.getD ""
  let text := args.positional[2]?.getD ""
  match what with
  | "set" =>
    Action.update (·.setText site.scope name text)
    return .text "set"
  | "unset" =>
    Action.update (·.set site.scope name none)
    return .text "unset"
  | _ =>
    match observe site (← Action.store) what name with
    | some answer => return .text answer
    | none => Act.raise (Fault.ofKind .invalidArguments)

def kinds : List (String × Builtin.Kind) :=
  [("echo", .simple echo), ("join", .simple join), ("fail", .simple fail),
   ("fail_named", .simple failNamed), ("first_member", .simple firstMember),
   ("probe", .simple probe), ("conditional", .conditional), ("iteration", .iteration)]

end Stencil.Host
