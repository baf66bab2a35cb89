import Stencil.Json.Basic
import Stencil.Limits
import Stencil.Member

/-!
# Guilds, limits and reports as JSON

Each kind of record has a reader and a writer. Written records are compact, with their fields in a
fixed order; what is not there is left out, or written as `null` where limits say so.
-/

namespace Stencil.Json

/-! ### Writing -/

def writtenChar (c : Char) : List Char :=
  if c = '"' then ['\\', '"']
  else if c = '\\' then ['\\', '\\']
  else if c = '\n' then ['\\', 'n']
  else if c = '\r' then ['\\', 'r']
  else if c = '\t' then ['\\', 't']
  else if c.toNat = 8 then ['\\', 'b']
  else if c.toNat = 12 then ['\\', 'f']
  else if c.toNat < 0x20 then
    ['\\', 'u', '0', '0', Nat.digitChar (c.toNat / 16), Nat.digitChar (c.toNat % 16)]
  else [c]

def writeString (s : String) : List Char :=
  '"' :: s.toList.flatMap writtenChar ++ ['"']

def writeNat (n : Nat) : List Char :=
  Nat.toDigits 10 n

def writeBool (b : Bool) : List Char :=
  if b then "true".toList else "false".toList

def writeJoined : List (List Char) → List Char
  | [] => []
  | [a] => a
  | a :: rest => a ++ ',' :: writeJoined rest

def writeList (values : List (List Char)) : List Char :=
  '[' :: writeJoined values ++ [']']

def writeEntry (name : String) (value : List Char) : List Char :=
  writeString name ++ ':' :: value

def writeObject (entries : List (List Char)) : List Char :=
  '{' :: writeJoined entries ++ ['}']

/-- A written entry that is left out if there is no value. -/
def optionalEntry (name : String) (value : Option String) : List (List Char) :=
  (value.map fun s => writeEntry name (writeString s)).toList

/-! ### Members and guilds -/

/-- What is read of a member so far. -/
structure MemberDraft where
  id : Option UInt64 := none
  name : Option String := none
  discriminator : Option String := none
  nick : Option (Option String) := none
  bot : Option Bool := none

def into {σ α : Type} (read : Reader α) (store : α → σ) : Reader σ := fun cs =>
  (read cs).map fun (a, rest) => (store a, rest)

def memberFields : List (Field MemberDraft) :=
  [{ name := "id", given := (·.id.isSome), inObject := true, inList := true,
     read := fun d => into (readUnsigned "u64") fun a => { d with id := some a } },
   { name := "name", given := (·.name.isSome), inObject := true, inList := true,
     read := fun d => into (readString "a string") fun a => { d with name := some a } },
   { name := "discriminator", given := (·.discriminator.isSome), inObject := true, inList := true,
     read := fun d => into (readString "a string") fun a => { d with discriminator := some a } },
   { name := "nick", given := (·.nick.isSome), inObject := false, inList := false,
     read := fun d => into (readOption (readString "a string")) fun a => { d with nick := some a } },
   { name := "bot", given := (·.bot.isSome), inObject := false, inList := false,
     read := fun d => into readBool fun a => { d with bot := some a } }]

def MemberDraft.member (d : MemberDraft) : Member :=
  { id := d.id.getD 0, name := d.name.getD "", discriminator := d.discriminator.getD "",
    nick := d.nick.getD none, bot := d.bot.getD false }

def readMember : Reader Member :=
  into (readRecord "struct Member" memberFields {}) MemberDraft.member

def writeMember (m : Member) : List Char :=
  writeObject
    ([writeEntry "id" (writeNat m.id.toNat), writeEntry "name" (writeString m.name),
      writeEntry "discriminator" (writeString m.discriminator)]
      ++ optionalEntry "nick" m.nick ++ [writeEntry "bot" (writeBool m.bot)])

def guildFields : List (Field (Option (List Member))) :=
  [{ name := "members", given := (·.isSome), inObject := true, inList := true,
     read := fun _ => into (readList readMember) some }]

def readGuild : Reader Guild :=
  into (readRecord "struct StaticGuild" guildFields none) fun members => ⟨members.getD []⟩

def writeGuild (g : Guild) : List Char :=
  writeObject [writeEntry "members" (writeList (g.members.map writeMember))]

/-! ### Limits -/

structure LimitsDraft where
  gas : Option UInt64 := none
  output : Option (Option UInt64) := none

/-- The fields of limits; none has to be there. -/
def limitsFields : List (Field LimitsDraft) :=
  [{ name := "gas_limit", given := (·.gas.isSome), inObject := false, inList := false,
     read := fun d => into (readUnsigned "u64") fun a => { d with gas := some a } },
   { name := "max_output_len", given := (·.output.isSome), inObject := false, inList := false,
     read := fun d => into (readOption (readUnsigned "usize")) fun a => { d with output := some a } }]

/-- Limits; what is not given is as by default. -/
def readLimits : Reader Limits :=
  into (readRecord "struct EvalConfig" limitsFields {}) fun d =>
    { gas := d.gas.getD ({} : Limits).gas, output := d.output.getD none }

def writeLimits (l : Limits) : List Char :=
  writeObject
    [writeEntry "gas_limit" (writeNat l.gas.toNat),
     writeEntry "max_output_len" (l.output.elim "null".toList fun n => writeNat n.toNat)]

/-! ### Reports -/

/-- The kind with a name; an unknown name is answered by the list of all. -/
def kindNamed (name : List Char) : Except Fault Stencil.Fault.Kind :=
  match Stencil.Fault.Kind.ofName? (String.ofList name) with
  | some k => .ok k
  | none =>
    let all := Stencil.Fault.Kind.all.map fun k => "`" ++ k.name ++ "`"
    .error (.mismatch ("unknown variant `" ++ String.ofList name ++ "`, expected one of "
      ++ ", ".intercalate all))

/-- A kind: its name, or an object with the name and `null`. -/
def readKind : Reader Stencil.Fault.Kind := fun text =>
  match skipBlanks text with
  | '"' :: rest => do
    let (name, after) ← readChars rest
    return (← kindNamed name, after)
  | '{' :: rest => do
    match skipBlanks rest with
    | '"' :: body =>
      let (name, afterName) ← readChars body
      let kind ← kindNamed name
      match skipBlanks (← readMark ':' afterName) with
      | 'n' :: value => return (kind, ← readMark '}' (← readWord "ull".toList value))
      | cs => unexpected "unit" cs
    | cs => unexpected "variant identifier" cs
  | _ => .error .malformed

structure ReportDraft where
  kind : Option Stencil.Fault.Kind := none
  source : Option (Option String) := none
  message : Option String := none
  cause : Option (Option String) := none

def reportFields : List (Field ReportDraft) :=
  [{ name := "kind", given := (·.kind.isSome), inObject := true, inList := true,
     read := fun d => into readKind fun a => { d with kind := some a } },
   { name := "source_function", given := (·.source.isSome), inObject := false, inList := true,
     read := fun d => into (readOption (readString "a string")) fun a => { d with source := some a } },
   { name := "message", given := (·.message.isSome), inObject := true, inList := true,
     read := fun d => into (readString "a string") fun a => { d with message := some a } },
   { name := "cause", given := (·.cause.isSome), inObject := false, inList := true,
     read := fun d => into (readOption (readString "a string")) fun a => { d with cause := some a } }]

def readReport : Reader Report :=
  into (readRecord "struct ErrorReport" reportFields {}) fun d =>
    { kind := d.kind.getD .invalidArgument, source := d.source.getD none,
      message := d.message.getD "", cause := d.cause.getD none }

def writeReport (r : Report) : List Char :=
  writeObject
    ([writeEntry "kind" (writeString r.kind.name)] ++ optionalEntry "source_function" r.source
      ++ [writeEntry "message" (writeString r.message)] ++ optionalEntry "cause" r.cause)

/-! ### Whole texts -/

def parseGuild (text : String) : Except Fault Guild := readAll readGuild text

def parseLimits (text : String) : Except Fault Limits := readAll readLimits text

def parseReport (text : String) : Except Fault Report := readAll readReport text

end Stencil.Json
