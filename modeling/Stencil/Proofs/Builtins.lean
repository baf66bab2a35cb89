import Stencil.Library.Standard
import Stencil.Proofs.Loops

/-!
# What builtins can do

A builtin sees the Root of the scope it is called in, sets variables there, draws and reads the clock.
`Action.Local` has a rule for each of these; the standard builtins are put together from them
(`Library.standard_isLocal`), and so is a call of one under its capabilities.
-/

namespace Stencil

/-- Actions that reach the store through a scope only, each a function of that scope. -/
inductive Action.Local : {α : Type} → (Scope → Action α) → Prop where
  | pure {α : Type} (a : α) : Local fun _ => pure a
  | fail {α : Type} (e : Failure) : Local fun _ => (EStateM.throw e : Action α)
  | bind {α β : Type} {x : Scope → Action α} {f : α → Scope → Action β} :
      Local x → (∀ a, Local (f a)) → Local fun c => x c >>= fun a => f a c
  | attributed {α : Type} (name : String) {x : Scope → Action α} :
      Local x → Local fun c => (x c).attributed name
  | root : Local fun c w => .ok (w.store.rootOf c) w
  | set (name : String) (value : Option Value) : Local fun c => Action.update (·.set c name value)
  | draw : Local fun _ => Action.draw
  | now : Local fun _ => Action.now

theorem Action.bind_store {α : Type} (f : Store → Action α) (w : World) :
    (Action.store >>= f) w = f w.store w := rfl

namespace Action.Local

theorem ofExcept {α : Type} (x : Except Fault α) : Local fun _ => (Act.ofExcept x : Action α) := by
  cases x with
  | ok a => exact .pure a
  | error e => exact .fail (.fault e)

theorem raise {α : Type} (e : Fault) : Local fun _ => (Act.raise e : Action α) :=
  .fail (.fault e)

/- Reading the store through its Root is all the reading that builtins do. -/
theorem ofRoot {α : Type} {x : Scope → Action α} (f : Root → Scope → Action α)
    (hx : ∀ c w, x c w = f (w.store.rootOf c) c w) (hf : ∀ r, Local (f r)) : Local x := by
  have h : x = fun c => (fun w => .ok (w.store.rootOf c) w : Action Root) >>= fun r => f r c := by
    funext c w
    exact hx c w
  rw [h]
  exact bind root hf

theorem onOption {α β : Type} (found : Option β) {f : β → Scope → Action α}
    {otherwise : Scope → Action α} (hf : ∀ b, Local (f b)) (ho : Local otherwise) :
    Local fun c => Act.onOption found (fun b => f b c) (otherwise c) := by
  cases found with
  | some b => exact hf b
  | none => exact ho

theorem emit (caps : Capabilities) (bare : Bool) (into : Option String) (value : Value) :
    Local fun c => CallSite.emit { scope := c, bare, into } caps value := by
  unfold CallSite.emit
  cases caps.storage with
  | none => exact .pure value.toText
  | some storage =>
    cases into with
    | none => exact .pure value.toText
    | some name => exact bind (set name (some value)) fun _ => .pure ""

theorem dispatch (name : String) (caps : Capabilities) (bare : Bool) (into : Option String)
    {body : Scope → Action Value} (h : Local body) :
    Local fun c => Stencil.dispatch name caps { scope := c, bare, into } (body c) := by
  have hcheck : Local fun c =>
      (Act.ofExcept (CallSite.check { scope := c, bare, into } caps) : Action Unit) :=
    ofExcept (CallSite.check { scope := ⟨0⟩, bare, into } caps)
  exact bind (attributed name hcheck) fun _ =>
    bind (attributed name h) fun value => emit caps bare into value

end Action.Local

/-- A builtin that reaches the store through the scope of its call only. -/
def Builtin.Kind.IsLocal : Builtin.Kind → Prop
  | .simple run => ∀ bare into args, Action.Local fun c => run { scope := c, bare, into } args
  | _ => True

@[simp] theorem Builtin.Kind.conditional_isLocal : IsLocal .conditional := trivial

@[simp] theorem Builtin.Kind.iteration_isLocal : IsLocal .iteration := trivial

def Registry.IsLocal (registry : Registry) : Prop :=
  ∀ name b, registry.get? name = some b → b.kind.IsLocal

theorem Registry.IsLocal.call {registry : Registry} (h : registry.IsLocal) (name : String)
    (bare : Bool) (into : Option String) (args : Arguments) :
    Action.Local fun c => registry.call name { scope := c, bare, into } args := by
  unfold Registry.call
  cases hb : registry.get? name with
  | none => exact .raise _
  | some b =>
    have hk := h name b hb
    have hcheck : Action.Local fun c =>
        (Act.ofExcept (CallSite.check { scope := c, bare, into } b.caps) : Action Unit) :=
      .ofExcept (CallSite.check { scope := ⟨0⟩, bare, into } b.caps)
    cases hkind : b.kind with
    | simple run =>
      rw [hkind] at hk
      simp only [hkind]
      exact .dispatch b.name b.caps bare into (hk bare into args)
    | conditional =>
      simp only [hkind]
      exact .bind (.attributed b.name hcheck) fun _ => .raise _
    | iteration =>
      simp only [hkind]
      exact .bind (.attributed b.name hcheck) fun _ => .raise _

/-! ### The standard builtins -/

namespace Library

@[simp] theorem pureRun_isLocal (f : Arguments → Except Fault String) :
    Builtin.Kind.IsLocal (.simple (pureRun f)) := by
  intro bare into args
  unfold pureRun
  exact .ofExcept _

@[simp] theorem rep_isLocal : Builtin.Kind.IsLocal (.simple rep) := by
  intro bare into args
  unfold rep
  split
  · rename_i needle first second _
    exact .ofRoot (fun r _ =>
      let ordered := if r.swapped then (second, first) else (first, second)
      pure (Value.text (Text.replaced needle ordered.2 ordered.1))) (fun _ _ => rfl) fun r => .pure _
  · exact .raise _

@[simp] theorem set_isLocal : Builtin.Kind.IsLocal (.simple set) := by
  intro bare into args
  refine .bind (.ofExcept (args.atMost 2)) fun _ => .bind (.ofExcept (args.require 0 "name")) fun name => ?_
  split
  · exact .raise _
  · exact .bind (.set name _) fun _ => .pure _

theorem bindPieces_local (name : String) (n : Nat) (pieces : List (List Char)) :
    Action.Local fun c => Action.update (bindPieces c name n pieces) := by
  induction pieces generalizing n with
  | nil => exact .pure ()
  | cons piece rest ih =>
    exact .bind (.set (name ++ toString n) (some (.text (String.ofList piece)))) fun _ => ih (n + 1)

@[simp] theorem split_isLocal : Builtin.Kind.IsLocal (.simple split) := by
  intro bare into args
  refine .bind (.ofExcept (args.atMost 3)) fun _ => .bind (.ofExcept (args.require 0 "prefix")) fun name =>
    .bind (.ofExcept (args.require 1 "content")) fun content => ?_
  dsimp only
  split
  · exact .raise _
  · exact .bind (bindPieces_local name 1 _) fun _ => .pure _

@[simp] theorem user_isLocal : Builtin.Kind.IsLocal (.simple user) := by
  intro bare into args
  refine .bind (.ofExcept (args.atMost 1)) fun _ => .ofRoot (fun r _ =>
    if r.guild.members.isEmpty then Act.raise { kind := .notFound, message := "no members" }
    else do
      let d ← Action.draw
      Act.onOption r.guild.members[d.index r.guild.members.length]?
        (fun m => Act.ofExcept (project m (args.get? 0 "attrs")))
        (Act.raise { kind := .notFound, message := "no members" })) (fun c w => ?_) fun r => ?_
  · have hguild : (w.store.rootOf c).guild = w.store.guild c := rfl
    rw [Action.bind_store, hguild]
    dsimp only
    by_cases hnone : (w.store.guild c).members.isEmpty
    · rw [if_pos hnone, if_pos hnone]
    · rw [if_neg hnone, if_neg hnone]
      refine congrArg (fun k => (Action.draw >>= k) w) (funext fun d => ?_)
      cases (w.store.guild c).members[d.index (w.store.guild c).members.length]? <;> rfl
  · split
    · exact .raise _
    · exact .bind .draw fun d => .onOption _ (fun _ => .ofExcept _) (.raise _)

@[simp] theorem nameof_isLocal : Builtin.Kind.IsLocal (.simple nameof) := by
  intro bare into args
  refine .bind (.ofExcept (args.atMost 2)) fun _ =>
    .bind (.ofExcept ((args.require 0 "id").bind readId)) fun id => .ofRoot (fun r _ =>
      Act.onOption (r.guild.byId? id)
        (fun m => do return Value.text (← Act.ofExcept (project m (args.get? 1 "attrs"))).toText)
        (Act.raise (Fault.ofKind .notFound))) (fun c w => ?_) fun r => ?_
  · simp only [Action.bind_store, Store.guild, Act.onOption]
    cases (w.store.rootOf c).guild.byId? id <;> rfl
  · exact .onOption _ (fun _ => .bind (.ofExcept _) fun _ => .pure _) (.raise _)

@[simp] theorem member_isLocal : Builtin.Kind.IsLocal (.simple member) := by
  intro bare into args
  refine .bind (.ofExcept (args.atMost 2)) fun _ => .bind (.ofExcept (args.require 0 "key")) fun key =>
    .bind (.ofExcept (args.require 1 "name")) fun name => .ofRoot (fun r c =>
      Act.onOption (r.guild.named? name)
        (fun m => do
          Action.update (·.set c key (some (.member m)))
          return Value.text "")
        (Act.raise (Fault.ofKind .notFound))) (fun c w => ?_) fun r => ?_
  · simp only [Action.bind_store, Store.guild, Act.onOption]
    cases (w.store.rootOf c).guild.named? name <;> rfl
  · exact .onOption _ (fun _ => .bind (.set key _) fun _ => .pure _) (.raise _)

@[simp] theorem choose_isLocal : Builtin.Kind.IsLocal (.simple choose) := by
  intro bare into args
  unfold choose
  dsimp only
  split
  · exact .raise _
  · exact .bind .draw fun d => .pure _

@[simp] theorem wchoose_isLocal : Builtin.Kind.IsLocal (.simple wchoose) := by
  intro bare into args
  unfold wchoose
  split
  · exact .raise _
  · split
    · exact .raise _
    · exact .bind (.ofExcept _) fun options => .bind (.ofExcept _) fun sums =>
        .bind .draw fun d => .pure _

@[simp] theorem num_isLocal : Builtin.Kind.IsLocal (.simple num) := by
  intro bare into args
  refine .bind (.ofExcept _) fun start => .bind (.ofExcept _) fun stop =>
    .bind (.ofExcept _) fun step => ?_
  split
  · exact .bind .draw fun d => .pure _
  · exact .raise _

@[simp] theorem time_isLocal : Builtin.Kind.IsLocal (.simple time) := by
  intro bare into args
  refine .bind (.ofExcept (args.atMost 2)) fun _ => .bind (.ofExcept _) fun hours =>
    .bind .now fun now => ?_
  split
  · exact .pure _
  · exact .fail _

theorem builtins_isLocal : ∀ e ∈ builtins, e.2.2.IsLocal := by
  simp [builtins, upper, lower, title, len, onContent, slice, parse, void, math]

theorem get?_foldl_register (entries : List (String × Capabilities × Builtin.Kind)) (r : Registry)
    (name : String) (b : Builtin)
    (h : NameMap.get? (entries.foldl (fun r (name, caps, kind) => Registry.register r name caps kind) r)
      name = some b) :
    (∃ e ∈ entries, e.1 = name ∧ b = { name := e.1, caps := e.2.1, kind := e.2.2 }) ∨
      r.get? name = some b := by
  induction entries generalizing r with
  | nil => exact .inr h
  | cons e rest ih =>
    rcases ih _ h with ⟨d, hd, hname, rfl⟩ | hr
    · exact .inl ⟨d, List.mem_cons_of_mem e hd, hname, rfl⟩
    · simp only [Registry.register, NameMap.get?_insert] at hr
      split at hr
      · rename_i hname
        exact .inl ⟨e, List.mem_cons_self, hname.symm, (Option.some.inj hr).symm⟩
      · exact .inr hr

theorem mem_builtins_of_get? {name : String} {b : Builtin} (h : standard.get? name = some b) :
    ∃ e ∈ builtins, e.1 = name ∧ b = { name := e.1, caps := e.2.1, kind := e.2.2 } := by
  rcases get?_foldl_register builtins .empty name b h with he | hn
  · exact he
  · rw [NameMap.get?_empty] at hn
    cases hn

theorem standard_isLocal : standard.IsLocal := by
  intro name b hb
  obtain ⟨e, he, -, rfl⟩ := mem_builtins_of_get? hb
  exact builtins_isLocal e he

end Library

/-! ### What local actions do to the store -/

/-- Builtins that act on the store by operations only. -/
def Registry.IsPublic (registry : Registry) : Prop :=
  ∀ name bare into args (c : Scope) (w : World), w.store.holds c →
    w.store.Reaches (Act.endState (registry.call name { scope := c, bare, into } args w)).store

theorem Action.Local.reaches {α : Type} {x : Scope → Action α} (h : Action.Local x) (c : Scope)
    (w : World) (hc : w.store.holds c) : w.store.Reaches (Act.endState (x c w)).store := by
  induction h generalizing w with
  | pure a => exact .refl
  | fail e => exact .refl
  | bind hx hf ihx ihf =>
    rename_i x f
    have hxw := ihx w hc
    show w.store.Reaches (Act.endState ((x c >>= fun a => f a c) w)).store
    cases hr : x c w with
    | ok a v =>
      rw [hr] at hxw
      rw [Act.bind_of_ok hr]
      exact hxw.trans (ihf a v (Store.Reaches.holds hxw hc))
    | error e v =>
      rw [hr] at hxw
      rw [Act.bind_of_error hr]
      exact hxw
  | attributed name hx ihx =>
    rw [Act.endState_attributed]
    exact ihx w hc
  | root => exact .refl
  | set name value => exact Store.Reaches.set hc name value
  | draw => exact .refl
  | now => exact .refl

theorem Registry.IsLocal.isPublic {registry : Registry} (h : registry.IsLocal) :
    registry.IsPublic := by
  intro name bare into args c w hc
  exact (h.call name bare into args).reaches c w hc

end Stencil
