import Stencil.Proofs.Builtins

/-!
# What a call may change

A builtin that fails has changed nothing, and one that succeeds has set the variables that its arguments
name. `Action.Reads` and `Action.Changes` say this of the parts that builtins are made of: what can fail comes
before what changes the store.
-/

namespace Stencil

/-! ### Stores that differ in some variables -/

namespace Store

/-- The second store differs from the first in variables with these names at most, on the Root of a scope.
For the name that orders the arguments of `rep` that is the order and no binding. -/
structure ChangesOnly (c : Scope) (names : List String) (s t : Store) : Prop where
  size : t.frames.size = s.frames.size
  link? : ∀ d, t.link? d = s.link? d
  others : ∀ d, d ≠ s.root c → t.frame? d = s.frame? d
  guild : t.guild c = s.guild c
  get? : ∀ name, name ∉ names ∨ name = replaceOrderVariable → t.get? c name = s.get? c name
  swapped : replaceOrderVariable ∉ names → t.swapped c = s.swapped c

theorem rootOf_set_self (s : Store) (c : Scope) (name : String) (value : Option Value) :
    (s.set c name value).rootOf c = s.rootOf c ∨
      (s.set c name value).rootOf c = (s.rootOf c).set name value := by
  simp only [rootOf, set_eq_modifyRoot, root_modifyRoot, frame?_modifyRoot, if_true]
  cases s.frame? (s.root c) with
  | none => exact .inl rfl
  | some f =>
    cases f with
    | root r => exact .inr rfl
    | sub b r => exact .inl rfl

end Store

theorem Root.guild_set (r : Root) (name : String) (value : Option Value) :
    (r.set name value).guild = r.guild := by
  unfold Root.set
  split <;> rfl

/- Setting a variable moves the order of `rep` or a binding, never both. -/
theorem Root.get?_set_of_ne (r : Root) {name other : String}
    (hother : other ≠ name ∨ other = replaceOrderVariable) (value : Option Value) :
    (r.set name value).table.get? other = r.table.get? other := by
  by_cases hname : name = replaceOrderVariable
  · rw [Root.set, if_pos hname]
  · have hne : other ≠ name := by
      rcases hother with hne | heq
      · exact hne
      · rw [heq]
        exact Ne.symm hname
    rw [Root.get?_set r hname, if_neg hne]

namespace Store.ChangesOnly

variable {s t u : Store} {c : Scope} {names more : List String}

theorem refl (c : Scope) (names : List String) (s : Store) : ChangesOnly c names s s where
  size := rfl
  link? _ := rfl
  others _ _ := rfl
  guild := rfl
  get? _ _ := rfl
  swapped _ := rfl

theorem root (h : ChangesOnly c names s t) : t.root c = s.root c := by
  rw [root_eq_getD, root_eq_getD, h.link?]

theorem trans (h : ChangesOnly c names s t) (h' : ChangesOnly c names t u) : ChangesOnly c names s u where
  size := h'.size.trans h.size
  link? d := (h'.link? d).trans (h.link? d)
  others d hd := (h'.others d (h.root ▸ hd)).trans (h.others d hd)
  guild := h'.guild.trans h.guild
  get? name hname := (h'.get? name hname).trans (h.get? name hname)
  swapped hname := (h'.swapped hname).trans (h.swapped hname)

theorem mono (h : ChangesOnly c names s t) (hmore : names ⊆ more) : ChangesOnly c more s t where
  size := h.size
  link? := h.link?
  others := h.others
  guild := h.guild
  get? name hname := h.get? name (hname.imp_left fun hn hmem => hn (hmore hmem))
  swapped hname := h.swapped fun hmem => hname (hmore hmem)

theorem set {name : String} (hname : name ∈ names) (s : Store) (c : Scope) (value : Option Value) :
    ChangesOnly c names s (s.set c name value) := by
  have hne : ∀ other, other ∉ names → other ≠ name := by
    rintro other hother rfl
    exact hother hname
  refine ⟨size_set s c name value, fun d => ?_, fun d hd => ?_, ?_, fun other hother => ?_, fun hother => ?_⟩
  · rw [set_eq_modifyRoot, link?_modifyRoot]
  · rw [set_eq_modifyRoot, frame?_modifyRoot, if_neg hd]
  · rcases rootOf_set_self s c name value with h | h
    · rw [Store.guild, Store.guild, h]
    · rw [Store.guild, Store.guild, h, Root.guild_set]
  · rcases rootOf_set_self s c name value with h | h
    · rw [get?_eq, get?_eq, h]
    · rw [get?_eq, get?_eq, h]
      exact Root.get?_set_of_ne _ (hother.imp_left (hne other)) value
  · rcases rootOf_set_self s c name value with h | h
    · rw [Store.swapped, Store.swapped, h]
    · rw [Store.swapped, Store.swapped, h]
      exact Root.swapped_set _ (Ne.symm (hne _ hother)) value

end Store.ChangesOnly

/-! ### Actions -/

namespace Action

variable {α β : Type} {c : Scope} {names more : List String}

/-- An action that leaves the store alone, however it ends. -/
def Reads (x : Action α) : Prop :=
  ∀ w, (Act.endState (x w)).store = w.store

/-- An action that leaves the store alone if it fails, and changes these variables at most if it succeeds. -/
structure Changes (c : Scope) (names : List String) (x : Action α) : Prop where
  ok : ∀ {w a v}, x w = .ok a v → w.store.ChangesOnly c names v.store
  error : ∀ {w e v}, x w = .error e v → v.store = w.store

namespace Reads

theorem pure (a : α) : Reads (Pure.pure a : Action α) := fun _ => rfl

theorem throw (e : Failure) : Reads (EStateM.throw e : Action α) := fun _ => rfl

theorem raise (e : Fault) : Reads (Act.raise e : Action α) := throw (.fault e)

theorem ofExcept (x : Except Fault α) : Reads (Act.ofExcept x : Action α) := by
  cases x with
  | ok a => exact pure a
  | error e => exact raise e

theorem store : Reads Action.store := fun _ => rfl

theorem draw : Reads Action.draw := fun _ => rfl

theorem now : Reads Action.now := fun _ => rfl

theorem bind {x : Action α} {f : α → Action β} (hx : Reads x) (hf : ∀ a, Reads (f a)) :
    Reads (x >>= f) := by
  intro w
  have hw := hx w
  cases hr : x w with
  | ok a v =>
    rw [hr] at hw
    rw [Act.bind_of_ok hr]
    exact (hf a v).trans hw
  | error e v =>
    rw [hr] at hw
    rw [Act.bind_of_error hr]
    exact hw

theorem attributed {x : Action α} (hx : Reads x) (name : String) : Reads (x.attributed name) := by
  intro w
  rw [Act.endState_attributed]
  exact hx w

theorem store_of_ok {x : Action α} (hx : Reads x) {w v : World} {a : α} (h : x w = .ok a v) :
    v.store = w.store := by
  have hw := hx w
  rw [h] at hw
  exact hw

theorem store_of_error {x : Action α} (hx : Reads x) {w v : World} {e : Failure} (h : x w = .error e v) :
    v.store = w.store := by
  have hw := hx w
  rw [h] at hw
  exact hw

theorem changes {x : Action α} (hx : Reads x) (c : Scope) (names : List String) : Changes c names x where
  ok h := by
    rw [hx.store_of_ok h]
    exact .refl c names _
  error h := hx.store_of_error h

end Reads

namespace Changes

theorem attributed {x : Action α} (hx : Changes c names x) (name : String) :
    Changes c names (x.attributed name) := by
  refine ⟨fun h => hx.ok (Act.attributed_eq_ok.1 h), fun {w e v} h => ?_⟩
  have hend := Act.endState_attributed name x w
  rw [h] at hend
  cases hr : x w with
  | ok b u =>
    rw [Act.attributed_eq_ok.2 hr] at h
    cases h
  | error f u =>
    rw [hr] at hend
    rw [show v = u from hend]
    exact hx.error hr

/- What only reads may come first, and may fail. -/
theorem after_reads {x : Action α} {f : α → Action β} (hx : Reads x) (hf : ∀ a, Changes c names (f a)) :
    Changes c names (x >>= f) := by
  refine ⟨fun {w b v} h => ?_, fun {w e v} h => ?_⟩
  · obtain ⟨a, u, hu, hv⟩ := Act.bind_eq_ok h
    have hchange := (hf a).ok hv
    rw [hx.store_of_ok hu] at hchange
    exact hchange
  · cases hr : x w with
    | ok a u =>
      rw [Act.bind_of_ok hr] at h
      exact ((hf a).error h).trans (hx.store_of_ok hr)
    | error f u =>
      rw [Act.bind_of_error hr] at h
      cases h
      exact hx.store_of_error hr

theorem after_except {x : Except Fault α} {f : α → Action β}
    (hf : ∀ a, x = .ok a → Changes c names (f a)) : Changes c names (Act.ofExcept x >>= f) := by
  cases x with
  | ok a => exact hf a rfl
  | error e => exact (Reads.raise e).changes c names

/- After a change there is nothing left that could fail. -/
theorem then_surely {x : Action α} {f : α → Action β} (hx : Changes c names x)
    (hf : ∀ a w, ∃ b v, f a w = .ok b v ∧ w.store.ChangesOnly c names v.store) :
    Changes c names (x >>= f) := by
  refine ⟨fun {w b v} h => ?_, fun {w e v} h => ?_⟩
  · obtain ⟨a, u, hu, hv⟩ := Act.bind_eq_ok h
    obtain ⟨b', v', hb, hchange⟩ := hf a u
    rw [hb] at hv
    cases hv
    exact (hx.ok hu).trans hchange
  · cases hr : x w with
    | ok a u =>
      obtain ⟨b, v', hb, -⟩ := hf a u
      rw [Act.bind_of_ok hr, hb] at h
      cases h
    | error f u =>
      rw [Act.bind_of_error hr] at h
      cases h
      exact hx.error hr

theorem update_then_pure {f : Store → Store} (hf : ∀ s : Store, s.ChangesOnly c names (f s)) (a : α) :
    Changes c names (Action.update f >>= fun _ => Pure.pure a) where
  ok {w _ _} h := by
    cases h
    exact hf w.store
  error h := by cases h

theorem mono {x : Action α} (hx : Changes c names x) (hmore : names ⊆ more) : Changes c more x where
  ok h := (hx.ok h).mono hmore
  error := hx.error

end Changes

end Action

/-- A call changes what its builtin changes, and the variable that its value goes to. -/
theorem Action.Changes.dispatch (name : String) (caps : Capabilities) (site : CallSite)
    {names : List String} {body : Action Value} (h : Action.Changes site.scope names body) :
    Action.Changes site.scope (names ++ site.into.toList) (Stencil.dispatch name caps site body) := by
  refine .after_reads ((Reads.ofExcept _).attributed name) fun _ =>
    ((h.attributed name).mono (List.subset_append_left ..)).then_surely fun value w => ?_
  unfold CallSite.emit
  cases caps.storage with
  | none => exact ⟨_, w, rfl, .refl _ _ _⟩
  | some storage =>
    cases hinto : site.into with
    | none => exact ⟨_, w, rfl, .refl _ _ _⟩
    | some target =>
      refine ⟨"", _, rfl, .set ?_ w.store site.scope (some value)⟩
      simp

theorem Arguments.get?_of_require {args : Arguments} {index : Nat} {name text : String}
    (h : args.require index name = .ok text) : args.get? index name = some text := by
  unfold Arguments.require at h
  split at h
  · cases h
    assumption
  · cases h

def Builtin.Kind.ChangesOnly (names : Arguments → List String) : Builtin.Kind → Prop
  | .simple run => ∀ site args, Action.Changes site.scope (names args) (run site args)
  | _ => True

@[simp] theorem Builtin.Kind.conditional_changesOnly (names : Arguments → List String) :
    ChangesOnly names .conditional := trivial

@[simp] theorem Builtin.Kind.iteration_changesOnly (names : Arguments → List String) :
    ChangesOnly names .iteration := trivial

/-! ### The standard builtins -/

namespace Library

/-- The names of the variables that a standard builtin may set, for its arguments. -/
def targets (name : String) (args : Arguments) : List String :=
  match name with
  | "set" => (args.get? 0 "name").toList
  | "member" => (args.get? 0 "key").toList
  | "split" =>
    match args.get? 0 "prefix", args.get? 1 "content" with
    | some start, some content =>
      let pieces := Text.split ((args.get? 2 "sep").getD ",").toList content.toList
      (List.range pieces.length).map fun k => start ++ toString (k + 1)
    | _, _ => []
  | _ => []

section Reading

variable (site : CallSite) (args : Arguments)

theorem rep_reads : Action.Reads (rep site args) := by
  unfold rep
  split
  · exact .bind .store fun _ => .pure _
  · exact .raise _

theorem user_reads : Action.Reads (user site args) := by
  refine .bind (.ofExcept _) fun _ => .bind .store fun s => ?_
  dsimp only
  split
  · exact .raise _
  · refine .bind .draw fun d => ?_
    split
    · exact .ofExcept _
    · exact .raise _

theorem nameof_reads : Action.Reads (nameof site args) := by
  refine .bind (.ofExcept _) fun _ => .bind (.ofExcept _) fun id => .bind .store fun s => ?_
  split
  · exact .bind (.ofExcept _) fun _ => .pure _
  · exact .raise _

theorem choose_reads : Action.Reads (choose site args) := by
  unfold choose
  dsimp only
  split
  · exact .raise _
  · exact .bind .draw fun _ => .pure _

theorem wchoose_reads : Action.Reads (wchoose site args) := by
  unfold wchoose
  split
  · exact .raise _
  · split
    · exact .raise _
    · exact .bind (.ofExcept _) fun _ => .bind (.ofExcept _) fun _ => .bind .draw fun _ => .pure _

theorem num_reads : Action.Reads (num site args) := by
  refine .bind (.ofExcept _) fun _ => .bind (.ofExcept _) fun _ => .bind (.ofExcept _) fun _ => ?_
  split
  · exact .bind .draw fun _ => .pure _
  · exact .raise _

theorem time_reads : Action.Reads (time site args) := by
  refine .bind (.ofExcept _) fun _ => .bind (.ofExcept _) fun _ => .bind .now fun _ => ?_
  split
  · exact .pure _
  · exact .throw _

end Reading

section Writing

variable (site : CallSite) (args : Arguments)

theorem set_changes : Action.Changes site.scope (targets "set" args) (set site args) := by
  refine .after_reads (.ofExcept _) fun _ => .after_except fun name hname => ?_
  have hmem : name ∈ targets "set" args := by
    simp [targets, Arguments.get?_of_require hname]
  split
  · exact (Action.Reads.raise _).changes _ _
  · exact .update_then_pure (fun s => .set hmem s site.scope _) _

theorem member_changes : Action.Changes site.scope (targets "member" args) (member site args) := by
  refine .after_reads (.ofExcept _) fun _ => .after_except fun key hkey =>
    .after_reads (.ofExcept _) fun name => .after_reads .store fun s => ?_
  have hmem : key ∈ targets "member" args := by
    simp [targets, Arguments.get?_of_require hkey]
  split
  · exact .update_then_pure (fun s => .set hmem s site.scope _) _
  · exact (Action.Reads.raise _).changes _ _

theorem bindPieces_changesOnly (c : Scope) (start : String) {names : List String} (n : Nat)
    (pieces : List (List Char)) (hnames : ∀ k, n ≤ k → k < n + pieces.length → start ++ toString k ∈ names)
    (s : Store) : s.ChangesOnly c names (bindPieces c start n pieces s) := by
  induction pieces generalizing n s with
  | nil => exact .refl c names s
  | cons piece rest ih =>
    have hfirst : start ++ toString n ∈ names := by
      refine hnames n (Nat.le_refl n) ?_
      simp only [List.length_cons]
      omega
    refine (Store.ChangesOnly.set hfirst s c _).trans (ih (n + 1) (fun k hk hlt => hnames k ?_ ?_) _)
    · omega
    · simp only [List.length_cons]
      omega

theorem split_changes : Action.Changes site.scope (targets "split" args) (split site args) := by
  refine .after_reads (.ofExcept _) fun _ => .after_except fun start hstart =>
    .after_except fun content hcontent => ?_
  let pieces := Text.split ((args.get? 2 "sep").getD ",").toList content.toList
  have htargets : targets "split" args =
      (List.range pieces.length).map fun k => start ++ toString (k + 1) := by
    simp only [targets, Arguments.get?_of_require hstart, Arguments.get?_of_require hcontent, pieces]
  rw [htargets]
  dsimp only
  split
  · exact (Action.Reads.raise _).changes _ _
  · refine .update_then_pure (bindPieces_changesOnly site.scope start 1 pieces fun k hk hlt => ?_) _
    refine List.mem_map.2 ⟨k - 1, List.mem_range.2 (by omega), ?_⟩
    rw [Nat.sub_add_cancel hk]

end Writing

theorem changesOnly_of_reads {run : Run} (h : ∀ site args, Action.Reads (run site args))
    (names : Arguments → List String) : Builtin.Kind.ChangesOnly names (.simple run) :=
  fun site args => (h site args).changes site.scope (names args)

theorem pureRun_changesOnly (f : Arguments → Except Fault String) (names : Arguments → List String) :
    Builtin.Kind.ChangesOnly names (.simple (pureRun f)) :=
  changesOnly_of_reads (fun _ _ => .ofExcept _) names

/- All but three builtins only read. -/
theorem builtins_change : ∀ e ∈ builtins, e.2.2.ChangesOnly (targets e.1) := by
  have hset : Builtin.Kind.ChangesOnly (targets "set") (.simple set) := set_changes
  have hmember : Builtin.Kind.ChangesOnly (targets "member") (.simple member) := member_changes
  have hsplit : Builtin.Kind.ChangesOnly (targets "split") (.simple split) := split_changes
  simp [builtins, upper, lower, title, len, onContent, slice, parse, void, math, pureRun_changesOnly,
    changesOnly_of_reads rep_reads, changesOnly_of_reads user_reads, changesOnly_of_reads nameof_reads,
    changesOnly_of_reads choose_reads, changesOnly_of_reads wchoose_reads, changesOnly_of_reads num_reads,
    changesOnly_of_reads time_reads, hset, hmember, hsplit]

theorem changes_call (name : String) (site : CallSite) (args : Arguments) :
    Action.Changes site.scope (targets name args ++ site.into.toList) (standard.call name site args) := by
  unfold Registry.call
  cases hb : standard.get? name with
  | none => exact (Action.Reads.raise _).changes _ _
  | some b =>
    obtain ⟨e, he, rfl, rfl⟩ := mem_builtins_of_get? hb
    have hchange := builtins_change e he
    have hcheck : Action.Reads ((Act.ofExcept (site.check e.2.1) : Action Unit).attributed e.1) :=
      (Action.Reads.ofExcept _).attributed e.1
    cases hkind : e.2.2 with
    | simple run =>
      rw [hkind] at hchange
      exact .dispatch e.1 e.2.1 site (hchange site args)
    | conditional => exact (hcheck.bind fun _ => .raise _).changes _ _
    | iteration => exact (hcheck.bind fun _ => .raise _).changes _ _

/-- A call of a standard builtin that fails leaves the store as it was. One that succeeds adds no scope, and
changes no more than variables of the Root of its scope: those that the arguments of `set`, `member` and
`split` name, and the one that its value goes to. -/
theorem standard_call_changes_named_variables (name : String) (site : CallSite) (args : Arguments)
    (w : World) :
    (∀ e v, standard.call name site args w = .error e v → v.store = w.store) ∧
    (∀ text v, standard.call name site args w = .ok text v →
      w.store.ChangesOnly site.scope (targets name args ++ site.into.toList) v.store) :=
  ⟨fun _ _ => (changes_call name site args).error, fun _ _ => (changes_call name site args).ok⟩

/-- Three pieces bound through a Sub leave another variable of its Root alone, and a member that is not found
leaves everything alone. -/
theorem standard_call_changes_named_variables_pieces :
    let moment : Moment := { day := 0, second := 0, nano := 0 }
    let s : Store := ((Store.empty.addRoot {}).2.addSub ⟨0⟩).2.setText ⟨0⟩ "x" "1"
    let w : World := { store := s, supply := { draw := fun _ => 0, reading := fun _ => moment } }
    let site : CallSite := { scope := ⟨1⟩ }
    let pieces : Arguments := { positional := ["p", "a,b,c"] }
    targets "split" pieces = ["p1", "p2", "p3"] ∧
    (∃ count v, standard.call "split" site pieces w = .ok count v ∧ count = "3" ∧
      v.store.get? ⟨0⟩ "p2" = some (.text "b") ∧ v.store.frames.size = 2 ∧
      v.store.get? ⟨1⟩ "x" = s.get? ⟨1⟩ "x") ∧
    (∃ e v, standard.call "member" site { positional := ["x", "ada"] } w = .error e v ∧ v.store = s) := by
  intro moment s w site pieces
  obtain ⟨-, hsplit⟩ := standard_call_changes_named_variables "split" site pieces w
  obtain ⟨hmember, -⟩ := standard_call_changes_named_variables "member" site { positional := ["x", "ada"] } w
  have hx : "x" ∉ targets "split" pieces ++ site.into.toList := by decide +kernel
  exact ⟨by decide +kernel, ⟨_, _, rfl, by decide +kernel, by decide +kernel, (hsplit _ _ rfl).size,
    (hsplit _ _ rfl).get? "x" (.inl hx)⟩, ⟨_, _, rfl, hmember _ _ rfl⟩⟩

end Library

end Stencil
