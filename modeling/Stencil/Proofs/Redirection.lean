import Stencil.Proofs.Renders

/-!
# Values that go to a variable

A call may name a variable for its value. Builtins on evaluated arguments honour this: the call gives no
text, and the variable holds what the call would have given. Conditions and loops check that they may be
called so, and then give their text as if no variable had been named.
-/

namespace Stencil

theorem Value.toText_eq_empty_iff {v : Value} : v.toText = "" ↔ v.isEmpty = true := by
  cases v with
  | text s => exact String.isEmpty_iff.symm
  | member m =>
    -- a tag has at least its `#`
    have hsize : (m.name ++ "#" ++ m.discriminator).utf8ByteSize ≠ 0 := by
      have hsharp : "#".utf8ByteSize = 1 := rfl
      rw [String.utf8ByteSize_append, String.utf8ByteSize_append, hsharp]
      omega
    constructor
    · intro h
      rw [toText, Member.tag] at h
      rw [h] at hsize
      exact absurd rfl hsize
    · intro h
      cases h

theorem Store.WellFormed.toText_get?_set {s : Store} {c : Scope} (hs : s.WellFormed) (hc : s.holds c)
    {name : String} (hname : name ≠ replaceOrderVariable) (value : Value) :
    ((s.set c name (some value)).get? c name).map Value.toText =
      if value.toText = "" then none else some value.toText := by
  rw [Store.get?_eq, hs.rootOf_set hc, if_pos rfl, Root.get?_set _ hname, if_pos rfl]
  cases hv : value.isEmpty with
  | true => rw [if_pos (Value.toText_eq_empty_iff.2 hv), Option.filter_some, hv]; rfl
  | false =>
    have htext : value.toText ≠ "" := fun h => by
      rw [Value.toText_eq_empty_iff.1 h] at hv
      cases hv
    rw [if_neg htext, Option.filter_some, hv]
    rfl

/-! ### Calls with and without a variable -/

/- A call that may name a variable is one of a builtin that stores, and is not strict. -/
theorem CallSite.storage_of_check_into {c : Scope} {caps : Capabilities} {name : String}
    (h : CallSite.check { scope := c, into := some name } caps = .ok ()) :
    caps.storage = some .lenient := by
  obtain ⟨bare, storage⟩ := caps
  cases storage with
  | none => cases h
  | some storage =>
    cases storage with
    | lenient => rfl
    | strict => cases h

theorem CallSite.check_without {c : Scope} {caps : Capabilities} (h : caps.storage = some .lenient) :
    CallSite.check { scope := c } caps = .ok () := by
  simp [CallSite.check, h]

/- A call whose value goes to a variable, beside the one that gives the value's text. -/
theorem dispatch_into {name : String} {caps : Capabilities} {c : Scope} {target : String}
    {body : Action Value} {w u : World} {text : String}
    (h : dispatch name caps { scope := c, into := some target } body w = .ok text u) :
    ∃ value v, dispatch name caps { scope := c } body w = .ok value.toText v ∧ text = "" ∧
      u = HasStore.update (·.set c target (some value)) v := by
  obtain ⟨_, w₁, hchecked, hrest⟩ := Act.bind_eq_ok h
  obtain ⟨value, v, hbody, hemit⟩ := Act.bind_eq_ok hrest
  obtain ⟨hcheck, rfl⟩ := Act.ofExcept_eq_ok.1 (Act.attributed_eq_ok.1 hchecked)
  have hstorage := CallSite.storage_of_check_into hcheck
  have hwithout : (Act.ofExcept (CallSite.check { scope := c } caps) : Action Unit).attributed name w =
      .ok () w :=
    Act.attributed_eq_ok.2 (Act.ofExcept_eq_ok.2 ⟨CallSite.check_without hstorage, rfl⟩)
  refine ⟨value, v, ?_, ?_⟩
  · rw [dispatch, Act.bind_of_ok hwithout, Act.bind_of_ok hbody, CallSite.emit, hstorage]
    rfl
  · rw [CallSite.emit, hstorage] at hemit
    cases hemit
    exact ⟨rfl, rfl⟩

/-! ### Registries of the standard builtins -/

/-- A builtin that does not look at the way in which it is called, only at the scope. -/
def Builtin.Kind.SeesScope : Builtin.Kind → Prop
  | .simple run => ∀ c bare into args, run { scope := c, bare, into } args = run { scope := c } args
  | _ => True

namespace Library

/-- The registries that come from the standard one by registering its builtins again, with any
capabilities and under any names. -/
inductive Recast : Registry → Prop where
  | standard : Recast standard
  | register {r : Registry} (h : Recast r) (name : String) (caps : Capabilities)
      (e : String × Capabilities × Builtin.Kind) (he : e ∈ builtins) :
      Recast (r.register name caps e.2.2)

theorem builtins_seeScope : ∀ e ∈ builtins, e.2.2.SeesScope := by
  simp only [builtins, List.forall_mem_cons, List.not_mem_nil, false_implies, implies_true, and_true,
    true_and, Builtin.Kind.SeesScope]
  and_intros
  all_goals exact fun _ _ _ _ => rfl

theorem Recast.mem_builtins {r : Registry} (h : Recast r) {name : String} {b : Builtin}
    (hb : r.get? name = some b) : b.name = name ∧ ∃ e ∈ builtins, e.2.2 = b.kind := by
  induction h with
  | standard =>
    obtain ⟨e, he, hname, rfl⟩ := mem_builtins_of_get? hb
    exact ⟨hname, e, he, rfl⟩
  | register _ other caps e he ih =>
    simp only [Registry.register, NameMap.get?_insert] at hb
    split at hb
    · rename_i hname
      cases hb
      exact ⟨hname.symm, e, he, rfl⟩
    · exact ih hb

theorem Recast.isLocal {r : Registry} (h : Recast r) : r.IsLocal := by
  intro name b hb
  obtain ⟨-, e, he, hkind⟩ := h.mem_builtins hb
  rw [← hkind]
  exact builtins_isLocal e he

theorem Recast.seesScope {r : Registry} (h : Recast r) {name : String} {b : Builtin}
    (hb : r.get? name = some b) : b.kind.SeesScope := by
  obtain ⟨-, e, he, hkind⟩ := h.mem_builtins hb
  rw [← hkind]
  exact builtins_seeScope e he

end Library

theorem Registry.call_into {registry : Registry} {name : String} {b : Builtin}
    {run : CallSite → Arguments → Action Value} (hb : registry.get? name = some b)
    (hkind : b.kind = .simple run) (hsees : b.kind.SeesScope) {c : Scope} {target : String}
    {args : Arguments} {w u : World} {text : String}
    (h : registry.call name { scope := c, into := some target } args w = .ok text u) :
    ∃ value v, registry.call name { scope := c } args w = .ok value.toText v ∧ text = "" ∧
      u = HasStore.update (·.set c target (some value)) v := by
  rw [hkind] at hsees
  simp only [Registry.call, hb, hkind] at h ⊢
  rw [hsees c false (some target) args] at h
  exact dispatch_into h

/-! ### Calls in a template -/

theorem Step.ofAction_eq_ok {α : Type} {x : Action α} {p q : Progress} {a : α} :
    ofAction x p = .ok a q ↔ ∃ v, x p.world = .ok a v ∧ q = { p with world := v } := by
  unfold ofAction
  cases x p.world with
  | ok b v =>
    constructor
    · intro h
      cases h
      exact ⟨v, rfl, rfl⟩
    · rintro ⟨_, h, rfl⟩
      cases h
      rfl
  | error e v =>
    constructor
    · intro h
      cases h
    · rintro ⟨_, h, -⟩
      cases h

namespace Renderer

/-- What a call does before a builtin on evaluated arguments is run. -/
def arguments (r : Renderer) (c : Scope) (args : List Node) (named : List (String × Node)) :
    Step Arguments := do
  Step.tick r.limits
  let positional ← r.evalEach c args
  let keyword ← r.evalNamed c .empty named
  return { positional, named := keyword }

theorem eval_simple_call (r : Renderer) (c : Scope) {name : String} {b : Builtin}
    {run : CallSite → Arguments → Action Value} (hb : r.registry.get? name = some b)
    (hkind : b.kind = .simple run) (hname : b.name = name) (args : List Node)
    (named : List (String × Node)) (into : Option String) :
    r.eval c (.call name args named into) = r.arguments c args named >>= fun a =>
      Step.ofAction (r.registry.call name { scope := c, into } a) := by
  simp only [eval, hb, hkind, hname, arguments, bind_assoc, pure_bind]

theorem arguments_reaches {r : Renderer} (hr : r.registry.IsPublic) {c : Scope} {args : List Node}
    {named : List (String × Node)} {p q : Progress} {a : Arguments} (hs : p.world.store.WellFormed)
    (hc : p.world.store.holds c) (hq : r.arguments c args named p = .ok a q) :
    p.world.store.Reaches q.world.store := by
  let script : Script Arguments := .bind .tick fun _ => .bind (.ofEach r.registry args) fun positional =>
    .bind (.ofNamed r.registry .empty named) fun keyword => .pure { positional, named := keyword }
  have hrun : script.run r c = r.arguments c args named := by
    simp only [script, Script.run, Script.run_ofEach, Script.run_ofNamed, arguments]
  have h : p.world.store.Reaches (Act.endState (script.run r c p)).world.store :=
    (script.composed r.registry).reaches hr r.limits c p hs hc
  rw [hrun, hq] at h
  exact h

theorem checkSite_without {caps : Capabilities} {c : Scope} {target name : String} {p q : Progress}
    (h : checkSite caps c (some target) name p = .ok () q) : checkSite caps c none name p = .ok () q := by
  obtain ⟨hcheck, rfl⟩ := Act.ofExcept_eq_ok.1 (Act.attributed_eq_ok.1 h)
  have hstorage := CallSite.storage_of_check_into hcheck
  exact Act.attributed_eq_ok.2 (Act.ofExcept_eq_ok.2 ⟨CallSite.check_without hstorage, rfl⟩)

/- After the check nothing depends on the variable. -/
theorem checked_without {α : Type} {caps : Capabilities} {c : Scope} {target name : String}
    {p q : Progress} {a : α} {next : Unit → Step α}
    (h : (checkSite caps c (some target) name >>= next) p = .ok a q) :
    (checkSite caps c none name >>= next) p = .ok a q := by
  obtain ⟨_, p₁, hcheck, h⟩ := Act.bind_eq_ok h
  rw [Act.bind_of_ok (checkSite_without hcheck)]
  exact h

theorem evalWhen_without {r : Renderer} {c : Scope} {caps : Capabilities} {target : String}
    {args : List Node} {p q : Progress} {text : String}
    (h : r.evalWhen c caps (some target) args p = .ok text q) :
    r.evalWhen c caps none args p = .ok text q := by
  unfold evalWhen at h ⊢
  split at h
  · exact checked_without h
  · exact checked_without h
  · cases h

theorem evalLoop_without {r : Renderer} {c : Scope} {caps : Capabilities} {target : String}
    {args : List Node} {p q : Progress} {text : String}
    (h : r.evalLoop c caps (some target) args p = .ok text q) :
    r.evalLoop c caps none args p = .ok text q := by
  unfold evalLoop at h ⊢
  split at h
  · exact checked_without h
  · cases h

theorem eval_simple_call_into {r : Renderer} (hr : Library.Recast r.registry) {c : Scope} {name : String}
    {b : Builtin} {run : CallSite → Arguments → Action Value} (hb : r.registry.get? name = some b)
    (hkind : b.kind = .simple run) {args : List Node} {named : List (String × Node)} {target : String}
    {p q : Progress} {text : String} (hs : p.world.store.WellFormed) (hc : p.world.store.holds c)
    (h : r.eval c (.call name args named (some target)) p = .ok text q) :
    ∃ (value : Value) (q' : Progress), r.eval c (.call name args named none) p = .ok value.toText q' ∧
      text = "" ∧ q = HasStore.update (·.set c target (some value)) q' ∧
      p.world.store.Reaches q'.world.store := by
  have hname := (hr.mem_builtins hb).1
  have hpublic := hr.isLocal.isPublic
  rw [r.eval_simple_call c hb hkind hname] at h
  obtain ⟨a, p₁, hargs, hstep⟩ := Act.bind_eq_ok h
  obtain ⟨u, hcall, rfl⟩ := Step.ofAction_eq_ok.1 hstep
  obtain ⟨value, v, hwithout, htext, rfl⟩ := Registry.call_into hb hkind (hr.seesScope hb) hcall
  have hbefore := arguments_reaches hpublic hs hc hargs
  have hafter := hpublic name false none a c p₁.world (hbefore.holds hc)
  rw [hwithout] at hafter
  refine ⟨value, { p₁ with world := v }, ?_, htext, rfl, hbefore.trans hafter⟩
  rw [r.eval_simple_call c hb hkind hname, Act.bind_of_ok hargs]
  exact Step.ofAction_eq_ok.2 ⟨v, hwithout, rfl⟩

theorem eval_deferred_call_into {r : Renderer} {c : Scope} {name : String} {b : Builtin}
    (hb : r.registry.get? name = some b) (hkind : b.kind = .conditional ∨ b.kind = .iteration)
    {args : List Node} {named : List (String × Node)} {target : String} {p q : Progress} {text : String}
    (h : r.eval c (.call name args named (some target)) p = .ok text q) :
    r.eval c (.call name args named none) p = .ok text q := by
  rcases hkind with hkind | hkind
  · simp only [eval, hb, hkind] at h ⊢
    obtain ⟨_, p₁, htick, hwhen⟩ := Act.bind_eq_ok h
    rw [Act.bind_of_ok htick]
    exact evalWhen_without hwhen
  · simp only [eval, hb, hkind] at h ⊢
    obtain ⟨_, p₁, htick, hloop⟩ := Act.bind_eq_ok h
    rw [Act.bind_of_ok htick]
    exact evalLoop_without hloop

theorem get?_of_eval_call {r : Renderer} {c : Scope} {name : String} {args : List Node}
    {named : List (String × Node)} {into : Option String} {p q : Progress} {text : String}
    (h : r.eval c (.call name args named into) p = .ok text q) : ∃ b, r.registry.get? name = some b := by
  cases hb : r.registry.get? name with
  | none =>
    simp only [eval, hb] at h
    obtain ⟨_, p₁, -, hraise⟩ := Act.bind_eq_ok h
    cases hraise
  | some b => exact ⟨b, rfl⟩

/-- A call whose value goes to a variable succeeds only where the call without one does. A builtin on
evaluated arguments then gives no text and leaves its value, with that text, in the variable. A condition or a
loop gives the text itself, and leaves the variable to whatever its branches and body do. -/
theorem eval_call_into_variable (r : Renderer) (hr : Library.Recast r.registry) (c : Scope)
    (p q : Progress) (hs : p.world.store.Reachable) (hc : p.world.store.holds c) (name : String)
    (args : List Node) (named : List (String × Node)) (target : String)
    (htarget : target ≠ replaceOrderVariable) (text : String)
    (h : r.eval c (.call name args named (some target)) p = .ok text q) :
    ∃ b out q', r.registry.get? name = some b ∧ r.eval c (.call name args named none) p = .ok out q' ∧
      match b.kind with
      | .simple _ => text = "" ∧
          (q.world.store.get? c target).map Value.toText = (if out = "" then none else some out) ∧
          ∃ value : Value, value.toText = out ∧ q = HasStore.update (·.set c target (some value)) q'
      | _ => text = out ∧ q = q' := by
  obtain ⟨b, hb⟩ := get?_of_eval_call h
  cases hkind : b.kind with
  | simple run =>
    obtain ⟨value, q', hwithout, htext, rfl, hreaches⟩ :=
      eval_simple_call_into hr hb hkind hs.wellFormed hc h
    have hread := (hreaches.wellFormed hs.wellFormed).toText_get?_set (hreaches.holds hc) htarget value
    refine ⟨b, value.toText, q', hb, hwithout, ?_⟩
    rw [hkind]
    exact ⟨htext, hread, value, rfl, rfl⟩
  | conditional =>
    refine ⟨b, text, q, hb, eval_deferred_call_into hb (.inl hkind) h, ?_⟩
    rw [hkind]
    exact ⟨rfl, rfl⟩
  | iteration =>
    refine ⟨b, text, q, hb, eval_deferred_call_into hb (.inr hkind) h, ?_⟩
    rw [hkind]
    exact ⟨rfl, rfl⟩

/-- `upper`, registered again so that its value can be stored, and a condition in its argument. -/
theorem eval_call_into_variable_upper :
    let moment : Moment := { day := 0, second := 0, nano := 0 }
    let w : World := { store := ((Store.empty.addRoot {}).2.addSub ⟨0⟩).2,
                       supply := { draw := fun _ => 0, reading := fun _ => moment } }
    let r : Renderer :=
      { registry := Library.standard.register "upper" Library.storable (.simple Library.upper) }
    let args : List Node := [.call "when" [.text "1", .text "eq", .text "1", .text "yes"] [] none]
    ∃ text q out q', r.eval ⟨1⟩ (.call "upper" args [] (some "v")) { world := w } = .ok text q ∧
      r.eval ⟨1⟩ (.call "upper" args [] none) { world := w } = .ok out q' ∧ text = "" ∧
      q.world.store.get? ⟨0⟩ "v" = some (.text "YES") ∧
      (q.world.store.get? ⟨1⟩ "v").map Value.toText = (if out = "" then none else some out) := by
  intro moment w r args
  have hrecast : Library.Recast r.registry :=
    .register .standard "upper" Library.storable ("upper", Library.plain, .simple Library.upper)
      (by simp [Library.builtins])
  have hs : w.store.Reachable := .tail (.single (.addRoot .empty {})) (.addSub _ ⟨0⟩ rfl)
  have hrun : ∃ q, r.eval ⟨1⟩ (.call "upper" args [] (some "v")) { world := w } = .ok "" q ∧
      q.world.store.get? ⟨0⟩ "v" = some (.text "YES") := ⟨_, rfl, by decide +kernel⟩
  obtain ⟨q, hq, hyes⟩ := hrun
  obtain ⟨b, out, q', hb, hout, hcase⟩ := eval_call_into_variable r hrecast ⟨1⟩ { world := w } q hs rfl
    "upper" args [] "v" (by decide) "" hq
  cases hb
  obtain ⟨htext, hread, -⟩ := hcase
  exact ⟨"", q, out, q', hq, hout, htext, hyes, hread⟩

/-- A condition and a loop that may be stored are not: both give their text, and the variable stays
unbound. -/
theorem eval_call_into_variable_ignored :
    let moment : Moment := { day := 0, second := 0, nano := 0 }
    let w : World := { store := (Store.empty.addRoot {}).2,
                       supply := { draw := fun _ => 0, reading := fun _ => moment } }
    let r : Renderer :=
      { registry := (Library.standard.register "when" Library.storable .conditional).register "loop"
          Library.storable .iteration }
    let branch : List Node := [.text "1", .text "eq", .text "1", .text "yes"]
    let twice : List Node := [.text "3", .text "x"]
    Library.Recast r.registry ∧ w.store.Reachable ∧ w.store.holds ⟨0⟩ ∧ "v" ≠ replaceOrderVariable ∧
      (∀ into ∈ [none, some "v"],
        (r.render ⟨0⟩ (.call "when" branch [] into) w).1.toOption =
          some { text := "yes", reports := [], gas := 5 } ∧
        (r.render ⟨0⟩ (.call "when" branch [] into) w).2.store.get? ⟨0⟩ "v" = none) ∧
      (∀ into ∈ [none, some "v"],
        (r.render ⟨0⟩ (.call "loop" twice [] into) w).1.toOption =
          some { text := "xx", reports := [], gas := 4 } ∧
        (r.render ⟨0⟩ (.call "loop" twice [] into) w).2.store.get? ⟨0⟩ "v" = none) := by
  intro moment w r branch twice
  have hwhen : Library.Recast (Library.standard.register "when" Library.storable .conditional) :=
    .register .standard "when" Library.storable ("when", Library.plain, .conditional)
      (by simp [Library.builtins])
  have hrecast : Library.Recast r.registry :=
    .register hwhen "loop" Library.storable ("loop", Library.plain, .iteration)
      (by simp [Library.builtins])
  have hs : w.store.Reachable := .single (.addRoot .empty {})
  exact ⟨hrecast, hs, rfl, by decide, by decide +kernel, by decide +kernel⟩

end Renderer

end Stencil
