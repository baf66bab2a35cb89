import Stencil.Host.Builtins
import Stencil.Proofs.Correspondence

/-!
# Renders and Roots

A render depends on the Root behind its scope and on nothing else of the store, and it changes nothing
else: not through which scope of the Root it is run, nor what other Roots own. The two runs are compared
step by step, with what each of them may have done to its own store since the start. All this is due to
the builtins: those of a host are handed their scope and the whole store, and can do otherwise.
-/

namespace Stencil

namespace Store

variable {s t u : Store} {root c : Scope}

theorem WellFormed.rootOf_root (h : s.WellFormed) (hc : s.holds c) : s.rootOf (s.root c) = s.rootOf c := by
  obtain ⟨r, hr⟩ := h.root_frame hc
  rw [rootOf, rootOf, root_of_root hr]

/-! ### Work under one Root -/

/-- The second store comes from the first by work under one Root: scopes stay what they are, other Roots
own what they owned, and scopes that are new are Subs under the Root. -/
structure Confined (root : Scope) (s t : Store) : Prop where
  keeps : s.Keeps t
  others : ∀ d r, d ≠ root → s.frame? d = some (.root r) → t.frame? d = some (.root r)
  added : ∀ d, t.holds d → ¬ s.holds d → ∃ b, t.frame? d = some (.sub b root)

namespace Confined

theorem refl (root : Scope) (s : Store) : Confined root s s where
  keeps := .refl s
  others _ _ _ hd := hd
  added _ hd hn := absurd hd hn

theorem trans (h : Confined root s t) (h' : Confined root t u) : Confined root s u where
  keeps := h.keeps.trans h'.keeps
  others d r hd hf := h'.others d r hd (h.others d r hd hf)
  added d hu hs := by
    by_cases ht : t.holds d
    · obtain ⟨b, hb⟩ := h.added d ht hs
      have hlink : u.link? d = some (b, root) := by
        rw [(h'.keeps d ht).2]
        exact link?_eq_some_iff.2 hb
      exact ⟨b, link?_eq_some_iff.1 hlink⟩
    · exact h'.added d hu ht

theorem set (hc : s.root c = root) (name : String) (value : Option Value) :
    Confined root s (s.set c name value) where
  keeps := .modifyRoot s c _
  others d r hd hf := by
    rw [set_eq_modifyRoot, frame?_modifyRoot, if_neg (by rwa [hc]), hf]
  added d ht hs := by
    rw [holds_set] at ht
    exact absurd ht hs

theorem addSub (hc : s.root c = root) : Confined root s (s.addSub c).2 where
  keeps := .push s.frames _
  others d r _ hf := by
    have hd := holds_of_frame? hf
    have hne : d ≠ s.next := by
      rintro rfl
      simp [holds, next] at hd
    rw [frame?_addSub, if_neg hne, hf]
  added d ht hs := by
    have hd : d = s.next := by
      obtain ⟨i⟩ := d
      simp only [holds, size_addSub, decide_eq_true_eq] at ht hs
      simp only [next, Scope.mk.injEq]
      omega
    exact ⟨c, by rw [frame?_addSub, if_pos hd, hc]⟩

end Confined

/-! ### The same work in two stores -/

/-- The first two stores have become the second two by the same work, under a Root of the one and a Root of
the other. The scopes that do the work are paired. -/
structure Parallel (s₀ t₀ : Store) (left right : Scope) (K : List (Scope × Scope)) (s t : Store) :
    Prop where
  corresponds : Corresponds K s t
  roots : ∀ k ∈ K, s.root k.1 = left ∧ t.root k.2 = right
  first : Confined left s₀ s
  second : Confined right t₀ t
  size : s.frames.size + t₀.frames.size = t.frames.size + s₀.frames.size

namespace Parallel

variable {s₀ t₀ : Store} {left right d : Scope} {K : List (Scope × Scope)}

theorem start (hs : s.WellFormed) (ht : t.WellFormed) (hc : s.holds c) (hd : t.holds d)
    (h : s.rootOf c = t.rootOf d) : Parallel s t (s.root c) (t.root d) [(c, d)] s t where
  corresponds := by
    refine ⟨hs, ht, ?_, ?_, ?_⟩
    · simpa using ⟨hc, hd⟩
    · simpa using h
    · simp
  roots := by simp
  first := .refl _ s
  second := .refl _ t
  size := Nat.add_comm _ _

theorem forget {k : Scope × Scope} (h : Parallel s₀ t₀ left right (k :: K) s t) :
    Parallel s₀ t₀ left right K s t :=
  ⟨h.corresponds.forget, fun k' hk' => h.roots k' (List.mem_cons_of_mem k hk'), h.first, h.second, h.size⟩

theorem set (h : Parallel s₀ t₀ left right K s t) (hcd : (c, d) ∈ K) (name : String)
    (value : Option Value) :
    Parallel s₀ t₀ left right K (s.set c name value) (t.set d name value) where
  corresponds := h.corresponds.set hcd name value
  roots k hk := by
    rw [root_set, root_set]
    exact h.roots k hk
  first := h.first.trans (.set (h.roots _ hcd).1 name value)
  second := h.second.trans (.set (h.roots _ hcd).2 name value)
  size := by
    have hsize := h.size
    rw [size_set, size_set]
    exact hsize

theorem addSub (h : Parallel s₀ t₀ left right K s t) (hcd : (c, d) ∈ K) :
    Parallel s₀ t₀ left right ((s.next, t.next) :: K) (s.addSub c).2 (t.addSub d).2 where
  corresponds := h.corresponds.addSub hcd
  roots k hk := by
    rcases List.mem_cons.1 hk with rfl | hk
    · rw [root_addSub_next, root_addSub_next]
      exact h.roots _ hcd
    · obtain ⟨hl, hr⟩ := h.corresponds.holds k hk
      rw [root_addSub hl, root_addSub hr]
      exact h.roots k hk
  first := h.first.trans (.addSub (h.roots _ hcd).1)
  second := h.second.trans (.addSub (h.roots _ hcd).2)
  size := by
    have hsize := h.size
    rw [size_addSub, size_addSub]
    omega

end Parallel

/-- The places of a store, without what Roots own: which are Roots, and for a Sub the scope it views and its
Root. -/
def layout (s : Store) : List (Option (Scope × Scope)) :=
  s.frames.toList.map Frame.link?

theorem size_eq_of_layout (h : s.layout = t.layout) : s.frames.size = t.frames.size := by
  have hlength := congrArg List.length h
  simpa [layout] using hlength

theorem holds_of_layout (h : s.layout = t.layout) (hc : s.holds c) : t.holds c := by
  simp only [holds, decide_eq_true_eq] at hc ⊢
  rw [← size_eq_of_layout h]
  exact hc

end Store

/-- Two stores under the same work, for builtins that reach the store through their scope. -/
def Likeness.parallel {registry : Registry} (h : registry.IsLocal) (s₀ t₀ : Store)
    (left right : Scope) : Likeness registry where
  rel := Store.Parallel s₀ t₀ left right
  forget hst := hst.forget
  get? hst hcd name := by rw [Store.get?_eq, Store.get?_eq, hst.corresponds.rootOf _ hcd]
  set hst hcd := hst.set hcd
  addSub hst hcd := hst.addSub hcd
  call hvw hsupply hcd name bare into args := (h.call name bare into args).sameEnd
    (fun _ _ hst => hst.corresponds.rootOf _ hcd) (fun _ _ hst => hst.set hcd) hvw hsupply

/-- Runs with as much gas left as one another end in the same way. -/
theorem Race.sameEnd {l : Limits} {R : Progress → Progress → Prop} {p q : Progress} {α : Type}
    {x y : EStateM.Result Failure Progress α} (h : Race l l R p q x y) (hgas : p.gas = q.gas) :
    Act.SameEnd (fun p' q' => R p' q' ∧ InStep p q p' q') x y := by
  cases h with
  | same h => exact h
  | leftSpent _ hless _ => omega
  | rightSpent _ hless _ => omega

namespace Renderer

variable {r : Renderer} {c d : Scope} {v w : World}

theorem render_of_sameEnd {R : Progress → Progress → Prop} {node : Node}
    (h : Act.SameEnd (fun p q => R p q ∧ InStep { world := v } { world := w } p q)
      (Step.inlined (r.eval c node) { world := v }) (Step.inlined (r.eval d node) { world := w })) :
    (r.render c node v).1 = (r.render d node w).1 ∧
      ∃ p q, R p q ∧ (r.render c node v).2 = p.world ∧ (r.render d node w).2 = q.world := by
  unfold render
  generalize Step.inlined (r.eval c node) { world := v } = x at h
  generalize Step.inlined (r.eval d node) { world := w } = y at h
  cases h with
  | @ok p q text hpq =>
    obtain ⟨hR, hgas, new, hnew, hnew'⟩ := hpq
    have hreports : p.reports = q.reports := by rw [hnew, hnew']
    have hused : p.gas = q.gas := hgas
    exact ⟨by simp only [hreports, hused], p, q, hR, rfl, rfl⟩
  | @error p q e hpq => exact ⟨rfl, p, q, hpq.1, rfl, rfl⟩

/-- Renders in scopes that see the same Root are the same work in two stores. -/
theorem render_parallel (hr : r.registry.IsLocal) (node : Node) (hv : v.store.WellFormed)
    (hw : w.store.WellFormed) (hc : v.store.holds c) (hd : w.store.holds d)
    (hroot : v.store.rootOf c = w.store.rootOf d) (hsupply : v.supply = w.supply) :
    (r.render c node v).1 = (r.render d node w).1 ∧
      Store.Parallel v.store w.store (v.store.root c) (w.store.root d) [(c, d)]
        (r.render c node v).2.store (r.render d node w).2.store := by
  have hstart : Alike (.parallel hr v.store w.store (v.store.root c) (w.store.root d)) [(c, d)]
      r.limits r.limits { world := v } { world := w } :=
    ⟨.start hv hw hc hd hroot, hsupply, rfl, .inr ⟨rfl, rfl⟩⟩
  have hrace := (r.composed_inlined_eval node).race _ r.limits r.limits [(c, d)] c d _ _
    List.mem_cons_self hstart
  obtain ⟨hresult, p, q, hpq, hp, hq⟩ := render_of_sameEnd (hrace.sameEnd rfl)
  rw [hp, hq]
  exact ⟨hresult, hpq.store⟩

/-- What renders see and change, for the standard builtins and all others that reach the store through the
scope of their call. Scopes with the same Root can stand for one another. What other Roots own makes no
difference, and is left as it is; scopes that a render adds are Subs under the Root of its scope. -/
theorem render_confined_to_root :
    Library.standard.IsLocal ∧ ∀ (r : Renderer) (node : Node), r.registry.IsLocal →
    (∀ (c d : Scope) (w : World), w.store.Reachable → w.store.holds c → w.store.holds d →
      w.store.root c = w.store.root d →
      (r.render c node w).1 = (r.render d node w).1 ∧
      (r.render c node w).2.store.rootOf (w.store.root c) =
        (r.render d node w).2.store.rootOf (w.store.root c) ∧
      (r.render c node w).2.store.frames.size = (r.render d node w).2.store.frames.size) ∧
    (∀ (c : Scope) (s t : Store) (supply : Supply), s.Reachable → t.Reachable → s.holds c →
      s.layout = t.layout → s.rootOf c = t.rootOf c →
      (r.render c node ⟨s, supply⟩).1 = (r.render c node ⟨t, supply⟩).1 ∧
      (r.render c node ⟨s, supply⟩).2.store.rootOf c = (r.render c node ⟨t, supply⟩).2.store.rootOf c ∧
      (r.render c node ⟨s, supply⟩).2.store.frames.size =
        (r.render c node ⟨t, supply⟩).2.store.frames.size) ∧
    (∀ (c : Scope) (w : World), w.store.Reachable → w.store.holds c →
      (∀ d root, d ≠ w.store.root c → w.store.frame? d = some (.root root) →
        (r.render c node w).2.store.frame? d = some (.root root)) ∧
      (∀ d, (r.render c node w).2.store.holds d → ¬ w.store.holds d →
        ∃ b, (r.render c node w).2.store.frame? d = some (.sub b (w.store.root c)))) := by
  refine ⟨Library.standard_isLocal, fun r node hr => ⟨fun c d w hw hc hd hcd => ?_,
    fun c s t supply hs ht hc hlayout hroot => ?_, fun c w hw hc => ?_⟩⟩
  · have hwf := hw.wellFormed
    have hrootOf : w.store.rootOf c = w.store.rootOf d := by rw [Store.rootOf, Store.rootOf, hcd]
    obtain ⟨hresult, hpar⟩ := render_parallel hr node hwf hwf hc hd hrootOf rfl
    have hsize := hpar.size
    refine ⟨hresult, ?_, by omega⟩
    -- the Root itself is seen as either scope sees it
    obtain ⟨hc', hd'⟩ := hpar.corresponds.holds _ List.mem_cons_self
    have hleft := hpar.corresponds.left.rootOf_root hc'
    have hright := hpar.corresponds.right.rootOf_root hd'
    obtain ⟨hcroot, hdroot⟩ := hpar.roots _ List.mem_cons_self
    rw [hcroot] at hleft
    rw [hdroot, ← hcd] at hright
    rw [hleft, hright]
    exact hpar.corresponds.rootOf _ List.mem_cons_self
  · obtain ⟨hresult, hpar⟩ := render_parallel (v := ⟨s, supply⟩) (w := ⟨t, supply⟩) hr node
      hs.wellFormed ht.wellFormed hc (Store.holds_of_layout hlayout hc) hroot rfl
    have hsize := hpar.size
    have hequal := Store.size_eq_of_layout hlayout
    simp only at hsize
    exact ⟨hresult, hpar.corresponds.rootOf _ List.mem_cons_self, by omega⟩
  · have hpar := (render_parallel hr node hw.wellFormed hw.wellFormed hc hc rfl rfl).2
    exact ⟨hpar.first.others, hpar.first.added⟩

/-- A loop that binds a variable in each round, run by a Root, by a Sub of it, and beside another Root that
has that variable too. -/
theorem render_confined_to_root_beside :
    let moment : Moment := { day := 0, second := 0, nano := 0 }
    let supply : Supply := { draw := fun _ => 0, reading := fun _ => moment }
    let bare : Store := ((Store.empty.addRoot {}).2.addRoot {}).2
    let s : Store := (bare.addSub ⟨0⟩).2.setText ⟨1⟩ "x" "a"
    let t : Store := (bare.addSub ⟨0⟩).2.setText ⟨1⟩ "newrep" "b"
    let r : Renderer := { registry := Library.standard }
    let node : Node := .call "loop" [.text "3", .call "set" [.text "x", .var "iter"] [] none] [] none
    let after := (r.render ⟨2⟩ node ⟨s, supply⟩).2.store
    s.Reachable ∧ t.Reachable ∧ s ≠ t ∧
      (r.render ⟨2⟩ node ⟨s, supply⟩).1 = (r.render ⟨0⟩ node ⟨s, supply⟩).1 ∧
      (r.render ⟨2⟩ node ⟨s, supply⟩).1 = (r.render ⟨2⟩ node ⟨t, supply⟩).1 ∧
      after.get? ⟨2⟩ "x" = some (.text "2") ∧ after.frame? ⟨1⟩ = s.frame? ⟨1⟩ ∧
      ∃ b, after.frame? ⟨3⟩ = some (.sub b ⟨0⟩) := by
  intro moment supply bare s t r node after
  have hbare : (bare.addSub ⟨0⟩).2.Reachable :=
    .tail (.tail (.tail .refl (.addRoot _ {})) (.addRoot _ {})) (.addSub _ ⟨0⟩ (by decide))
  have hs : s.Reachable := .tail hbare (.set _ ⟨1⟩ (by decide) "x" _)
  have ht : t.Reachable := .tail hbare (.set _ ⟨1⟩ (by decide) "newrep" _)
  obtain ⟨hlocal, hrenders⟩ := render_confined_to_root
  obtain ⟨hscopes, hstores, hchanges⟩ := hrenders r node hlocal
  obtain ⟨hothers, hadded⟩ := hchanges ⟨2⟩ ⟨s, supply⟩ hs (by decide)
  have hne : s ≠ t := fun heq => absurd (congrArg (Store.get? · ⟨1⟩ "x") heq) (by decide +kernel)
  exact ⟨hs, ht, hne, (hscopes ⟨2⟩ ⟨0⟩ ⟨s, supply⟩ hs (by decide) (by decide) rfl).1,
    (hstores ⟨2⟩ s t supply hs ht (by decide) rfl rfl).1, by decide +kernel,
    hothers ⟨1⟩ _ (by decide) rfl, hadded ⟨3⟩ (by decide +kernel) (by decide)⟩

/-! ### Builtins that look elsewhere -/

/-- Tells what the first scope has under a name, removes it there and adds a Root, whoever calls. -/
def trespass : Library.Run := fun _ _ => do
  let seen := ((← Action.store).get? ⟨0⟩ "x").map Value.toText
  Action.update fun s => ((s.set ⟨0⟩ "x" none).addRoot {}).2
  return .text (seen.getD "")

/-- A builtin that compares its scope with the Root tells two scopes of one Root apart. One that names a scope of its
own sees what another Root owns, changes it, and adds scopes that are no Subs. -/
theorem render_beyond_root :
    let moment : Moment := { day := 0, second := 0, nano := 0 }
    let supply : Supply := { draw := fun _ => 0, reading := fun _ => moment }
    let registry := Library.standard.register "probe" {} (.simple Host.probe)
    let r : Renderer := { registry := registry.register "trespass" {} (.simple trespass) }
    let asks : Node := .call "probe" [.text "is_root"] [] none
    let intrudes : Node := .call "trespass" [] [] none
    let bare : Store := (((Store.empty.addRoot {}).2.addRoot {}).2.addSub ⟨1⟩).2
    let s := bare.setText ⟨0⟩ "x" "a"
    let t := bare.setText ⟨0⟩ "x" "b"
    let after := (r.render ⟨1⟩ intrudes ⟨s, supply⟩).2.store
    s.Reachable ∧ t.Reachable ∧ s.root ⟨1⟩ = s.root ⟨2⟩ ∧
      (r.render ⟨1⟩ asks ⟨s, supply⟩).1.toOption = some { text := "true", reports := [], gas := 2 } ∧
      (r.render ⟨2⟩ asks ⟨s, supply⟩).1.toOption = some { text := "false", reports := [], gas := 2 } ∧
      s.layout = t.layout ∧ s.rootOf ⟨1⟩ = t.rootOf ⟨1⟩ ∧
      (r.render ⟨1⟩ intrudes ⟨s, supply⟩).1.toOption = some { text := "a", reports := [], gas := 1 } ∧
      (r.render ⟨1⟩ intrudes ⟨t, supply⟩).1.toOption = some { text := "b", reports := [], gas := 1 } ∧
      s.root ⟨1⟩ ≠ ⟨0⟩ ∧ after.get? ⟨0⟩ "x" = none ∧ after.holds s.next ∧ after.kind s.next = .root := by
  intro moment supply registry r asks intrudes bare s t after
  have hbare : bare.Reachable :=
    .tail (.tail (.tail .refl (.addRoot _ {})) (.addRoot _ {})) (.addSub _ ⟨1⟩ (by decide))
  have hs : s.Reachable := .tail hbare (.set _ ⟨0⟩ (by decide) "x" _)
  have ht : t.Reachable := .tail hbare (.set _ ⟨0⟩ (by decide) "x" _)
  exact ⟨hs, ht, by decide +kernel, by decide +kernel, by decide +kernel, rfl, rfl, by decide +kernel,
    by decide +kernel, by decide, by decide +kernel, by decide +kernel, by decide +kernel⟩

end Renderer

end Stencil
