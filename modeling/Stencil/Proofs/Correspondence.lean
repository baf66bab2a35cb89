import Stencil.Proofs.SideBySide

/-!
# Stores that correspond

Scopes of two stores are paired. The stores correspond when paired scopes see the same Root and two pairs
share a Root on the one side where they share it on the other. What is done through paired scopes keeps
this, so that a render depends on nothing but what its scope sees.
-/

namespace Stencil

namespace Store

variable {s t : Store} {c d : Scope}

/-- Paired scopes see the same, and pairs share a Root in one store if they do so in the other. -/
structure Corresponds (K : List (Scope × Scope)) (s t : Store) : Prop where
  left : s.WellFormed
  right : t.WellFormed
  holds : ∀ k ∈ K, s.holds k.1 ∧ t.holds k.2
  rootOf : ∀ k ∈ K, s.rootOf k.1 = t.rootOf k.2
  shared : ∀ k ∈ K, ∀ k' ∈ K, s.root k.1 = s.root k'.1 ↔ t.root k.2 = t.root k'.2

namespace Corresponds

variable {K : List (Scope × Scope)}

theorem forget {k : Scope × Scope} (h : Corresponds (k :: K) s t) : Corresponds K s t where
  left := h.left
  right := h.right
  holds k' hk' := h.holds k' (List.mem_cons_of_mem _ hk')
  rootOf k' hk' := h.rootOf k' (List.mem_cons_of_mem _ hk')
  shared k' hk' k'' hk'' := h.shared k' (List.mem_cons_of_mem _ hk') k'' (List.mem_cons_of_mem _ hk'')

theorem set (h : Corresponds K s t) (hcd : (c, d) ∈ K) (name : String) (value : Option Value) :
    Corresponds K (s.set c name value) (t.set d name value) where
  left := h.left.set c name value
  right := h.right.set d name value
  holds k hk := by
    rw [holds_set, holds_set]
    exact h.holds k hk
  rootOf k hk := by
    obtain ⟨hc, hd⟩ := h.holds _ hcd
    rw [h.left.rootOf_set hc, h.right.rootOf_set hd, h.rootOf k hk]
    simp only [h.shared k hk _ hcd]
  shared k hk k' hk' := by
    simp only [root_set]
    exact h.shared k hk k' hk'

/- Pairs of new stores that each stand for a pair of the old ones, in what they see and in their Roots. -/
theorem of_stands {K' : List (Scope × Scope)} {s' t' : Store} (h : Corresponds K s t)
    (hs : s'.WellFormed) (ht : t'.WellFormed)
    (stands : ∀ k ∈ K', ∃ j ∈ K, (s'.holds k.1 ∧ t'.holds k.2) ∧
      (s'.rootOf k.1 = s.rootOf j.1 ∧ t'.rootOf k.2 = t.rootOf j.2) ∧
      s'.root k.1 = s.root j.1 ∧ t'.root k.2 = t.root j.2) : Corresponds K' s' t' := by
  refine ⟨hs, ht, fun k hk => ?_, fun k hk => ?_, fun k hk k' hk' => ?_⟩
  · obtain ⟨-, -, hholds, -⟩ := stands k hk
    exact hholds
  · obtain ⟨j, hj, -, ⟨hl, hr⟩, -⟩ := stands k hk
    rw [hl, hr, h.rootOf j hj]
  · obtain ⟨j, hj, -, -, hl, hr⟩ := stands k hk
    obtain ⟨j', hj', -, -, hl', hr'⟩ := stands k' hk'
    rw [hl, hr, hl', hr']
    exact h.shared j hj j' hj'

theorem addSub (h : Corresponds K s t) (hcd : (c, d) ∈ K) :
    Corresponds ((s.next, t.next) :: K) (s.addSub c).2 (t.addSub d).2 := by
  obtain ⟨hc, hd⟩ := h.holds _ hcd
  refine h.of_stands (h.left.addSub hc) (h.right.addSub hd) fun k hk => ?_
  rcases List.mem_cons.1 hk with rfl | hk
  · exact ⟨(c, d), hcd, ⟨holds_next_addSub s c, holds_next_addSub t d⟩,
      ⟨h.left.rootOf_addSub_next hc, h.right.rootOf_addSub_next hd⟩,
      root_addSub_next s c, root_addSub_next t d⟩
  · obtain ⟨hl, hr⟩ := h.holds k hk
    exact ⟨k, hk, ⟨(Reaches.addSub hc).holds hl, (Reaches.addSub hd).holds hr⟩,
      ⟨h.left.rootOf_addSub hl, h.right.rootOf_addSub hr⟩, root_addSub hl, root_addSub hr⟩

/- A Sub on one side only is paired with what its base is paired with. -/
theorem addSub_left (h : Corresponds K s t) (hcd : (c, d) ∈ K) :
    Corresponds ((s.next, d) :: K) (s.addSub c).2 t := by
  obtain ⟨hc, hd⟩ := h.holds _ hcd
  refine h.of_stands (h.left.addSub hc) h.right fun k hk => ?_
  rcases List.mem_cons.1 hk with rfl | hk
  · exact ⟨(c, d), hcd, ⟨holds_next_addSub s c, hd⟩, ⟨h.left.rootOf_addSub_next hc, rfl⟩,
      root_addSub_next s c, rfl⟩
  · obtain ⟨hl, hr⟩ := h.holds k hk
    exact ⟨k, hk, ⟨(Reaches.addSub hc).holds hl, hr⟩, ⟨h.left.rootOf_addSub hl, rfl⟩,
      root_addSub hl, rfl⟩

theorem refl (h : s.WellFormed) (hK : ∀ k ∈ K, k.1 = k.2 ∧ s.holds k.1) : Corresponds K s s where
  left := h
  right := h
  holds k hk := ⟨(hK k hk).2, (hK k hk).1 ▸ (hK k hk).2⟩
  rootOf k hk := by rw [(hK k hk).1]
  shared k hk k' hk' := by rw [(hK k hk).1, (hK k' hk').1]

end Corresponds

def scopes (s : Store) : List (Scope × Scope) :=
  (List.range s.frames.size).map fun i => (⟨i⟩, ⟨i⟩)

theorem mem_scopes : (d, d) ∈ s.scopes ↔ s.holds d := by
  obtain ⟨i⟩ := d
  simp [scopes, holds]

theorem Corresponds.scopes (h : s.WellFormed) : Corresponds s.scopes s s := by
  refine .refl h fun k hk => ?_
  obtain ⟨i, hi, rfl⟩ := List.mem_map.1 hk
  exact ⟨rfl, by simpa [Store.holds] using hi⟩

end Store

theorem Act.SameEnd.attributed {σ α : Type} {R : σ → σ → Prop} {x y : Act σ α} {s t : σ}
    (h : Act.SameEnd R (x s) (y t)) (name : String) :
    Act.SameEnd R (x.attributed name s) (y.attributed name t) := by
  unfold Act.attributed
  generalize x s = rx at h
  generalize y t = ry at h
  cases h with
  | ok a h => exact .ok a h
  | error e h =>
    cases e with
    | fault e => exact .error _ h
    | exhausted => exact .error _ h
    | unprintable => exact .error _ h

/- A relation of stores that shows the same Root to both scopes and outlasts a variable being set through
them outlasts all that a builtin does. -/
theorem Action.Local.sameEnd {α : Type} {x : Scope → Action α} (h : Action.Local x)
    {R : Store → Store → Prop} {c d : Scope} (hroot : ∀ s t, R s t → s.rootOf c = t.rootOf d)
    (hset : ∀ s t, R s t → ∀ name value, R (s.set c name value) (t.set d name value)) {v w : World}
    (hvw : R v.store w.store) (hsupply : v.supply = w.supply) :
    Act.SameEnd (fun v w => R v.store w.store ∧ v.supply = w.supply) (x c v) (x d w) := by
  induction h generalizing v w with
  | pure a => exact .ok a ⟨hvw, hsupply⟩
  | fail e => exact .error e ⟨hvw, hsupply⟩
  | bind hx hf ihx ihf =>
    rename_i x f
    have hstep := ihx hvw hsupply
    show Act.SameEnd _ ((x c >>= fun a => f a c) v) ((x d >>= fun a => f a d) w)
    generalize hv : x c v = rv at hstep
    generalize hw : x d w = rw at hstep
    cases hstep with
    | ok a h =>
      rw [Act.bind_of_ok hv, Act.bind_of_ok hw]
      exact ihf a h.1 h.2
    | error e h =>
      rw [Act.bind_of_error hv, Act.bind_of_error hw]
      exact .error e h
  | attributed name hx ihx =>
    exact (ihx hvw hsupply).attributed name
  | root =>
    show Act.SameEnd _ (.ok (v.store.rootOf c) v) (.ok (w.store.rootOf d) w)
    rw [hroot _ _ hvw]
    exact .ok _ ⟨hvw, hsupply⟩
  | set name value => exact .ok () ⟨hset _ _ hvw name value, hsupply⟩
  | draw =>
    show Act.SameEnd _ (.ok (v.supply.draw v.supply.drawn) { v with supply := _ })
      (.ok (w.supply.draw w.supply.drawn) { w with supply := _ })
    rw [hsupply]
    exact .ok _ ⟨hvw, rfl⟩
  | now =>
    show Act.SameEnd _ (.ok (v.supply.reading v.supply.read) { v with supply := _ })
      (.ok (w.supply.reading w.supply.read) { w with supply := _ })
    rw [hsupply]
    exact .ok _ ⟨hvw, rfl⟩

/-- Stores that correspond, for builtins that reach the store through their scope. -/
def Likeness.corresponding {registry : Registry} (h : registry.IsLocal) : Likeness registry where
  rel := Store.Corresponds
  forget hst := hst.forget
  get? hst hcd name := by rw [Store.get?_eq, Store.get?_eq, hst.rootOf _ hcd]
  set hst hcd := hst.set hcd
  addSub hst hcd := hst.addSub hcd
  call hvw hsupply hcd name bare into args := (h.call name bare into args).sameEnd
    (fun _ _ hst => hst.rootOf _ hcd) (fun _ _ hst => hst.set hcd) hvw hsupply

end Stencil
