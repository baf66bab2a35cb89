import Stencil.Proofs.Renders

/-!
# Stages

A stage is a store with the loops under way on it. It moves by everything that a host can do: scopes are
added, variables set, loops begun, pulled and dropped in any order, templates rendered. All moves come
down to operations on the store, so that what operations keep holds of every stage reached.
-/

namespace Stencil

/-- A store and the loops that are under way on it. -/
structure Stage where
  store : Store
  loops : List Loop

def Stage.empty : Stage :=
  { store := .empty, loops := [] }

/-- What can happen on a stage. The body of a loop may be another one at each pull, and may keep a state
beside the store. Renders are with any limits and with builtins that act on the store by operations, as the
standard ones do (`Library.standard_isLocal`). -/
inductive Stage.Move : Stage → Stage → Prop where
  | addRoot (s : Store) (ls : List Loop) (guild : Directory) : Move ⟨s, ls⟩ ⟨(s.addRoot guild).2, ls⟩
  | addSub (s : Store) (ls : List Loop) (c : Scope) (hc : s.holds c) :
      Move ⟨s, ls⟩ ⟨(s.addSub c).2, ls⟩
  | set (s : Store) (ls : List Loop) (c : Scope) (hc : s.holds c) (name : String)
      (value : Option Value) : Move ⟨s, ls⟩ ⟨s.set c name value, ls⟩
  | setText (s : Store) (ls : List Loop) (c : Scope) (hc : s.holds c) (name text : String) :
      Move ⟨s, ls⟩ ⟨s.setText c name text, ls⟩
  | begin {σ : Type} [HasStore σ] [LawfulStore σ] (s t : σ) (ls : List Loop) (c : Scope)
      (hc : (HasStore.store s).holds c) (spec : String) (l : Loop)
      (hl : Loop.begin c spec s = .ok l t) :
      Move ⟨HasStore.store s, ls⟩ ⟨HasStore.store t, l :: ls⟩
  | pull {σ : Type} [HasStore σ] [LawfulStore σ] (s : σ) (before rest : List Loop) (l : Loop)
      (body : Deferred σ) (hb : Public body) :
      Move ⟨HasStore.store s, before ++ l :: rest⟩
        ⟨HasStore.store (l.pull body s).2, before ++ (l.pull body s).1.2 :: rest⟩
  | drop {σ : Type} [HasStore σ] [LawfulStore σ] (s : σ) (before rest : List Loop) (l : Loop) :
      Move ⟨HasStore.store s, before ++ l :: rest⟩ ⟨HasStore.store (l.restore s), before ++ rest⟩
  | render (w : World) (ls : List Loop) (r : Renderer) (hr : r.registry.IsPublic) (c : Scope)
      (hc : w.store.holds c) (node : Node) : Move ⟨w.store, ls⟩ ⟨(r.render c node w).2.store, ls⟩

namespace Stage

/-- A stage that moves make out of the empty one. -/
def Reached (g : Stage) : Prop :=
  Relation.ReflTransGen Move empty g

/-- The store is well-formed and has the scopes of all loops. -/
structure Sound (g : Stage) : Prop where
  wellFormed : g.store.WellFormed
  placed : ∀ l ∈ g.loops, l.Placed g.store

theorem sound_empty : empty.Sound :=
  ⟨.empty, fun _ hl => nomatch hl⟩

theorem Move.reaches {g g' : Stage} (h : Move g g') (hg : g.Sound) : g.store.Reaches g'.store := by
  cases h with
  | addRoot s ls guild => exact .single (.addRoot s guild)
  | addSub s ls c hc => exact Store.Reaches.addSub hc
  | set s ls c hc name value => exact Store.Reaches.set hc name value
  | setText s ls c hc name text => exact Store.Reaches.set hc name _
  | begin s t ls c hc spec l hl =>
    obtain ⟨span, -, rfl, rfl⟩ := Loop.start_of_begin hl
    exact (Loop.placed_start hc span).1
  | pull s before rest l body hb =>
    have hl := hg.placed l (by simp)
    exact (Loop.Placed.pull hl hg.wellFormed hb).1
  | drop s before rest l =>
    have hl := hg.placed l (by simp)
    exact Loop.Placed.restore hl
  | render w ls r hr c hc node => exact r.render_reaches hr c node w hg.wellFormed hc

theorem Sound.move {g g' : Stage} (hg : g.Sound) (h : Move g g') : g'.Sound := by
  have hr := h.reaches hg
  -- loops that were there stay placed, for scopes are never removed
  have hold : ∀ l ∈ g.loops, l.Placed g'.store :=
    fun l hl => (hg.placed l hl).mono hr l.cursor l.saved
  refine ⟨hr.wellFormed hg.wellFormed, ?_⟩
  cases h with
  | addRoot s ls guild => exact hold
  | addSub s ls c hc => exact hold
  | set s ls c hc name value => exact hold
  | setText s ls c hc name text => exact hold
  | begin s t ls c hc spec l hl =>
    obtain ⟨span, -, rfl, rfl⟩ := Loop.start_of_begin hl
    intro m hm
    rcases List.mem_cons.1 hm with rfl | hm
    · exact (Loop.placed_start hc span).2
    · exact hold m hm
  | pull s before rest l body hb =>
    intro m hm
    rcases List.mem_append.1 hm with hm | hm
    · exact hold m (by simp [hm])
    · rcases List.mem_cons.1 hm with rfl | hm
      · exact (Loop.Placed.pull (hg.placed l (by simp)) hg.wellFormed hb).2
      · exact hold m (by simp [hm])
  | drop s before rest l =>
    intro m hm
    rcases List.mem_append.1 hm with hm | hm
    · exact hold m (by simp [hm])
    · exact hold m (by simp [hm])
  | render w ls r hr c hc node => exact hold

theorem Reached.sound {g : Stage} (h : g.Reached) : g.Sound := by
  induction h with
  | refl => exact sound_empty
  | tail _ hm ih => exact ih.move hm

/-- The store of every stage reached is well-formed, and no move changes what a scope is. -/
theorem reached_wellFormed (g : Stage) (h : g.Reached) :
    (∀ c b r, g.store.frame? c = some (.sub b r) → b.index < c.index) ∧
    (∀ c, g.store.holds c → (∀ d, g.store.Climbs c d ↔ d = g.store.root c) ∧
      g.store.resolveRoot c = g.store.root c ∧
      ∃ r, g.store.frame? (g.store.root c) = some (.root r)) ∧
    (∀ c r, g.store.frame? c = some (.root r) →
      (∀ e ∈ r.table.entries, e.2 ≠ .text "" ∧ e.1 ≠ replaceOrderVariable) ∧
      r.table.names.Pairwise (· < ·)) ∧
    (∀ g', Move g g' → ∀ c, g.store.holds c → g'.store.holds c ∧
      g'.store.kind c = g.store.kind c ∧ g'.store.base c = g.store.base c ∧
      g'.store.root c = g.store.root c) := by
  have hg := h.sound
  have hs := hg.wellFormed
  refine ⟨fun c b r hf => hs.older c b r (Store.link?_eq_some_iff.2 hf), fun c hc => ⟨fun d => ?_,
    hs.resolveRoot_eq_root c, hs.root_frame hc⟩, fun c r hf => ⟨fun e he => ⟨?_, ?_⟩, ?_⟩,
    fun g' hm c hc => ?_⟩
  · constructor
    · intro hd
      exact hd.unique (hs.climbs_root hc)
    · rintro rfl
      exact hs.climbs_root hc
  · intro hv
    have hempty := (hs.proper c r hf).nonempty e he
    rw [hv] at hempty
    exact absurd hempty (by decide)
  · exact (hs.proper c r hf).unreserved e he
  · exact List.pairwise_map.2 (hs.proper c r hf).sorted
  · have hk := (hm.reaches hg).keeps
    exact ⟨(hk c hc).1, hk.kind hc, hk.base hc, hk.root hc⟩

/-- A Root, a Sub, a write through the Sub, a loop begun there and pulled once, and a render from the Sub
that is cut short by its gas while the loop is under way. -/
theorem reached_wellFormed_looping :
    let s : Store := ((Store.empty.addRoot {}).2.addSub ⟨0⟩).2.setText ⟨1⟩ "x" "1"
    let moment : Moment := { day := 0, second := 0, nano := 0 }
    let w : World := { store := s, supply := { draw := fun _ => 0, reading := fun _ => moment } }
    let begun := Loop.start ⟨1⟩ { start := 1, stop := 3, step := 1 } w
    let body : Deferred World := fun c v => .ok "" { v with store := v.store.setText c "iter" "" }
    let pulled := begun.1.pull body begun.2
    let r : Renderer := { registry := Library.standard, limits := { gas := 3 } }
    let node : Node := .concat [.call "set" [.text "y", .text "2"] [] none]
    let g : Stage := ⟨(r.render ⟨1⟩ node pulled.2).2.store, [pulled.1.2]⟩
    (r.render ⟨1⟩ node pulled.2).1 = .error .exhausted ∧ g.Reached ∧
      g.store.resolveRoot ⟨2⟩ = g.store.root ⟨2⟩ ∧ g.store.root ⟨2⟩ = ⟨0⟩ := by
  intro s moment w begun body pulled r node g
  have hbody : Public body := fun c v _ hc => Store.Reaches.set hc _ _
  have h₁ : Reached ⟨s, []⟩ :=
    .tail (.tail (.tail .refl (.addRoot _ [] {})) (.addSub _ [] ⟨0⟩ (by decide)))
      (.setText _ [] ⟨1⟩ (by decide) "x" "1")
  have h₂ : Reached ⟨begun.2.store, [begun.1]⟩ :=
    .tail h₁ (.begin w begun.2 [] ⟨1⟩ (by decide) "3" begun.1 rfl)
  have h₃ : Reached ⟨pulled.2.store, [pulled.1.2]⟩ :=
    .tail h₂ (.pull begun.2 [] [] begun.1 body hbody)
  have h₄ : Reached g :=
    .tail h₃ (.render pulled.2 _ r Library.standard_isLocal.isPublic ⟨1⟩ rfl node)
  exact ⟨rfl, h₄, ((reached_wellFormed g h₄).2.1 ⟨2⟩ rfl).2.1, rfl⟩

end Stage

end Stencil
