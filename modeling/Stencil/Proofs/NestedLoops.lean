import Stencil.Proofs.OutputLimit
import Stencil.Proofs.Sequence
import Stencil.Proofs.Unrolling

/-!
# Loops inside loops and the limit on their output

A loop inside another one checks two things against the limit: what it has yielded itself, and the count, which
only takes in the complete elements of outermost loops. What the loops around it and beside it have yielded for
the element under way does not matter to it. So each loop inside can fill what is left of the limit, and the
output of nested loops can be more than the limit. It is no more than the limit times the number of loops inside
one outermost loop.
-/

namespace Stencil

/-! ### Nested loops -/

mutual

/-- The number of loops in a node, those in its parts and arguments included. -/
def Node.loops : Node → Nat
  | .text _ => 0
  | .var _ => 0
  | .concat children => loopsAmong children
  | .call name args named _ => (if name = "loop" then 1 else 0) + loopsAmong args + loopsNamed named

def Node.loopsAmong : List Node → Nat
  | [] => 0
  | node :: rest => node.loops + loopsAmong rest

def Node.loopsNamed : List (String × Node) → Nat
  | [] => 0
  | (_, node) :: rest => node.loops + loopsNamed rest

end

/-- Loops over written spans that nest down to texts of one byte, so that there is no output but what
innermost loops yield. -/
inductive Node.LoopTree : Node → Prop where
  | byte {spec text : String} {span : Span} (hspan : Span.parse spec = .ok span)
      (htext : text.utf8ByteSize = 1) : LoopTree (.loopOver spec (.text text))
  | loop {spec : String} {body : Node} {span : Span} (hspan : Span.parse spec = .ok span)
      (hbody : LoopTree body) : LoopTree (.loopOver spec body)
  | row {spec : String} {trees : List Node} {span : Span} (hspan : Span.parse spec = .ok span)
      (htrees : ∀ tree ∈ trees, LoopTree tree) : LoopTree (.loopOver spec (.concat trees))

/-- What a template is put together from at the top. -/
def Node.parts : Node → List Node
  | .concat children => children
  | node => [node]

@[simp]
theorem Node.loops_loopOver (spec : String) (body : Node) : (loopOver spec body).loops = body.loops + 1 := by
  simp only [loopOver, loops, loopsAmong, loopsNamed, if_true]
  omega

/-! ### What a loop keeps -/

/- By induction on the elements that may still be taken. `I` is kept between the count and what the loop has
yielded. -/
theorem Step.drain_keeps {limits : Limits} {outermost : Bool} {body : Deferred Progress} {depth : Nat}
    (I : Nat → String → Prop) (hdepth : ∀ c p text q, body c p = .ok text q → q.depth = p.depth)
    (hbody : ∀ c p out text q, p.depth = depth → I p.looped out → ¬ limitReached limits p out →
      body c p = .ok text q → I (countElement outermost text q).looped (out ++ text))
    (fuel : Nat) {l : Loop} {v : Option Value} (hv : l.saved = some v) {out text : String} {p q : Progress}
    (hp : p.depth = depth) (h : I p.looped out)
    (hrun : drain limits outermost body fuel l out p = .ok text q) : I q.looped text := by
  have hstop : ∀ {l : Loop} {out : String} {p : Progress}, I p.looped out →
      (.ok out (l.restore p) : EStateM.Result Failure Progress String) = .ok text q → I q.looped text := by
    intro l out p h hq
    cases hq
    rw [Loop.restore_progress]
    exact h
  induction fuel generalizing l out p with
  | zero => exact hstop h hrun
  | succ n ih =>
    rw [drain_succ limits outermost body n hv] at hrun
    by_cases hreached : limitReached limits p out
    · rw [if_pos hreached] at hrun
      exact hstop h hrun
    · rw [if_neg hreached] at hrun
      cases hpull : l.cursor.pull with
      | mk next d =>
        rw [hpull] at hrun
        cases next with
        | none => exact hstop h hrun
        | some i =>
          obtain ⟨element, q', helement, hrest⟩ := afterBody_eq_ok hrun
          refine ih (l := { l with cursor := d }) hv ?_ ?_ hrest
          · rw [depth_countElement, hdepth _ _ _ _ helement]
            exact hp
          · exact hbody _ (l.entered i p) out element q' hp h hreached helement

namespace Renderer

variable {limits : Limits} {limit : UInt64} {c : Scope} {spec : String} {span : Span} {body : Node}
variable {p q : Progress} {text : String}

theorem loopOver_keeps (hlimit : limits.output = some limit) (hspan : Span.parse spec = .ok span)
    (I : Nat → String → Prop)
    (hbody : ∀ d s out element s', s.depth = p.depth + 1 → I s.looped out →
      ¬ Step.limitReached limits s out → Step.inlined ((standard limits).eval d body) s = .ok element s' →
        I (Step.countElement (p.depth == 0) element s').looped (out ++ element))
    (h : I p.looped "") (hrun : Step.inlined ((standard limits).eval c (.loopOver spec body)) p = .ok text q) :
    I q.looped text := by
  rw [eval_loopOver] at hrun
  have hloop := (unfaulted_loopOver hspan).eq_ok_of_inlined_ticks hrun
  rw [Step.loop_eq, hspan] at hloop
  simp only [Step.deeper] at hloop
  split at hloop
  · rename_i element q' hdrain
    cases hloop
    have hkept : I q'.looped text := by
      refine Step.drain_keeps I (fun _ _ _ _ => ?_) hbody _ rfl rfl ?_ hdrain
      · exact depth_of_inlined_eval (r := standard limits) hlimit
      · exact h
    exact hkept
  · cases hloop

/- The loop takes an element only while its own bytes leave room, so no more than one element goes beyond. -/
theorem bytes_loopOver_inside (hlimit : limits.output = some limit) (hspan : Span.parse spec = .ok span)
    (hp : p.depth ≠ 0) (most : Nat)
    (hbody : ∀ d s element s', s.depth ≠ 0 → s.looped = p.looped →
      Step.inlined ((standard limits).eval d body) s = .ok element s' → element.utf8ByteSize ≤ most)
    (hrun : Step.inlined ((standard limits).eval c (.loopOver spec body)) p = .ok text q) :
    text.utf8ByteSize = 0 ∨ text.utf8ByteSize < limit.toNat - p.looped + most := by
  have hkept := loopOver_keeps hlimit hspan (fun looped out => looped = p.looped ∧
    (out.utf8ByteSize = 0 ∨ out.utf8ByteSize < limit.toNat - p.looped + most)) ?_ ⟨rfl, .inl rfl⟩ hrun
  · exact hkept.2
  · rintro d s out element s' hs ⟨hlooped, -⟩ hreached helement
    have hinside : s.depth ≠ 0 := by omega
    have hsame := looped_of_inlined_eval (r := standard limits) hlimit hinside helement
    have hbytes := hbody d s element s' hinside hlooped helement
    have hroom : p.looped + out.utf8ByteSize < limit.toNat := by
      rw [Step.limitReached_eq hlimit, decide_eq_true_eq, if_neg (by omega), hlooped] at hreached
      omega
    refine ⟨?_, .inr ?_⟩
    · have houter : (p.depth == 0) = false := beq_false_of_ne hp
      rw [houter]
      exact hsame.trans hlooped
    · rw [String.utf8ByteSize_append]
      omega

/- The count is below the limit when an element is taken. The element has at most `inside` times the bytes that
are left, so both together are at most `inside` times the limit. -/
theorem looped_loopOver_outermost (hlimit : limits.output = some limit)
    (hspan : Span.parse spec = .ok span) (hp : p.depth = 0) {inside : Nat} (hinside : 1 ≤ inside)
    (hbody : ∀ d s element s', s.depth ≠ 0 → s.looped < limit.toNat →
      Step.inlined ((standard limits).eval d body) s = .ok element s' →
        element.utf8ByteSize ≤ inside * (limit.toNat - s.looped))
    (hrun : Step.inlined ((standard limits).eval c (.loopOver spec body)) p = .ok text q) :
    q.looped = p.looped + text.utf8ByteSize ∧ q.looped ≤ max p.looped (inside * limit.toNat) := by
  refine loopOver_keeps hlimit hspan (fun looped out => looped = p.looped + out.utf8ByteSize ∧
    looped ≤ max p.looped (inside * limit.toNat)) ?_ ⟨rfl, Nat.le_max_left _ _⟩ hrun
  rintro d s out element s' hs ⟨hlooped, -⟩ hreached helement
  have hdepth : s.depth ≠ 0 := by omega
  have hless := Step.looped_lt_of_not_limitReached hlimit hreached
  have hsame := looped_of_inlined_eval (r := standard limits) hlimit hdepth helement
  have hbytes := hbody d s element s' hdepth hless helement
  have hcount : (Step.countElement (p.depth == 0) element s').looped =
      s.looped + element.utf8ByteSize := by
    rw [hp, ← hsame]
    rfl
  have hfits : s.looped + element.utf8ByteSize ≤ inside * limit.toNat := calc
    s.looped + element.utf8ByteSize ≤ inside * s.looped + inside * (limit.toNat - s.looped) :=
      Nat.add_le_add (Nat.le_mul_of_pos_left _ hinside) hbytes
    _ = inside * limit.toNat := by rw [← Nat.mul_add, Nat.add_sub_cancel' (Nat.le_of_lt hless)]
  refine ⟨?_, ?_⟩
  · rw [hcount, hlooped, String.utf8ByteSize_append, Nat.add_assoc]
  · rw [hcount]
    exact Nat.le_trans hfits (Nat.le_max_right _ _)

end Renderer

/-! ### Nested loops and their output -/

section NestedLoops

variable {limits : Limits} {limit : UInt64} {c : Scope} {p q : Progress} {text : String}

theorem Renderer.eq_of_inlined_text {s : String}
    (h : Step.inlined ((standard limits).eval c (.text s)) p = .ok text q) : text = s := by
  simp only [eval, Step.inlined_tick_pure] at h
  obtain ⟨_, p₁, -, hpure⟩ := Act.bind_eq_ok h
  cases hpure
  rfl

theorem Renderer.evalConcat_of_inlined {nodes : List Node}
    (h : Step.inlined ((standard limits).eval c (.concat nodes)) p = .ok text q) :
    ∃ s, s.depth = p.depth ∧ s.looped = p.looped ∧
      (standard limits).evalConcat c "" nodes s = .ok text q := by
  rw [eval_concat] at h
  have hconcat := ((standard limits).unfaulted_evalConcat c "" nodes).eq_ok_of_inlined_ticks h
  exact ⟨{ p with gas := p.gas + 1 }, rfl, rfl, hconcat⟩

/-- Inside a loop, each loop of the node yields at most what is left of the limit. -/
def Node.Fits (limits : Limits) (limit : UInt64) (node : Node) : Prop :=
  ∀ (c : Scope) (p q : Progress) (text : String), p.depth ≠ 0 →
    Step.inlined ((Renderer.standard limits).eval c node) p = .ok text q →
      text.utf8ByteSize ≤ node.loops * (limit.toNat - p.looped)

namespace Node.Fits

variable {spec : String} {span : Span}

theorem loopOver_byte (hlimit : limits.output = some limit) (hspan : Span.parse spec = .ok span)
    {byte : String} (hbyte : byte.utf8ByteSize = 1) : (loopOver spec (.text byte)).Fits limits limit := by
  intro c p q text hp hrun
  have hbytes := Renderer.bytes_loopOver_inside hlimit hspan hp 1 ?_ hrun
  · rw [loops_loopOver, loops, Nat.zero_add, Nat.one_mul]
    omega
  · intro d s element s' hs hlooped helement
    rw [Renderer.eq_of_inlined_text helement]
    exact Nat.le_of_eq hbyte

theorem loopOver (hlimit : limits.output = some limit) (hspan : Span.parse spec = .ok span) {body : Node}
    (h : body.Fits limits limit) : (loopOver spec body).Fits limits limit := by
  intro c p q text hp hrun
  have hbytes := Renderer.bytes_loopOver_inside hlimit hspan hp
    (body.loops * (limit.toNat - p.looped)) ?_ hrun
  · rw [loops_loopOver, Nat.succ_mul]
    omega
  · intro d s element s' hs hlooped helement
    rw [← hlooped]
    exact h d s s' element hs helement

/- Inside a loop the count stands still, so what is left of the limit is the same for all of the nodes. -/
theorem evalConcat (hlimit : limits.output = some limit) {nodes : List Node}
    (hnodes : ∀ node ∈ nodes, node.Fits limits limit) {out : String} (hp : p.depth ≠ 0)
    (h : (Renderer.standard limits).evalConcat c out nodes p = .ok text q) :
    text.utf8ByteSize ≤ out.utf8ByteSize + loopsAmong nodes * (limit.toNat - p.looped) := by
  induction nodes generalizing out p with
  | nil =>
    simp only [Renderer.evalConcat] at h
    cases h
    exact Nat.le_add_right _ _
  | cons node rest ih =>
    rw [Renderer.evalConcat] at h
    obtain ⟨text₁, p₁, hnode, hrest⟩ := Act.bind_eq_ok h
    have hbytes := hnodes node (List.mem_cons_self ..) c p p₁ text₁ hp hnode
    have hdepth := Renderer.depth_of_inlined_eval (r := .standard limits) hlimit hnode
    have hlooped := Renderer.looped_of_inlined_eval (r := .standard limits) hlimit hp hnode
    have hmore := ih (fun node hmem => hnodes node (List.mem_cons_of_mem _ hmem)) (hdepth ▸ hp) hrest
    rw [hlooped, String.utf8ByteSize_append] at hmore
    rw [loopsAmong, Nat.add_mul]
    omega

theorem concat (hlimit : limits.output = some limit) {nodes : List Node}
    (hnodes : ∀ node ∈ nodes, node.Fits limits limit) : (Node.concat nodes).Fits limits limit := by
  intro c p q text hp hrun
  obtain ⟨s, hdepth, hlooped, hconcat⟩ := Renderer.evalConcat_of_inlined hrun
  have hbytes := evalConcat hlimit hnodes (hdepth ▸ hp) hconcat
  rw [hlooped, String.utf8ByteSize_empty, Nat.zero_add] at hbytes
  exact hbytes

end Node.Fits

namespace Node.LoopTree

theorem fits (hlimit : limits.output = some limit) {node : Node} (h : node.LoopTree) :
    node.Fits limits limit := by
  induction h with
  | byte hspan htext => exact .loopOver_byte hlimit hspan htext
  | loop hspan _ ih => exact .loopOver hlimit hspan ih
  | row hspan _ ih => exact .loopOver hlimit hspan (.concat hlimit ih)

/- Each element is at most `inside` times what is left of the limit: it is one byte, or it is what the loops
inside yield. -/
theorem looped_outermost (hlimit : limits.output = some limit) {node : Node} (h : node.LoopTree)
    {inside : Nat} (hinside : 1 ≤ inside) (hloops : node.loops ≤ inside + 1) (hp : p.depth = 0)
    (hrun : Step.inlined ((Renderer.standard limits).eval c node) p = .ok text q) :
    q.looped = p.looped + text.utf8ByteSize ∧ q.looped ≤ max p.looped (inside * limit.toNat) := by
  have hnested : ∀ {spec : String} {span : Span} {body : Node}, node = .loopOver spec body →
      Span.parse spec = .ok span → body.Fits limits limit →
        q.looped = p.looped + text.utf8ByteSize ∧ q.looped ≤ max p.looped (inside * limit.toNat) := by
    rintro spec span body rfl hspan hbody
    rw [loops_loopOver] at hloops
    refine Renderer.looped_loopOver_outermost hlimit hspan hp hinside ?_ hrun
    intro d s element s' hs hless helement
    exact Nat.le_trans (hbody d s s' element hs helement)
      (Nat.mul_le_mul_right _ (Nat.le_of_succ_le_succ hloops))
  cases h with
  | byte hspan htext =>
    refine Renderer.looped_loopOver_outermost hlimit hspan hp hinside ?_ hrun
    intro d s element s' hs hless helement
    rw [Renderer.eq_of_inlined_text helement, htext]
    exact Nat.mul_pos hinside (Nat.sub_pos_of_lt hless)
  | loop hspan hbody => exact hnested rfl hspan (hbody.fits hlimit)
  | row hspan htrees =>
    exact hnested rfl hspan (.concat hlimit fun tree hmem => (htrees tree hmem).fits hlimit)

end Node.LoopTree

namespace Renderer

theorem looped_evalConcat_outermost (hlimit : limits.output = some limit) {inside : Nat}
    (hinside : 1 ≤ inside) {trees : List Node}
    (htrees : ∀ tree ∈ trees, tree.LoopTree ∧ tree.loops ≤ inside + 1) {out : String} (hp : p.depth = 0)
    (h : (standard limits).evalConcat c out trees p = .ok text q) :
    q.looped + out.utf8ByteSize = p.looped + text.utf8ByteSize ∧
      q.looped ≤ max p.looped (inside * limit.toNat) := by
  induction trees generalizing out p with
  | nil =>
    simp only [evalConcat] at h
    cases h
    exact ⟨rfl, Nat.le_max_left _ _⟩
  | cons tree rest ih =>
    rw [evalConcat] at h
    obtain ⟨text₁, p₁, htree, hrest⟩ := Act.bind_eq_ok h
    obtain ⟨hloop, hloops⟩ := htrees tree (List.mem_cons_self ..)
    have hdepth := depth_of_inlined_eval (r := standard limits) hlimit htree
    have hfirst := hloop.looped_outermost hlimit hinside hloops hp htree
    have hmore := ih (fun tree hmem => htrees tree (List.mem_cons_of_mem _ hmem)) (hdepth.trans hp) hrest
    rw [String.utf8ByteSize_append] at hmore
    omega

/-- The output of nested loops is at most the limit times the number of loops inside an outermost loop. So
it keeps to the limit where no outermost loop has more than one loop inside. -/
theorem nested_loops_output_le (limits : Limits) (limit : UInt64) (hlimit : limits.output = some limit)
    (inside : Nat) (hinside : 1 ≤ inside) (node : Node)
    (htrees : ∀ tree ∈ node.parts, tree.LoopTree ∧ tree.loops ≤ inside + 1) (c : Scope) (w v : World)
    (out : Rendered) (hrun : (standard limits).render c node w = (.ok out, v)) :
    out.text.utf8ByteSize ≤ inside * limit.toNat := by
  obtain ⟨q, hq, -, -, -⟩ := render_eq_ok.mp hrun
  have hgrown : q.looped = 0 + out.text.utf8ByteSize ∧ q.looped ≤ max 0 (inside * limit.toNat) := by
    cases node with
    | text s => cases (htrees _ (List.mem_singleton_self _)).1
    | var name => cases (htrees _ (List.mem_singleton_self _)).1
    | call name args named into =>
      obtain ⟨hloop, hloops⟩ := htrees _ (List.mem_singleton_self _)
      exact hloop.looped_outermost hlimit hinside hloops rfl hq
    | concat trees =>
      obtain ⟨s, hdepth, hlooped, hconcat⟩ := evalConcat_of_inlined hq
      have h := looped_evalConcat_outermost hlimit hinside htrees hdepth hconcat
      rw [hlooped] at h
      exact h
  omega

/-- A loop with a loop inside and a loop beside it, cut off at the limit. -/
theorem nested_loops_output_le_siblings :
    let moment : Moment := { day := 0, second := 0, nano := 0 }
    let w : World := { store := (Store.empty.addRoot {}).2,
                       supply := { draw := fun _ => 0, reading := fun _ => moment } }
    let limits : Limits := { output := some 3 }
    let nested : Node := .loopOver "9" (.loopOver "3" (.text "x"))
    let flat : Node := .loopOver "5,0,-1" (.text "y")
    let out : Rendered := { text := "xxx", reports := [], gas := 12 }
    ∃ v, (standard limits).render ⟨0⟩ (.concat [nested, flat]) w = (.ok out, v) ∧
      out.text.utf8ByteSize ≤ 1 * (3 : UInt64).toNat := by
  intro moment w limits nested flat out
  have hok : ((standard limits).render ⟨0⟩ (.concat [nested, flat]) w).1.toOption = some out := by
    decide +kernel
  have hrun := eq_ok_of_toOption hok
  have hnine : Span.parse "9" = .ok { start := 1, stop := 9, step := 1 } := rfl
  have hthree : Span.parse "3" = .ok { start := 1, stop := 3, step := 1 } := rfl
  have hdown : Span.parse "5,0,-1" = .ok { start := 5, stop := 0, step := -1 } := rfl
  have htrees : ∀ tree ∈ (Node.concat [nested, flat]).parts, tree.LoopTree ∧ tree.loops ≤ 1 + 1 :=
    List.forall_mem_cons.mpr ⟨⟨.loop hnine (.byte hthree rfl), by decide⟩,
      List.forall_mem_singleton.mpr ⟨.byte hdown rfl, by decide⟩⟩
  exact ⟨_, hrun, nested_loops_output_le limits 3 rfl 1 (by decide) _ htrees ⟨0⟩ w _ out hrun⟩

/-- With two loops inside a loop the output of loops exceeds the limit. -/
theorem nested_loops_exceed_limit :
    let moment : Moment := { day := 0, second := 0, nano := 0 }
    let w : World := { store := (Store.empty.addRoot {}).2,
                       supply := { draw := fun _ => 0, reading := fun _ => moment } }
    let limits : Limits := { output := some 1 }
    let node : Node := .loopOver "2" (.concat [.loopOver "2" (.text "x"), .loopOver "2" (.text "x")])
    let out : Rendered := { text := "xx", reports := [], gas := 9 }
    node.LoopTree ∧ node.loops = 3 ∧
      ((standard limits).render ⟨0⟩ node w).1.toOption = some out ∧ 1 < out.text.utf8ByteSize := by
  intro moment w limits node out
  have hspan : Span.parse "2" = .ok { start := 1, stop := 2, step := 1 } := rfl
  have hbyte : (Node.loopOver "2" (.text "x")).LoopTree := .byte hspan rfl
  have htree : node.LoopTree :=
    .row hspan (List.forall_mem_cons.mpr ⟨hbyte, List.forall_mem_singleton.mpr hbyte⟩)
  exact ⟨htree, by decide, by decide +kernel, by decide⟩

end Renderer

end NestedLoops

end Stencil
