import Receipt.Proofs.Compile.Conversion

/-!
# Sessions of a compiler

A compiler keeps the tree that it compiled last, together with the context that it used.  So over
any number of runs it gives back the very same tree as long as the context stays the same, and
compiles anew whenever the context changes, also when it comes back to one that it had before.

* `Session` is any number of runs of one compiler.  The contexts may keep state, and the state may
  be changed between two runs.
* `Session.Keeps` is what holds between two runs: the compiler keeps the tree of the last step, and
  its serial numbers are used up.
* `Step.Reuses` and `Step.CompilesAnew` are what one step can do, and `Keeps.step_cases` says when
  it does which.
* `Session.step_at`: a step gives back the tree of the step before, or takes a new serial number.
* `Session.same_tree_iff_same_context`: which steps give the very same tree, and what the others do.
-/

namespace Receipt.Compiler

variable {σ : Type}

/-! ## Steps -/

/-- One run, as it is seen from outside. -/
structure Step (σ : Type) where
  id : ContextId
  /-- The state of the contexts before the run. -/
  before : σ
  tree : Compiled
  /-- The state of the contexts after the run. -/
  after : σ
  /-- The calls that the context got. -/
  calls : List Context.Call

/-- The context of a name.  The compiler's own one is the plain context. -/
def contextOf (callers : Nat → Context σ) : ContextId → Context σ
  | .own => Context.plain
  | .caller index => callers index

/-- The run of a compiler with the context of the given name. -/
def step (compiler : Compiler) (callers : Nat → Context σ) (id : ContextId) (state : σ) : Step σ :=
  let compilation := compiler.run id (contextOf callers id) state
  { id
    before := state
    tree := compilation.tree
    after := compilation.state
    calls := compiler.callsOfRun id (contextOf callers id) state }

/-- The compiler after a run. -/
def afterStep (compiler : Compiler) (callers : Nat → Context σ) (id : ContextId) (state : σ) :
    Compiler :=
  (compiler.run id (contextOf callers id) state).compiler

/-- Any number of runs of a compiler, which lead from its first state to its present one.  Between
two runs the state of the contexts may be changed. -/
inductive Session (callers : Nat → Context σ) (first : Compiler) :
    List (Step σ) → Compiler → σ → Prop
  | start (state : σ) : Session callers first [] first state
  | run {steps : List (Step σ)} {compiler : Compiler} {state : σ}
      (h : Session callers first steps compiler state) (id : ContextId) :
      Session callers first (steps ++ [compiler.step callers id state])
        (compiler.afterStep callers id state) (compiler.step callers id state).after
  | change {steps : List (Step σ)} {compiler : Compiler} {state : σ}
      (h : Session callers first steps compiler state) (state' : σ) :
      Session callers first steps compiler state'

/-! ## One step -/

variable {callers : Nat → Context σ} {compiler first : Compiler} {id : ContextId} {state : σ}
  {steps : List (Step σ)}

/-- Two compilers for one markup that compile it anew make the same nodes with the same calls. -/
theorem compileAnew_congr (h : compiler.plainTree = first.plainTree) (id : ContextId)
    (context : Context σ) (state : σ) :
    (compiler.compileAnew id context state).tree.nodes =
        (first.compileAnew id context state).tree.nodes ∧
      (compiler.compileAnew id context state).state =
        (first.compileAnew id context state).state := by
  have hcompiler := compileAnew_eq compiler id context state
  rw [h, ← compileAnew_eq first id context state] at hcompiler
  exact Prod.mk.inj hcompiler

/-- What a step gives that does what the first run of a new compiler does. -/
structure Step.CompilesAnew (first : Compiler) (callers : Nat → Context σ) (step : Step σ) :
    Prop where
  nodes : step.tree.nodes = (first.step callers step.id step.before).tree.nodes
  after : step.after = (first.step callers step.id step.before).after
  calls : step.calls = (first.step callers step.id step.before).calls

/-- What a step gives that gives back the tree of an earlier one. -/
structure Step.Reuses (earlier step : Step σ) : Prop where
  tree : step.tree = earlier.tree
  after : step.after = step.before
  calls : step.calls = []

/-- What holds of a compiler after some steps: it has the tree of the last of them, and has used up
their serial numbers. -/
structure Keeps (first : Compiler) (steps : List (Step σ)) (compiler : Compiler) : Prop where
  plainTree : compiler.plainTree = first.plainTree
  last : compiler.last = steps.getLast?.map fun step => (step.id, step.tree)
  serial_lt : ∀ step ∈ steps, step.tree.serial < compiler.compiled

/-- What a step can do.  If the last step had the same context, it gives back that one's tree, and
the compiler stays as it is.  If not, it compiles anew and takes the next serial number. -/
theorem Keeps.step_cases (h : Keeps first steps compiler) (hfirst : first.last = none)
    (callers : Nat → Context σ) (id : ContextId) (state : σ) :
    (∃ last, steps.getLast? = some last ∧ last.id = id ∧
      Step.Reuses last (compiler.step callers id state) ∧
      compiler.afterStep callers id state = compiler) ∨
    ((∀ last, steps.getLast? = some last → last.id ≠ id) ∧
      Step.CompilesAnew first callers (compiler.step callers id state) ∧
      (compiler.step callers id state).tree.serial = compiler.compiled ∧
      Keeps first (steps ++ [compiler.step callers id state])
        (compiler.afterStep callers id state)) := by
  by_cases hsame : ∃ last, steps.getLast? = some last ∧ last.id = id
  · obtain ⟨last, hlast, hid⟩ := hsame
    have hcached : compiler.last = some (id, last.tree) := by rw [h.last, hlast, ← hid]; rfl
    refine .inl ⟨last, hlast, hid, ⟨?_, ?_, ?_⟩, ?_⟩
    · rw [step, run_again hcached]
    · rw [step, run_again hcached]
    · show (compiler.run id (contextOf callers id).recorded (state, [])).state.2 = []
      rw [run_again hcached]
    · rw [afterStep, run_again hcached]
  · have hanew : ∀ tree, compiler.last ≠ some (id, tree) := by
      intro tree hcached
      rw [h.last] at hcached
      obtain ⟨last, hlast, heq⟩ := Option.map_eq_some_iff.mp hcached
      exact hsame ⟨last, hlast, congrArg Prod.fst heq⟩
    have hanewFirst : ∀ tree, first.last ≠ some (id, tree) := by simp [hfirst]
    have hmade := compileAnew_congr h.plainTree id (contextOf callers id) state
    have hrecorded := compileAnew_congr h.plainTree id (contextOf callers id).recorded
      (state, [])
    refine .inr ⟨fun last hlast hid => hsame ⟨last, hlast, hid⟩, ⟨?_, ?_, ?_⟩, ?_, ?_⟩
    · show (compiler.run id (contextOf callers id) state).tree.nodes =
        (first.run id (contextOf callers id) state).tree.nodes
      rw [run_anew hanew, run_anew hanewFirst]
      exact hmade.1
    · show (compiler.run id (contextOf callers id) state).state =
        (first.run id (contextOf callers id) state).state
      rw [run_anew hanew, run_anew hanewFirst]
      exact hmade.2
    · show (compiler.run id (contextOf callers id).recorded (state, [])).state.2 =
        (first.run id (contextOf callers id).recorded (state, [])).state.2
      rw [run_anew hanew, run_anew hanewFirst, hrecorded.2]
    · rw [step, run_anew hanew]
      rfl
    · rw [step, afterStep, run_anew hanew]
      refine ⟨h.plainTree, ?_, ?_⟩
      · rw [List.getLast?_concat]
        rfl
      · intro step hstep
        rcases List.mem_append.mp hstep with hold | hnew
        · exact Nat.lt_succ_of_lt (h.serial_lt step hold)
        · rw [List.mem_singleton.mp hnew]
          exact Nat.lt_succ_self compiler.compiled

/-! ## Any number of steps -/

theorem Keeps.concat_of_reuses {last : Step σ} (h : Keeps first steps compiler)
    (hlast : steps.getLast? = some last) (hid : last.id = id)
    (hreuses : Step.Reuses last (compiler.step callers id state)) :
    Keeps first (steps ++ [compiler.step callers id state]) compiler where
  plainTree := h.plainTree
  last := by
    rw [h.last, hlast, List.getLast?_concat, Option.map_some, Option.map_some, hreuses.tree, hid]
    rfl
  serial_lt := by
    intro step hstep
    rcases List.mem_append.mp hstep with hold | hnew
    · exact h.serial_lt step hold
    · rw [List.mem_singleton.mp hnew, hreuses.tree]
      exact h.serial_lt last (List.mem_of_getLast? hlast)

namespace Session

/-- What holds of a compiler between two runs. -/
theorem keeps (h : Session callers first steps compiler state) (hfirst : first.last = none) :
    Keeps first steps compiler := by
  induction h with
  | start state => exact ⟨rfl, hfirst, by simp⟩
  | @run steps compiler state h id ih =>
    rcases ih.step_cases hfirst callers id state with
      ⟨last, hlast, hid, hreuses, hafter⟩ | ⟨-, -, -, hkeeps⟩
    · rw [hafter]
      exact ih.concat_of_reuses hlast hid hreuses
    · exact hkeeps
  | change h state' ih => exact ih

/-- What the step at a place did: it gave back the tree of the step before, or it compiled anew and
took a serial number that no earlier step has. -/
theorem step_at (h : Session callers first steps compiler state) (hfirst : first.last = none)
    {i : Nat} (hi : i < steps.length) :
    (0 < i ∧ steps[i - 1].id = steps[i].id ∧ Step.Reuses steps[i - 1] steps[i]) ∨
    ((0 < i → steps[i - 1].id ≠ steps[i].id) ∧ Step.CompilesAnew first callers steps[i] ∧
      ∀ j (_ : j < i), steps[j].tree.serial < steps[i].tree.serial) := by
  induction h with
  | start state => exact absurd hi (Nat.not_lt_zero i)
  | change h state' ih => exact ih hi
  | @run steps compiler state h id ih =>
    rw [List.length_append, List.length_singleton] at hi
    -- a step that was there already keeps its place, so only the new one is to be looked at
    by_cases hold : i < steps.length
    · have hbefore : ∀ j (_ : j ≤ i), (steps ++ [compiler.step callers id state])[j] = steps[j] :=
        fun j hj => List.getElem_append_left (by omega)
      rcases ih hold with ⟨hpos, hid, hreuses⟩ | ⟨hid, hanew, hserial⟩
      · left
        rw [hbefore i (Nat.le_refl i), hbefore (i - 1) (Nat.sub_le i 1)]
        exact ⟨hpos, hid, hreuses⟩
      · right
        rw [hbefore i (Nat.le_refl i), hbefore (i - 1) (Nat.sub_le i 1)]
        refine ⟨hid, hanew, fun j hj => ?_⟩
        rw [hbefore j (Nat.le_of_lt hj)]
        exact hserial j hj
    · obtain rfl : i = steps.length := by omega
      have hbefore : ∀ j (_ : j < steps.length),
          (steps ++ [compiler.step callers id state])[j] = steps[j] :=
        fun j hj => List.getElem_append_left hj
      have hnew : (steps ++ [compiler.step callers id state])[steps.length] =
          compiler.step callers id state := List.getElem_concat_length rfl _
      rw [hnew]
      have hkeeps := h.keeps hfirst
      rcases hkeeps.step_cases hfirst callers id state with
        ⟨last, hlast, hid, hreuses, -⟩ | ⟨hid, hanew, hserial, -⟩
      · left
        rw [List.getLast?_eq_getElem?, List.getElem?_eq_some_iff] at hlast
        obtain ⟨hlt, rfl⟩ := hlast
        rw [hbefore _ hlt]
        exact ⟨by omega, hid, hreuses⟩
      · right
        refine ⟨fun hpos => ?_, hanew, fun j hj => ?_⟩
        · rw [hbefore _ (by omega)]
          apply hid
          rw [List.getLast?_eq_getElem?, List.getElem?_eq_getElem]
        · rw [hbefore j hj, hserial]
          exact hkeeps.serial_lt _ (List.getElem_mem hj)

/-- The step at a place gives the very same tree as an earlier one exactly if all steps from that
one on have its context. -/
theorem serial_eq_iff (h : Session callers first steps compiler state) (hfirst : first.last = none)
    {j i : Nat} (hji : j ≤ i) (hi : i < steps.length) :
    steps[i].tree.serial = steps[j].tree.serial ↔
      ∀ k (_ : j ≤ k) (_ : k ≤ i), steps[k].id = steps[i].id := by
  obtain ⟨n, rfl⟩ := Nat.exists_eq_add_of_le hji
  induction n with
  | zero =>
    refine ⟨fun _ k hjk hkj => ?_, fun _ => rfl⟩
    obtain rfl : k = j := Nat.le_antisymm hkj hjk
    rfl
  | succ n ih =>
    have hlast : j + n < steps.length := Nat.lt_of_succ_lt hi
    rcases h.step_at hfirst hi with ⟨-, hid, hreuses⟩ | ⟨hid, -, hserial⟩
    · change steps[j + n].id = steps[j + (n + 1)].id at hid
      rw [hreuses.tree]
      refine (ih (Nat.le_add_right j n) hlast).trans
        ⟨fun hsame k hjk hki => ?_, fun hsame k hjk hki => ?_⟩
      · rcases Nat.le_succ_iff.mp hki with hle | rfl
        · rw [hsame k hjk hle, hid]
        · rfl
      · rw [hsame k hjk (Nat.le_succ_of_le hki), hid]
    · constructor
      · intro hsame
        exact absurd hsame (Nat.ne_of_gt (hserial j (by omega)))
      · intro hsame
        exact absurd (hsame (j + n) (Nat.le_add_right j n) (Nat.le_succ _)) (hid (by omega))

/-- A tree is known by its serial number. -/
theorem tree_eq_of_serial_eq (h : Session callers first steps compiler state)
    (hfirst : first.last = none) {j i : Nat} (hji : j ≤ i) (hi : i < steps.length)
    (hsame : steps[i].tree.serial = steps[j].tree.serial) : steps[i].tree = steps[j].tree := by
  obtain ⟨n, rfl⟩ := Nat.exists_eq_add_of_le hji
  induction n with
  | zero => rfl
  | succ n ih =>
    rcases h.step_at hfirst hi with ⟨-, -, hreuses⟩ | ⟨-, -, hserial⟩
    · change Step.Reuses steps[j + n] steps[j + (n + 1)] at hreuses
      rw [hreuses.tree] at hsame ⊢
      exact ih (Nat.le_add_right j n) (Nat.lt_of_succ_lt hi) hsame
    · exact absurd hsame (Nat.ne_of_gt (hserial j (by omega)))

/-- A step with the serial number of an earlier one gives back its tree. -/
theorem reuses_of_serial_eq (h : Session callers first steps compiler state)
    (hfirst : first.last = none) {j i : Nat} (hji : j < i) (hi : i < steps.length)
    (hsame : steps[i].tree.serial = steps[j].tree.serial) : Step.Reuses steps[j] steps[i] := by
  rcases h.step_at hfirst hi with ⟨-, -, hreuses⟩ | ⟨-, -, hserial⟩
  · exact ⟨h.tree_eq_of_serial_eq hfirst (Nat.le_of_lt hji) hi hsame, hreuses.after, hreuses.calls⟩
  · exact absurd hsame (Nat.ne_of_gt (hserial j hji))

/-- A step that gives a tree which no earlier step gave compiles anew. -/
theorem compilesAnew_of_serial_ne (h : Session callers first steps compiler state)
    (hfirst : first.last = none) {i : Nat} (hi : i < steps.length)
    (hnew : ∀ (j : Nat) (_ : j < i), steps[i].tree.serial ≠ steps[j].tree.serial) :
    Step.CompilesAnew first callers steps[i] := by
  rcases h.step_at hfirst hi with ⟨hpos, -, hreuses⟩ | ⟨-, hanew, -⟩
  · exact absurd (congrArg Compiled.serial hreuses.tree) (hnew (i - 1) (by omega))
  · exact hanew

/-- Over any number of runs of a new compiler, a step gives the very same tree as an earlier one
exactly if all steps from that one on have its context.  A step that gives the tree of an earlier
one again makes no call and leaves the state of the contexts alone.  Any other step gives a new
tree, and makes the calls and the nodes that a new compiler would make with the context as it is
then. -/
theorem same_tree_iff_same_context (h : Session callers first steps compiler state)
    (hfirst : first.last = none) :
    (∀ (j i : Nat) (_ : j ≤ i) (_ : i < steps.length),
      steps[i].tree.serial = steps[j].tree.serial ↔
        ∀ k (_ : j ≤ k) (_ : k ≤ i), steps[k].id = steps[i].id) ∧
    ∀ (i : Nat) (_ : i < steps.length),
      (∀ (j : Nat) (_ : j < i), steps[i].tree.serial = steps[j].tree.serial →
        Step.Reuses steps[j] steps[i]) ∧
      ((∀ (j : Nat) (_ : j < i), steps[i].tree.serial ≠ steps[j].tree.serial) →
        Step.CompilesAnew first callers steps[i]) := by
  refine ⟨fun j i hji hi => h.serial_eq_iff hfirst hji hi, fun i hi => ⟨fun j hji hsame => ?_,
    fun hnew => ?_⟩⟩
  · exact h.reuses_of_serial_eq hfirst hji hi hsame
  · exact h.compilesAnew_of_serial_ne hfirst hi hnew

/-- The compiler's own context, in turns with those of two callers that do the same. -/
theorem same_tree_iff_same_context_inTurns :
    rowWithSkippedCell.last = none ∧
    ∃ steps compiler state,
      Session (fun _ => countingContext) rowWithSkippedCell steps compiler state ∧
      steps.map (·.id) = [.own, .caller 0, .caller 0, .caller 1, .own] ∧
      steps.map (fun step => (step.tree.serial, step.calls.length)) =
        [(0, 3), (1, 3), (1, 0), (2, 3), (3, 3)] ∧
      ∀ (j i : Nat) (_ : j ≤ i) (_ : i < steps.length),
        steps[i].tree.serial = steps[j].tree.serial ↔
          ∀ k (_ : j ≤ k) (_ : k ≤ i), steps[k].id = steps[i].id := by
  have hfirst : rowWithSkippedCell.last = none := rfl
  have session := ((((((@Session.start _ (fun _ => countingContext) rowWithSkippedCell 7).run
    .own).run (.caller 0)).run (.caller 0)).change 2).run (.caller 1)).run .own
  exact ⟨hfirst, _, _, _, session, rfl, by decide +kernel,
    (same_tree_iff_same_context session hfirst).1⟩

end Session

end Receipt.Compiler
