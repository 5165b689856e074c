import Receipt.Proofs.Compile.Plain
import Receipt.Proofs.Tree

/-!
# What a context sees of a markup

A context is called in the midst of compiling, once for each element that is recognized.  Nothing
that it answers has an influence on which elements are found, so it sees the document that the plain
context makes: compiling with a context is the same as going through that document from the bottom
up.

* `Node.convertAll` goes through a finished document with a context, and
  `Outline.buildAll_ofText` says that compiling does the same.
* `ConvertedAll` lists the calls for a document, each with its result.  What is handed to a call for
  a node are the results for the nodes inside it.
* `Context.Answers` says that the results are those that the context gives, call after call.
* `Node.convertAll_recorded`: a record of the calls shows just this, and changes nothing.
* `Compiler.run_converts_plain`: the calls and the tree of the first run of any compiler.
-/

namespace Receipt

variable {σ : Type}

namespace Node

mutual

/-- The node that a context makes of a node, after those inside it. -/
def convert (context : Context σ) : Node → StateM σ (Option Node)
  | leaf name props text => context.convert name props (.text text)
  | branch name props children => do
    let nodes ← convertAll context children
    context.convert name props (.nodes nodes)

/-- The nodes that a context makes of several nodes, from left to right. -/
def convertAll (context : Context σ) : List Node → StateM σ (List Node)
  | [] => pure []
  | node :: nodes => do
    let made ← convert context node
    let more ← convertAll context nodes
    pure (made.toList ++ more)

end

end Node

/-! ## Compiling -/

namespace Markup.Outline

variable {vocabulary : Vocabulary} {tag : OpenTag} {inner : List Char}

/-- An element that is recognized is made as its node is. -/
theorem build_ofElement (context : Context σ)
    (hrecognized : vocabulary.recognizes tag.nodeName = true)
    (hinner : buildAll vocabulary context (ofText inner) =
      Node.convertAll context (plainNodes vocabulary (ofText inner))) :
    build vocabulary context (ofElement tag inner) =
      Node.convert context (asNode vocabulary (ofElement tag inner)) := by
  rw [ofElement]
  split
  · rw [build, if_pos hrecognized, hinner, asNode, Node.convert]
  · rw [build, if_pos hrecognized, asNode, Node.convert]

/-- For an element that is not recognized there is no call, neither for what is inside it. -/
theorem build_ofElement_of_not_recognized (context : Context σ)
    (hrecognized : ¬ vocabulary.recognizes tag.nodeName = true) :
    build vocabulary context (ofElement tag inner) = pure none := by
  rw [ofElement]
  split
  · rw [build, if_neg hrecognized]
  · rw [build, if_neg hrecognized]

/-- Compiling with a context goes through the document that the plain context makes. -/
theorem buildAll_ofText (vocabulary : Vocabulary) (context : Context σ) (text : List Char) :
    buildAll vocabulary context (ofText text) =
      Node.convertAll context (plainNodes vocabulary (ofText text)) := by
  induction hlen : text.length using Nat.strongRecOn generalizing text with
  | ind n ih =>
    cases hnext : Element.next? text with
    | none => rw [ofText_of_next?_eq_none hnext, plainNodes_nil, buildAll, Node.convertAll]
    | some found =>
      obtain ⟨element, after⟩ := found
      obtain ⟨hinnerLength, hafterLength⟩ := Element.length_lt_of_next? hnext
      obtain ⟨-, -, htag, -⟩ := Element.exists_of_next? hnext
      have hinner := ih element.inner.length (by omega) element.inner rfl
      have hafter := ih after.length (by omega) after rfl
      have hname : element.tag.nodeName.isEmpty = false := by
        rw [OpenTag.nodeName]
        simpa using htag.name_ne_nil
      have hplain : plainNode vocabulary (ofElement element.tag element.inner) =
          if vocabulary.recognizes element.tag.nodeName then
            some (asNode vocabulary (ofElement element.tag element.inner))
          else none := by
        rw [plainNode_eq, tag_ofElement, hname]
        rfl
      rw [ofText_of_next?_eq_some hnext, plainNodes_cons, buildAll, hafter]
      by_cases hrecognized : vocabulary.recognizes element.tag.nodeName = true
      · rw [if_pos hrecognized] at hplain
        rw [build_ofElement context hrecognized hinner, hplain]
        rfl
      · rw [if_neg hrecognized] at hplain
        rw [build_ofElement_of_not_recognized context hrecognized, hplain]
        rfl

end Markup.Outline

/-! ## Calls -/

namespace Context

/-- Makes each node by a function. -/
def ofFunction (f : String → Props → Content → Option Node) : Context σ where
  convert name props content := pure (f name props content)

/-- A call, with the node that it made, if it made one. -/
structure Answered where
  call : Call
  result : Option Node

/-- If the context gets these calls in order, it gives these results and reaches the last state. -/
def Answers (context : Context σ) (state : σ) (answered : List Answered) (state' : σ) : Prop :=
  ((answered.map (·.call)).mapM fun call =>
    context.convert call.name call.props call.content).run state =
      (answered.map (·.result), state')

namespace Answers

variable {context : Context σ} {state state' state'' : σ}

theorem nil (state : σ) : context.Answers state [] state := rfl

theorem single (call : Call) (state : σ) :
    context.Answers state
      [⟨call, (context.convert call.name call.props call.content state).1⟩]
      (context.convert call.name call.props call.content state).2 := rfl

theorem append {first second : List Answered} (hfirst : context.Answers state first state')
    (hsecond : context.Answers state' second state'') :
    context.Answers state (first ++ second) state'' := by
  rw [Answers] at hfirst hsecond ⊢
  rw [List.map_append, List.map_append, List.mapM_append, StateT.run_bind, hfirst]
  show StateT.run (List.mapM _ (second.map (·.call)) >>= fun more =>
    pure (first.map (·.result) ++ more)) state' = _
  rw [StateT.run_bind, hsecond]
  rfl

end Answers

end Context

open Context (Answered)

mutual

/-- The calls for a node: first those for the nodes inside it, and last the one that is given what
they made. -/
inductive Converted : Node → List Answered → Option Node → Prop
  | leaf {name : String} {props : Props} {text : String} (result : Option Node) :
      Converted (.leaf name props text) [⟨⟨name, props, .text text⟩, result⟩] result
  | branch {name : String} {props : Props} {children made : List Node} {answered : List Answered}
      (hchildren : ConvertedAll children answered made) (result : Option Node) :
      Converted (.branch name props children)
        (answered ++ [⟨⟨name, props, .nodes made⟩, result⟩]) result

/-- The calls for several nodes, from left to right, and the nodes that they made. -/
inductive ConvertedAll : List Node → List Answered → List Node → Prop
  | nil : ConvertedAll [] [] []
  | cons {node : Node} {nodes made : List Node} {first rest : List Answered}
      {result : Option Node} (hfirst : Converted node first result)
      (hrest : ConvertedAll nodes rest made) :
      ConvertedAll (node :: nodes) (first ++ rest) (result.toList ++ made)

end

namespace Node

mutual

/-- There is one call for each node, and it comes after those for the nodes inside. -/
theorem map_tag_converted {node : Node} {answered : List Answered} {result : Option Node}
    (h : Converted node answered result) :
    answered.map (fun answer => (answer.call.name, answer.call.props)) = tagsBottomUp node := by
  cases h with
  | leaf => rfl
  | branch hchildren =>
    rw [List.map_append, map_tag_convertedAll hchildren, tagsBottomUp]
    rfl

/-- There is one call for each node. -/
theorem map_tag_convertedAll {nodes made : List Node} {answered : List Answered}
    (h : ConvertedAll nodes answered made) :
    answered.map (fun answer => (answer.call.name, answer.call.props)) =
      tagsBottomUpOfAll nodes := by
  cases h with
  | nil => rfl
  | cons hfirst hrest =>
    rw [List.map_append, map_tag_converted hfirst, map_tag_convertedAll hrest, tagsBottomUpOfAll]

end

mutual

/-- A record of the calls for a node changes nothing but the record. -/
theorem convert_recorded (context : Context σ) (node : Node) (state : σ)
    (calls : List Context.Call) :
    ∃ answered,
      (convert context.recorded node).run (state, calls) =
        (((convert context node).run state).1, ((convert context node).run state).2,
          calls ++ answered.map (·.call)) ∧
      Converted node answered ((convert context node).run state).1 ∧
      context.Answers state answered ((convert context node).run state).2 := by
  cases node with
  | leaf name props text => exact ⟨_, rfl, .leaf _, .single ⟨name, props, .text text⟩ state⟩
  | branch name props children =>
    obtain ⟨answered, hrun, hconverted, hanswers⟩ :=
      convertAll_recorded context children state calls
    refine ⟨_, ?_, .branch hconverted _, hanswers.append (.single ⟨name, props, .nodes _⟩ _)⟩
    rw [List.map_append, ← List.append_assoc, convert, StateT.run_bind, hrun]
    rfl

/-- A record of the calls for several nodes changes nothing but the record. -/
theorem convertAll_recorded (context : Context σ) (nodes : List Node) (state : σ)
    (calls : List Context.Call) :
    ∃ answered,
      (convertAll context.recorded nodes).run (state, calls) =
        (((convertAll context nodes).run state).1, ((convertAll context nodes).run state).2,
          calls ++ answered.map (·.call)) ∧
      ConvertedAll nodes answered ((convertAll context nodes).run state).1 ∧
      context.Answers state answered ((convertAll context nodes).run state).2 := by
  cases nodes with
  | nil =>
    refine ⟨[], ?_, .nil, .nil state⟩
    rw [List.map_nil, List.append_nil]
    rfl
  | cons node nodes =>
    obtain ⟨first, hfirst, hfirstConverted, hfirstAnswers⟩ :=
      convert_recorded context node state calls
    obtain ⟨rest, hrest, hrestConverted, hrestAnswers⟩ :=
      convertAll_recorded context nodes ((convert context node).run state).2
        (calls ++ first.map (·.call))
    refine ⟨first ++ rest, ?_, .cons hfirstConverted hrestConverted,
      hfirstAnswers.append hrestAnswers⟩
    rw [List.map_append, ← List.append_assoc, convertAll, StateT.run_bind, hfirst]
    show StateT.run (convertAll context.recorded nodes >>= fun more => pure (_ ++ more)) _ = _
    rw [StateT.run_bind, hrest]
    rfl

end

mutual

/-- A context that makes each node by a function folds it. -/
theorem convert_ofFunction (f : String → Props → Content → Option Node) (node : Node) :
    convert (.ofFunction f : Context σ) node = pure (fold f node) := by
  cases node with
  | leaf name props text => rfl
  | branch name props children =>
    rw [convert, convertAll_ofFunction f children, pure_bind]
    rfl

/-- A context that makes each node by a function folds a document. -/
theorem convertAll_ofFunction (f : String → Props → Content → Option Node) (nodes : List Node) :
    convertAll (.ofFunction f : Context σ) nodes = pure (foldAll f nodes) := by
  cases nodes with
  | nil => rfl
  | cons node nodes =>
    rw [convertAll, convert_ofFunction f node, convertAll_ofFunction f nodes, pure_bind, pure_bind,
      foldAll]

end

end Node

/-! ## Compilers -/

namespace Compiler

variable {compiler : Compiler}

/-- The document that the plain context makes of the markup. -/
def plainTree (compiler : Compiler) : List Node :=
  Markup.Outline.plainNodes compiler.vocabulary compiler.outlines

/-- The calls that a context gets in a run. -/
def callsOfRun (compiler : Compiler) (id : ContextId) (context : Context σ) (state : σ) :
    List Context.Call :=
  (compiler.run id context.recorded (state, [])).state.2

/-- A run with another context than that of the last tree, or without a last tree. -/
theorem run_anew {id : ContextId} (h : ∀ tree, compiler.last ≠ some (id, tree))
    (context : Context σ) (state : σ) :
    compiler.run id context state = compiler.compileAnew id context state := by
  rw [run]
  cases hlast : compiler.last with
  | none => rfl
  | some last =>
    obtain ⟨lastId, tree⟩ := last
    have hne : ¬ lastId = id := fun hid => h tree (by rw [hlast, hid])
    simp only [if_neg hne]

/-- A run with the context of the last tree. -/
theorem run_again {id : ContextId} {tree : Compiled} (h : compiler.last = some (id, tree))
    (context : Context σ) (state : σ) :
    compiler.run id context state = { tree, compiler, state, events := [.treeReused] } := by
  rw [run, h]
  exact if_pos rfl

theorem compileAnew_eq (compiler : Compiler) (id : ContextId) (context : Context σ) (state : σ) :
    ((compiler.compileAnew id context state).tree.nodes,
      (compiler.compileAnew id context state).state) =
        (Node.convertAll context compiler.plainTree).run state := by
  rw [plainTree, outlines, ← Markup.Outline.buildAll_ofText]
  rfl

/-- A record of the calls changes nothing but the record. -/
theorem compileAnew_recorded (compiler : Compiler) (id : ContextId) (context : Context σ)
    (state : σ) :
    let compilation := compiler.compileAnew id context state
    let recorded := compiler.compileAnew id context.recorded (state, [])
    (recorded.tree = compilation.tree ∧ recorded.compiler = compilation.compiler ∧
      recorded.events = compilation.events ∧ recorded.state.1 = compilation.state) ∧
    ∃ answered, recorded.state.2 = answered.map (·.call) ∧
      ConvertedAll compiler.plainTree answered compilation.tree.nodes ∧
      context.Answers state answered compilation.state := by
  intro compilation recorded
  obtain ⟨answered, hrun, hconverted, hanswers⟩ :=
    Node.convertAll_recorded context compiler.plainTree state []
  have hcompilation := compileAnew_eq compiler id context state
  have hrecorded := compileAnew_eq compiler id context.recorded (state, [])
  rw [hrun, ← hcompilation] at hrecorded
  rw [← hcompilation] at hconverted hanswers
  simp only [Prod.mk.injEq] at hrecorded
  obtain ⟨hnodes, hstate⟩ := hrecorded
  have htree : recorded.tree = compilation.tree := congrArg (Compiled.mk compiler.compiled) hnodes
  refine ⟨⟨htree, ?_, rfl, congrArg Prod.fst hstate⟩, answered, ?_, hconverted, hanswers⟩
  · show { compiler with
        compiled := compiler.compiled + 1, last := some (id, recorded.tree) : Compiler } = _
    rw [htree]
    rfl
  · exact congrArg Prod.snd hstate

/-- What the first run of a compiler does with any context.  It calls the context for each node of
the document that the plain context makes, in the order in which the nodes are closed; a call is
given the name and the props of its node, and its text or the nodes that were made of those inside
it.  The tree has the nodes that were made of the outermost ones.  For a context that is a function
it is the fold of the document. -/
theorem run_converts_plain (h : compiler.last = none) (id : ContextId) (context : Context σ)
    (state : σ) :
    let plain := (compiler.run .own Context.plain ()).tree.nodes
    let compilation := compiler.run id context state
    let calls := compiler.callsOfRun id context state
    (compilation.tree.nodes, compilation.state) = (Node.convertAll context plain).run state ∧
    (∃ answered : List Answered, calls = answered.map (·.call) ∧
      ConvertedAll plain answered compilation.tree.nodes ∧
      context.Answers state answered compilation.state) ∧
    calls.map (fun call => (call.name, call.props)) = Node.tagsBottomUpOfAll plain ∧
    ∀ f, (compiler.run id (.ofFunction f) state).tree.nodes = Node.foldAll f plain := by
  intro plain compilation calls
  have hanew : ∀ id tree, compiler.last ≠ some (id, tree) := by simp [h]
  have hplain : plain = compiler.plainTree := by
    show (compiler.run .own Context.plain ()).tree.nodes = _
    rw [run_anew (hanew _)]
    rfl
  have hcompilation : compilation = compiler.compileAnew id context state :=
    run_anew (hanew id) context state
  have hcalls : calls = (compiler.compileAnew id context.recorded (state, [])).state.2 := by
    rw [← run_anew (hanew id)]
    rfl
  obtain ⟨-, answered, hanswered, hconverted, hanswers⟩ :=
    compileAnew_recorded compiler id context state
  rw [hplain, hcompilation, hcalls]
  refine ⟨compileAnew_eq compiler id context state, ⟨answered, hanswered, hconverted, hanswers⟩,
    ?_, fun f => ?_⟩
  · rw [hanswered, List.map_map]
    exact Node.map_tag_convertedAll hconverted
  · have hfold := compileAnew_eq compiler id (.ofFunction f) state
    rw [Node.convertAll_ofFunction] at hfold
    rw [run_anew (hanew id)]
    exact congrArg Prod.fst hfold

/-- Counts its calls, and makes no node where a prop says so. -/
def countingContext : Context Nat where
  convert name props content := do
    modify (· + 1)
    pure (if props.contains "skip" then none else some (Node.ofContent name props content))

/-- A row of two cells, of which one is left out. -/
def rowWithSkippedCell : Compiler :=
  ofMarkup " <tr><td skip=\"1\">a</td><td>b</td></tr> "

theorem run_converts_plain_rowWithSkippedCell :
    rowWithSkippedCell.last = none ∧
    (rowWithSkippedCell.callsOfRun (.caller 0) countingContext 7).map
        (fun call => (call.name, call.props)) =
      Node.tagsBottomUpOfAll (rowWithSkippedCell.run .own Context.plain ()).tree.nodes ∧
    (rowWithSkippedCell.callsOfRun (.caller 0) countingContext 7).map (·.name) =
      ["td", "td", "tr"] := by
  have hlast : rowWithSkippedCell.last = none := rfl
  exact ⟨hlast, (run_converts_plain hlast (.caller 0) countingContext 7).2.2.1, by decide +kernel⟩

end Compiler

end Receipt
