import Receipt.Compile.Build
import Receipt.Error
import Receipt.Text.Blank
import Receipt.Text.Utf8

/-!
Compilers: a markup with a vocabulary, and the tree that was compiled last. Compiling again with
the same context gives that very tree; any other context compiles anew. Contexts are told apart by
their names, so that two contexts which do the same still count as two.
-/

namespace Receipt

/-- The nodes of a markup, without its surrounding blanks. -/
def compileWith (vocabulary : Vocabulary) (markup : String) : List Node :=
  ((Markup.Outline.buildAll vocabulary Context.plain
    (Markup.Outline.ofText (Text.trim markup.toList))).run ()).1

/-- The nodes of a markup of tables, rows and cells. -/
def compile (markup : String) : List Node :=
  compileWith .standard markup

/-- Which of a compiler's contexts is meant: its own plain one, or one that a caller brings. -/
inductive ContextId where
  | own
  | caller (index : Nat)
deriving DecidableEq

/-- A compiled tree. Two are the very same if they have the same serial number. -/
structure Compiled where
  serial : Nat
  nodes : List Node

/-- A markup to compile. -/
structure Compiler where
  markup : String
  vocabulary : Vocabulary
  /-- How many trees have been compiled. -/
  compiled : Nat := 0
  /-- The tree that was compiled last, and the context it was compiled with. -/
  last : Option (ContextId × Compiled) := none

/-- What a compiler gives back. -/
structure Compilation (σ : Type) where
  tree : Compiled
  compiler : Compiler
  /-- The state that the context has reached. -/
  state : σ
  events : List Event

namespace Compiler

variable {σ : Type}

/-- A compiler for a markup of tables, rows and cells. -/
def ofMarkup (markup : String) : Compiler where
  markup := String.ofList (Text.trim markup.toList)
  vocabulary := .standard

/-- A compiler for a markup with a vocabulary, which must not be empty. -/
def withVocabulary (markup : String) (vocabulary : Vocabulary) : Except RenderError Compiler :=
  if vocabulary.isEmpty then .error .emptyVocabulary
  else .ok { ofMarkup markup with vocabulary }

/-- A compiler for bytes that must be UTF-8 text. -/
def ofBytes (bytes : List UInt8) : Except RenderError Compiler :=
  match Text.Utf8.decode bytes with
  | .ok markup => .ok (ofMarkup markup)
  | .error fault => .error (.invalidInput ("markup is not UTF-8 text: " ++ fault.message))

/-- The elements of the markup. -/
def outlines (compiler : Compiler) : List Markup.Outline :=
  Markup.Outline.ofText compiler.markup.toList

/-- The reports of a compilation. -/
def compileEvents (compiler : Compiler) : List Event :=
  .compiling (Text.Utf8.length compiler.markup.toList) ::
    Markup.Outline.allEvents compiler.vocabulary compiler.outlines

/-- Compiles the markup, whatever was compiled before. -/
def compileAnew (compiler : Compiler) (id : ContextId) (context : Context σ) (state : σ) :
    Compilation σ :=
  let (nodes, state) :=
    (Markup.Outline.buildAll compiler.vocabulary context compiler.outlines).run state
  let tree := ⟨compiler.compiled, nodes⟩
  { tree
    compiler := { compiler with compiled := compiler.compiled + 1, last := some (id, tree) }
    state
    events := compiler.compileEvents }

/-- Compiles the markup with the context of the given name, unless the tree compiled last is
from that context. -/
def run (compiler : Compiler) (id : ContextId) (context : Context σ) (state : σ) :
    Compilation σ :=
  match compiler.last with
  | some (lastId, tree) =>
    if lastId = id then { tree, compiler, state, events := [.treeReused] }
    else compiler.compileAnew id context state
  | none => compiler.compileAnew id context state

end Compiler

end Receipt
