/-!
Vocabularies: the names that are turned into nodes. An element of any other name is left out, with
everything inside it.
-/

namespace Receipt

/-- The names that are recognized. Order and repetition have no meaning. -/
structure Vocabulary where
  names : List String

namespace Vocabulary

/-- Tables, rows and cells. -/
def standard : Vocabulary := ⟨["table", "tr", "td"]⟩

/-- Whether elements of a name are turned into nodes. -/
def recognizes (vocabulary : Vocabulary) (name : String) : Bool :=
  vocabulary.names.contains name

/-- Whether no name is recognized. -/
def isEmpty (vocabulary : Vocabulary) : Bool :=
  vocabulary.names.isEmpty

/-- The names in increasing order, each once. -/
def sorted (vocabulary : Vocabulary) : List String :=
  (vocabulary.names.eraseDups).mergeSort fun a b => decide (a ≤ b)

end Vocabulary

end Receipt
