import Receipt.Tree

/-!
Contexts: how nodes are made while markup is compiled. A context is called once for each element
that is recognized, after everything inside the element has been made. It may keep state, and it
may decline to make a node.
-/

namespace Receipt

/-- Makes the nodes of a document, with a state of type `σ`. -/
structure Context (σ : Type) where
  /-- The node for an element of the given name, props and content, if there is to be one. -/
  convert (name : String) (props : Props) (content : Content) : StateM σ (Option Node)

namespace Context

variable {σ : Type}

/-- Makes each node as it is written. An empty name makes no node. -/
def plain : Context σ where
  convert name props content :=
    pure (if name.isEmpty then none else some (Node.ofContent name props content))

/-- Changes the names that `context` is given. -/
def mapName (f : String → Props → String) (context : Context σ) : Context σ where
  convert name props content := context.convert (f name props) props content

/-- Changes the texts that `context` is given. -/
def mapText (f : String → String) (context : Context σ) : Context σ where
  convert name props content :=
    context.convert name props <|
      match content with
      | .text text => .text (f text)
      | .nodes nodes => .nodes nodes

/-- Leaves out the nodes whose props are unwanted; `context` makes the others. -/
def leavingOut (unwanted : Props → Bool) (context : Context σ) : Context σ where
  convert name props content :=
    if unwanted props then pure none else context.convert name props content

/-- One call of a context. -/
structure Call where
  name : String
  props : Props
  content : Content

/-- Does as `context` does, and adds each call to the list of calls. -/
def recorded (context : Context σ) : Context (σ × List Call) where
  convert name props content := fun (state, calls) =>
    let (node, state) := context.convert name props content state
    (node, (state, calls ++ [⟨name, props, content⟩]))

end Context

end Receipt
