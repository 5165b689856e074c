import Receipt.Markup.Element

/-!
Outlines: the elements of a text at every level. An element with an opening tag inside holds the
elements of its inner text; any other holds that text as it stands.
-/

namespace Receipt.Markup

/-- An element with everything inside it. -/
inductive Outline where
  | leaf (tag : OpenTag) (text : List Char)
  | branch (tag : OpenTag) (children : List Outline)

namespace Outline

/-- The elements of a text, with everything inside them. -/
def ofText (text : List Char) : List Outline :=
  match _found : Element.next? text with
  | none => []
  | some (element, after) =>
    let outline :=
      if containsTag element.inner then branch element.tag (ofText element.inner)
      else leaf element.tag element.inner
    outline :: ofText after
termination_by text.length
decreasing_by
  · exact (Element.length_lt_of_next? _found).1
  · exact (Element.length_lt_of_next? _found).2

/-- The tag that opens the element. -/
def tag : Outline → OpenTag
  | leaf tag _ => tag
  | branch tag _ => tag

end Outline

end Receipt.Markup
