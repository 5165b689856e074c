import Receipt.Proofs.Compile.Plain

/-!
# Ends of tags

Compiling uses up the text that it reads: each node takes the `>` of its two tags and those of its
text, and no `>` is used twice (`Outline.countGtOfAll_plainNodes_le`).
-/

namespace Receipt

namespace Node

mutual

/-- The number of `>` that writing a node takes: two for its tags, and those of its text. -/
def countGt : Node → Nat
  | leaf _ _ text => text.toList.count '>' + 2
  | branch _ _ children => countGtOfAll children + 2

/-- The number of `>` that writing several nodes takes. -/
def countGtOfAll : List Node → Nat
  | [] => 0
  | node :: nodes => countGt node + countGtOfAll nodes

end

theorem countGtOfAll_append (first second : List Node) :
    countGtOfAll (first ++ second) = countGtOfAll first + countGtOfAll second := by
  induction first with
  | nil => exact (Nat.zero_add _).symm
  | cons node first ih => rw [List.cons_append, countGtOfAll, countGtOfAll, ih, Nat.add_assoc]

end Node

namespace Markup

theorem count_write {tag : OpenTag} (h : tag.WellFormed) : tag.write.count '>' = 1 := by
  rw [OpenTag.write_eq_append, List.count_append, List.count_eq_zero_of_not_mem h.gt_not_mem_body,
    List.count_singleton_self]

theorem count_closeTag {name : List Char} (h : ∀ c ∈ name, isNameChar c = true) :
    (closeTag name).count '>' = 1 := by
  rw [closeTag_eq_append, List.count_append,
    List.count_eq_zero_of_not_mem (gt_not_mem_close_body h), List.count_singleton_self]

namespace Outline

variable {vocabulary : Vocabulary}

/-- The first element takes two `>` and those of what is inside. -/
theorem count_of_next? {text after : List Char} {element : Element}
    (h : Element.next? text = some (element, after)) :
    text.count '>' =
      element.before.count '>' + 2 + element.inner.count '>' + after.count '>' := by
  obtain ⟨rest, htext, htag, hsplit⟩ := Element.exists_of_next? h
  rw [htext, eq_of_splitAtClose? hsplit]
  simp only [List.count_append, count_write htag, count_closeTag htag.name_chars]
  omega

theorem countGt_asNode_le (tag : OpenTag) {inner : List Char}
    (h : Node.countGtOfAll (plainNodes vocabulary (ofText inner)) ≤ inner.count '>') :
    (asNode vocabulary (ofElement tag inner)).countGt ≤ inner.count '>' + 2 := by
  rw [ofElement]
  split
  · exact Nat.add_le_add_right h 2
  · apply Nat.add_le_add_right
    show (String.ofList inner).toList.count '>' ≤ inner.count '>'
    exact Nat.le_of_eq (by rw [String.toList_ofList])

/-- Writing the nodes of a text takes no more `>` than the text has. -/
theorem countGtOfAll_plainNodes_le (vocabulary : Vocabulary) (text : List Char) :
    Node.countGtOfAll (plainNodes vocabulary (ofText text)) ≤ text.count '>' := by
  induction hlen : text.length using Nat.strongRecOn generalizing text with
  | ind n ih =>
    cases hnext : Element.next? text with
    | none =>
      rw [ofText_of_next?_eq_none hnext]
      exact Nat.zero_le _
    | some found =>
      obtain ⟨element, after⟩ := found
      obtain ⟨hinnerLength, hafterLength⟩ := Element.length_lt_of_next? hnext
      have hinner := ih element.inner.length (by omega) element.inner rfl
      have hafter := ih after.length (by omega) after rfl
      have hcount := count_of_next? hnext
      have hnode : Node.countGtOfAll
          (plainNode vocabulary (ofElement element.tag element.inner)).toList ≤
            element.inner.count '>' + 2 := by
        cases hplain : plainNode vocabulary (ofElement element.tag element.inner) with
        | none => exact Nat.zero_le _
        | some node =>
          obtain ⟨-, rfl⟩ := plainNode_eq_some_iff.mp hplain
          exact countGt_asNode_le _ hinner
      rw [ofText_of_next?_eq_some hnext, plainNodes_cons, Node.countGtOfAll_append]
      omega

end Outline

end Markup

end Receipt
