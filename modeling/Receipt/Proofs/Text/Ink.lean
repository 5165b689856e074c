import Mathlib.Algebra.Order.Group.Multiset
import Receipt.Proofs.Text.Blank
import Receipt.Text.Columns

/-!
# Ink

The ink of a text is what can be seen of it: its characters that are not blank, each as often as it
occurs.  Cutting a text, splitting it into lines, joining lines, padding and trimming at the end
move characters around and add or take away blanks, so they leave the ink as it is.
-/

namespace Receipt.Text

/-- The characters of a text that are not blank, with how often each occurs. -/
def ink (text : List Char) : Multiset Char :=
  Multiset.ofList (text.filter fun c => !isBlank c)

/-- The ink of several texts. -/
def inkAll (texts : List (List Char)) : Multiset Char :=
  (texts.map ink).sum

@[simp] theorem ink_nil : ink [] = 0 := rfl

@[simp] theorem ink_append (first second : List Char) :
    ink (first ++ second) = ink first + ink second := by
  rw [ink, List.filter_append, ← Multiset.coe_add]
  rfl

theorem ink_of_isBlank {text : List Char} (h : ∀ c ∈ text, isBlank c = true) : ink text = 0 := by
  have hfilter : text.filter (fun c => !isBlank c) = [] := by
    rw [List.filter_eq_nil_iff]
    intro c hc
    simp [h c hc]
  rw [ink, hfilter]
  rfl

@[simp] theorem inkAll_nil : inkAll [] = 0 := rfl

@[simp] theorem inkAll_cons (text : List Char) (texts : List (List Char)) :
    inkAll (text :: texts) = ink text + inkAll texts := by
  rw [inkAll, List.map_cons, List.sum_cons, inkAll]

@[simp] theorem inkAll_append (first second : List (List Char)) :
    inkAll (first ++ second) = inkAll first + inkAll second := by
  rw [inkAll, List.map_append, List.sum_append, inkAll, inkAll]

theorem ink_flatten (texts : List (List Char)) : ink texts.flatten = inkAll texts := by
  induction texts with
  | nil => rfl
  | cons text texts ih => rw [List.flatten_cons, ink_append, inkAll_cons, ih]

/-- Texts that are each replaced by texts of the same ink. -/
theorem inkAll_flatMap {α : Type} {f : α → List (List Char)} {g : α → List Char}
    (h : ∀ x, inkAll (f x) = ink (g x)) (xs : List α) :
    inkAll (xs.flatMap f) = inkAll (xs.map g) := by
  induction xs with
  | nil => rfl
  | cons x xs ih => rw [List.flatMap_cons, inkAll_append, h, List.map_cons, inkAll_cons, ih]

/-! ## What leaves the ink as it is -/

theorem ink_joinLines (lines : List (List Char)) : ink (joinLines lines) = inkAll lines := by
  fun_induction joinLines lines with
  | case1 => rfl
  | case2 line => rw [inkAll_cons, inkAll_nil, add_zero]
  | case3 line next lines ih =>
    have hbreak : ink ('\n' :: joinLines (next :: lines)) = ink (joinLines (next :: lines)) := by
      rw [ink, List.filter_cons_of_neg (by decide)]
      rfl
    rw [ink_append, hbreak, ih, inkAll_cons line]

theorem inkAll_splitLines (text : List Char) : inkAll (splitLines text) = ink text := by
  rw [← ink_joinLines, joinLines_splitLines]

theorem inkAll_cut (width : Nat) (text : List Char) : inkAll (cut width text) = ink text := by
  rw [← ink_flatten, flatten_cut]

theorem ink_padRight (width : Nat) (text : List Char) : ink (padRight width text) = ink text := by
  have hspaces : ink (List.replicate (width - text.length) ' ') = 0 := by
    apply ink_of_isBlank
    intro c hc
    rw [List.eq_of_mem_replicate hc]
    rfl
  rw [padRight, ink_append, hspaces, add_zero]

theorem ink_trimEnd (text : List Char) : ink (trimEnd text) = ink text := by
  obtain ⟨gap, hgap, htext⟩ := exists_trimEnd_append text
  conv => rhs; rw [htext]
  rw [ink_append, ink_of_isBlank hgap, add_zero]

end Receipt.Text
