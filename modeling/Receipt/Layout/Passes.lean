/-!
Reading several lists side by side. Each pass takes the next element of every list; a list that has
none left gives nothing. The passes end when no list has an element left.
-/

namespace Receipt

/-- The lists without what the next pass takes. -/
def afterPass (lists : List (List α)) : List (List α) :=
  lists.map List.tail

/-- How many elements there are in several lists. -/
def totalLength : List (List α) → Nat
  | [] => 0
  | list :: lists => list.length + totalLength lists

theorem totalLength_afterPass_le (lists : List (List α)) :
    totalLength (afterPass lists) ≤ totalLength lists := by
  induction lists with
  | nil => exact Nat.le_refl _
  | cons list lists ih =>
    simp only [totalLength, afterPass, List.map_cons, List.length_tail] at ih ⊢
    omega

/-- A pass takes something, unless all lists are empty. -/
theorem totalLength_afterPass_lt {lists : List (List α)}
    (h : ¬ lists.all List.isEmpty = true) :
    totalLength (afterPass lists) < totalLength lists := by
  induction lists with
  | nil => simp at h
  | cons list lists ih =>
    have hle := totalLength_afterPass_le lists
    cases list with
    | nil =>
      have := ih (by simpa using h)
      simpa [totalLength, afterPass] using this
    | cons x xs =>
      simp only [totalLength, afterPass, List.map_cons, List.tail_cons, List.length_cons] at hle ⊢
      omega

/-- The passes over several lists. -/
def passes (lists : List (List α)) : List (List (Option α)) :=
  if _done : lists.all List.isEmpty then []
  else lists.map List.head? :: passes (afterPass lists)
termination_by totalLength lists
decreasing_by exact totalLength_afterPass_lt _done

end Receipt
