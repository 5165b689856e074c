import Receipt.Proofs.Layout.Reading

/-!
# The rows of lines, one by one

A pass takes the next line of every column, so the pass after `r` others takes line `r` of every
column, and there are as many passes as the longest column has lines (`passes_eq`).  With this the
rows of lines are a list of which every row is known (`synchronize_eq`, `lineTexts_eq`).
-/

namespace Receipt

/-- The length of the longest of several lists. -/
def longest {α : Type} (lists : List (List α)) : Nat :=
  (lists.map List.length).foldr max 0

theorem longest_cons {α : Type} (list : List α) (lists : List (List α)) :
    longest (list :: lists) = max list.length (longest lists) := rfl

theorem lt_longest_iff {α : Type} {lists : List (List α)} {r : Nat} :
    r < longest lists ↔ ∃ list ∈ lists, r < list.length := by
  induction lists with
  | nil => simp [longest]
  | cons list lists ih =>
    have hmax : r < max list.length (longest lists) ↔ r < list.length ∨ r < longest lists := by
      omega
    rw [longest_cons, hmax, ih]
    simp only [List.mem_cons, exists_eq_or_imp]

theorem longest_afterPass {α : Type} (lists : List (List α)) :
    longest (afterPass lists) = longest lists - 1 := by
  induction lists with
  | nil => rfl
  | cons list lists ih =>
    rw [afterPass] at ih
    rw [afterPass, List.map_cons, longest_cons, longest_cons, ih, List.length_tail]
    omega

theorem longest_eq_zero_iff {α : Type} {lists : List (List α)} :
    longest lists = 0 ↔ lists.all List.isEmpty = true := by
  induction lists with
  | nil => simp [longest]
  | cons list lists ih =>
    rw [longest_cons, List.all_cons, Bool.and_eq_true, ← ih, List.isEmpty_iff,
      ← List.length_eq_zero_iff]
    omega

/-- The passes over several lists take the first elements, then the second ones, and so on to the
end of the longest list. -/
theorem passes_eq {α : Type} (lists : List (List α)) :
    passes lists = (List.range (longest lists)).map fun r => lists.map (·[r]?) := by
  fun_induction passes lists with
  | case1 lists hdone =>
    rw [longest_eq_zero_iff.mpr hdone]
    rfl
  | case2 lists hdone ih =>
    have hpos : longest lists = longest (afterPass lists) + 1 := by
      have := mt longest_eq_zero_iff.mp hdone
      rw [longest_afterPass]
      omega
    have hfirst : lists.map List.head? = lists.map (·[0]?) :=
      List.map_congr_left fun list _ => List.head?_eq_getElem?
    rw [hpos, List.range_succ_eq_map, List.map_cons, List.map_map, ih, hfirst]
    congr 1
    apply List.map_congr_left
    intro r _
    rw [afterPass, List.map_map]
    exact List.map_congr_left fun list _ => List.getElem?_tail

theorem mem_or_eq_of_mem_intersperse {α : Type} {x sep : α} {xs : List α}
    (h : x ∈ xs.intersperse sep) : x ∈ xs ∨ x = sep := by
  induction xs with
  | nil => exact absurd h List.not_mem_nil
  | cons first xs ih =>
    cases xs with
    | nil => exact Or.inl h
    | cons second xs =>
      rw [List.intersperse_cons_cons] at h
      rcases List.mem_cons.mp h with rfl | h
      · exact Or.inl List.mem_cons_self
      · rcases List.mem_cons.mp h with rfl | h
        · exact Or.inr rfl
        · rcases ih h with h | h
          · exact Or.inl (List.mem_cons_of_mem _ h)
          · exact Or.inr h

theorem mem_intersperse_of_mem {α : Type} {x : α} {xs : List α} (h : x ∈ xs) (sep : α) :
    x ∈ xs.intersperse sep := by
  obtain ⟨i, hi⟩ := List.mem_iff_getElem?.mp h
  exact List.mem_iff_getElem?.mpr ⟨2 * i, List.getElem?_intersperse_two_mul.trans hi⟩

/-! ## Rows of lines -/

/-- How many rows of lines columns make. -/
def lineCount (columns : List Block) : Nat :=
  longest (columns.map Block.lines)

/-- The cells of one row of lines: of every column the line `r`. -/
def lineCells (options : LayoutOptions) (columns : List Block) (r : Nat) : List Block :=
  columns.map fun column => column.lineCell options column.lines[r]?

/-- The parts of one row of lines: its cells and the borders between them. -/
def lineParts (options : LayoutOptions) (columns : List Block) (r : Nat) : List Block :=
  (lineCells options columns r).intersperse options.border

theorem lt_lineCount_iff {columns : List Block} {r : Nat} :
    r < lineCount columns ↔ ∃ column ∈ columns, r < column.lines.length := by
  rw [lineCount, lt_longest_iff]
  constructor
  · rintro ⟨lines, hlines, hlt⟩
    obtain ⟨column, hcolumn, rfl⟩ := List.mem_map.mp hlines
    exact ⟨column, hcolumn, hlt⟩
  · rintro ⟨column, hcolumn, hlt⟩
    exact ⟨column.lines, List.mem_map_of_mem hcolumn, hlt⟩

theorem zipWith_lineCell (options : LayoutOptions) (columns : List Block) (r : Nat) :
    (List.zipWith (Block.lineCell options) columns
      ((columns.map Block.lines).map (·[r]?))).intersperse options.border =
      lineParts options columns r := by
  rw [List.map_map, List.zipWith_map_right, List.zipWith_self]
  rfl

theorem synchronize_eq (options : LayoutOptions) (props : Props) (columns : List Block) :
    synchronize options props columns = (List.range (lineCount columns)).map fun r =>
      { name := "tr", props, children := lineParts options columns r } := by
  rw [synchronize, passes_eq, List.map_map]
  apply List.map_congr_left
  intro r _
  simp only [Function.comp, zipWith_lineCell]

theorem lineTexts_eq (options : LayoutOptions) (columns : List Block) :
    lineTexts options columns = (List.range (lineCount columns)).map fun r =>
      String.join ((lineParts options columns r).map (·.text)) := by
  rw [lineTexts, passes_eq, List.map_map]
  apply List.map_congr_left
  intro r _
  simp only [Function.comp, zipWith_lineCell]

end Receipt
