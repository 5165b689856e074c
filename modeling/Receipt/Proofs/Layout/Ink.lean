import Mathlib.Algebra.BigOperators.Group.List.Basic
import Receipt.Proofs.Layout.Reading
import Receipt.Proofs.Text.Ink
import Receipt.Proofs.Tree

/-!
# The ink of a laid-out document

Laying a document out cuts its texts, pads them, puts them side by side and, for what is nested in
a cell, does so again at every level.  None of this adds ink, and in a document where tables and
rows, rows and cells, and cells and tables hold one another as they should, none is lost either.

* `inkTexts_lineTexts`: the rows of lines of one row have the ink of its columns.
* `Node.isSection`, `Node.isCell`: what stands where it should.
* `Node.rowsFrom_conserved`, `Node.blocks_conserved`: the ink of the rows of a node and the ink of
  its cells, by recursion on the document.
* `ink_rows`: the ink of the rows of a document.
-/

namespace Receipt

open Text

/-! ## Lines of a column -/

namespace ColumnWidth

theorem inkAll_cut (width : ColumnWidth) (line : List Char) :
    inkAll (width.cut line) = ink line := by
  cases width with
  | auto => rw [cut, inkAll_cons, inkAll_nil, add_zero]
  | fixed width => exact Text.inkAll_cut width line

theorem inkAll_wrap (width : ColumnWidth) (text : List Char) :
    inkAll (width.wrap text) = ink text := by
  have hlines := inkAll_flatMap (g := id) width.inkAll_cut (splitLines text)
  rw [wrap, hlines, List.map_id, inkAll_splitLines]

theorem inkAll_wrapRow (width : ColumnWidth) (line : List Char) :
    inkAll (width.wrapRow line) = ink line := by
  cases width with
  | auto => rw [wrapRow, inkAll_cons, inkAll_nil, add_zero]
  | fixed width => rw [wrapRow, inkAll_wrap, ink_trimEnd]

theorem ink_pad (width : ColumnWidth) (line : List Char) : ink (width.pad line) = ink line := by
  cases width with
  | auto => rfl
  | fixed width => exact ink_padRight width line

end ColumnWidth

/-! ## Cells -/

/-- The ink of several texts. -/
def inkTexts (texts : List String) : Multiset Char :=
  inkAll (texts.map String.toList)

@[simp] theorem inkTexts_nil : inkTexts [] = 0 := rfl

@[simp] theorem inkTexts_cons (text : String) (texts : List String) :
    inkTexts (text :: texts) = ink text.toList + inkTexts texts := by
  rw [inkTexts, List.map_cons, inkAll_cons, inkTexts]

@[simp] theorem inkTexts_append (first second : List String) :
    inkTexts (first ++ second) = inkTexts first + inkTexts second := by
  rw [inkTexts, List.map_append, inkAll_append, inkTexts, inkTexts]

theorem inkTexts_eq_zero {texts : List String} (h : ∀ text ∈ texts, text = "") :
    inkTexts texts = 0 := by
  induction texts with
  | nil => rfl
  | cons text texts ih =>
    rw [inkTexts_cons, h text List.mem_cons_self, ih fun other hother =>
      h other (List.mem_cons_of_mem _ hother)]
    rfl

theorem ink_join (texts : List String) : ink (String.join texts).toList = inkTexts texts := by
  rw [String.toList_join, List.flatMap_def, ink_flatten, inkTexts]

theorem Block.ink_ofLines (props : Props) (lines : List (List Char)) :
    ink (Block.ofLines props lines).text.toList = inkAll lines := by
  show ink (String.ofList (joinLines lines)).toList = inkAll lines
  rw [String.toList_ofList, ink_joinLines]

theorem ink_cellOfText (options : LayoutOptions) (props : Props) (text : String) :
    ink (cellOfText options props text).text.toList = ink text.toList := by
  rw [cellOfText, Block.ink_ofLines, ColumnWidth.inkAll_wrap]

theorem ink_cellOfRows (options : LayoutOptions) (props : Props) (rows : List Row) :
    ink (cellOfRows options props rows).text.toList = inkTexts (rows.map (·.text)) := by
  rw [cellOfRows, Block.ink_ofLines,
    inkAll_flatMap (fun row : Row => ColumnWidth.inkAll_wrapRow _ row.text.toList) rows, inkTexts,
    List.map_map]
  rfl

theorem Block.inkAll_lines (column : Block) : inkAll column.lines = ink column.text.toList := by
  by_cases hempty : column.text.isEmpty
  · have htext : column.text = "" := String.isEmpty_iff.mp hempty
    rw [lines, if_pos hempty, htext]
    rfl
  · rw [lines, if_neg hempty, inkAll_splitLines]

theorem Block.ink_lineCell (options : LayoutOptions) (column : Block)
    (line : Option (List Char)) :
    ink (column.lineCell options line).text.toList = ink (line.getD []) := by
  rw [lineCell, String.toList_ofList, ColumnWidth.ink_pad]

theorem LayoutOptions.ink_border (options : LayoutOptions) :
    ink options.border.text.toList = 0 := by
  rw [border, String.toList_ofList, ink_padRight, ink_nil]

/-! ## Rows of lines -/

/-- The ink of what one pass takes. -/
def inkPass (pass : List (Option (List Char))) : Multiset Char :=
  inkAll (pass.map fun line => line.getD [])

theorem inkPass_head?_add (lists : List (List (List Char))) :
    inkPass (lists.map List.head?) + ((afterPass lists).map inkAll).sum =
      (lists.map inkAll).sum := by
  induction lists with
  | nil => rfl
  | cons list lists ih =>
    have hlist : ink (list.head?.getD []) + inkAll list.tail = inkAll list := by
      cases list with
      | nil => rfl
      | cons line list => rw [inkAll_cons, List.head?_cons, Option.getD_some, List.tail_cons]
    rw [inkPass, afterPass] at ih
    simp only [inkPass, afterPass, List.map_cons, inkAll_cons, List.sum_cons]
    rw [add_add_add_comm, hlist, ih]

/-- The passes over several lists take all that is in them. -/
theorem sum_passes (lists : List (List (List Char))) :
    ((passes lists).map inkPass).sum = (lists.map inkAll).sum := by
  fun_induction passes lists with
  | case1 lists hdone =>
    refine (List.sum_eq_zero ?_).symm
    intro total htotal
    obtain ⟨list, hlist, rfl⟩ := List.mem_map.mp htotal
    rw [List.isEmpty_iff.mp (List.all_eq_true.mp hdone list hlist)]
    rfl
  | case2 lists hdone ih => rw [List.map_cons, List.sum_cons, ih, inkPass_head?_add]

/-- Each pass takes one line, or none, for every list. -/
theorem length_of_mem_passes {lists : List (List (List Char))}
    {pass : List (Option (List Char))} (h : pass ∈ passes lists) :
    pass.length = lists.length := by
  fun_induction passes lists with
  | case1 lists hdone => exact absurd h List.not_mem_nil
  | case2 lists hdone ih =>
    rcases List.mem_cons.mp h with rfl | hlater
    · exact List.length_map _
    · rw [ih hlater, afterPass, List.length_map]

theorem inkTexts_zipWith (options : LayoutOptions) (columns : List Block)
    (pass : List (Option (List Char))) (h : pass.length = columns.length) :
    inkTexts ((List.zipWith (Block.lineCell options) columns pass).map (·.text)) =
      inkPass pass := by
  induction columns generalizing pass with
  | nil =>
    rw [List.length_eq_zero_iff.mp h]
    rfl
  | cons column columns ih =>
    cases pass with
    | nil => exact absurd h (by simp)
    | cons line pass =>
      rw [List.zipWith_cons_cons, List.map_cons, inkTexts_cons, Block.ink_lineCell,
        ih pass (Nat.succ.inj h), inkPass, inkPass, List.map_cons, inkAll_cons]

theorem inkTexts_intersperse {border : Block} (hborder : ink border.text.toList = 0)
    (cells : List Block) :
    inkTexts ((cells.intersperse border).map (·.text)) = inkTexts (cells.map (·.text)) := by
  induction cells with
  | nil => rfl
  | cons cell cells ih =>
    cases cells with
    | nil => rfl
    | cons next cells =>
      rw [List.intersperse_cons_cons]
      simp only [List.map_cons, inkTexts_cons] at ih ⊢
      rw [ih, hborder, zero_add]

/-- The rows of lines that columns make have the ink of the columns. -/
theorem inkTexts_lineTexts (options : LayoutOptions) (columns : List Block) :
    inkTexts (lineTexts options columns) = inkTexts (columns.map (·.text)) := by
  have hline : ∀ pass ∈ passes (columns.map Block.lines),
      ink (String.join (((List.zipWith (Block.lineCell options) columns pass).intersperse
        options.border).map (·.text))).toList = inkPass pass := by
    intro pass hpass
    have hlength : pass.length = columns.length := by
      rw [length_of_mem_passes hpass, List.length_map]
    rw [ink_join, inkTexts_intersperse options.ink_border, inkTexts_zipWith _ _ _ hlength]
  have hlines : inkTexts (lineTexts options columns) =
      ((passes (columns.map Block.lines)).map inkPass).sum := by
    rw [lineTexts, inkTexts, inkAll, List.map_map, List.map_map]
    exact congrArg List.sum (List.map_congr_left hline)
  rw [hlines, sum_passes, inkTexts, inkAll, List.map_map, List.map_map, List.map_map]
  exact congrArg List.sum (List.map_congr_left fun column _ => column.inkAll_lines)

/-- The rows of lines of a row that holds text have the ink of the text. -/
theorem inkTexts_lineTexts_cellOfText (options : LayoutOptions) (text : String) :
    inkTexts (lineTexts options [cellOfText options ∅ text]) = ink text.toList := by
  rw [inkTexts_lineTexts, List.map_singleton, inkTexts_cons, ink_cellOfText, inkTexts_nil,
    add_zero]

/-! ## Documents -/

/-- What is seen is part of what there is, and all of it where `whole` holds. -/
structure Conserved (whole : Bool) (seen all : Multiset Char) : Prop where
  le : seen ≤ all
  eq : whole = true → seen = all

namespace Conserved

variable {whole whole' : Bool} {seen all seen' all' : Multiset Char}

theorem of_eq (h : seen = all) : Conserved whole seen all :=
  ⟨le_of_eq h, fun _ => h⟩

/-- Nothing is seen of what is out of place. -/
theorem zero (all : Multiset Char) : Conserved false 0 all where
  le := Multiset.zero_le all
  eq := fun h => Bool.noConfusion h

theorem add (h : Conserved whole seen all) (h' : Conserved whole' seen' all') :
    Conserved (whole && whole') (seen + seen') (all + all') where
  le := add_le_add h.le h'.le
  eq := by
    intro hwhole
    obtain ⟨hfirst, hsecond⟩ := (Bool.and_eq_true whole whole').mp hwhole
    rw [h.eq hfirst, h'.eq hsecond]

end Conserved

namespace Node

mutual

/-- Whether a node is a table or a row, and all that it holds is where it should be: tables hold
tables and rows, rows hold cells, and both may hold a text or nothing instead. -/
def isSection : Node → Bool
  | leaf name _ _ =>
    match Kind.ofName name with
    | .table | .row => true
    | .cell | .unknown => false
  | branch name _ children =>
    match Kind.ofName name with
    | .table => areSections children
    | .row => areCells children
    | .cell | .unknown => false

/-- Whether a node is a cell that holds a text, or tables and rows. -/
def isCell : Node → Bool
  | leaf name _ _ =>
    match Kind.ofName name with
    | .cell => true
    | .table | .row | .unknown => false
  | branch name _ children =>
    match Kind.ofName name with
    | .cell => areSections children
    | .table | .row | .unknown => false

/-- Whether all nodes are tables and rows. -/
def areSections : List Node → Bool
  | [] => true
  | node :: nodes => isSection node && areSections nodes

/-- Whether all nodes are cells. -/
def areCells : List Node → Bool
  | [] => true
  | node :: nodes => isCell node && areCells nodes

end

/-- The rows that a row of the document becomes hold no text of their own. -/
theorem inkTexts_synchronize (options : LayoutOptions) (props : Props) (columns : List Block) :
    inkTexts ((synchronize options props columns).map (·.text)) = 0 := by
  apply inkTexts_eq_zero
  intro text htext
  rw [synchronize, List.map_map] at htext
  obtain ⟨pass, -, rfl⟩ := List.mem_map.mp htext
  rfl

theorem map_text_rows (lines : List String) (props : Props) :
    (lines.map fun line => (⟨line, props⟩ : Row)).map (·.text) = lines := by
  rw [List.map_map]
  exact List.map_id lines

mutual

/-- The ink of the rows of a node. -/
theorem rowsFrom_conserved (options : LayoutOptions) (tableProps : Props) (node : Node) :
    Conserved node.isSection (inkTexts ((rowsFrom options tableProps node).1.map (·.text)))
      (inkTexts node.leafTexts) := by
  cases node with
  | leaf name props text =>
    have htext : inkTexts (leafTexts (leaf name props text)) = ink text.toList := by
      rw [leafTexts, inkTexts_cons, inkTexts_nil, add_zero]
    rw [htext, rowsFrom, isSection]
    cases Kind.ofName name with
    | table =>
      apply Conserved.of_eq
      rw [map_text_rows, inkTexts_lineTexts_cellOfText]
    | row =>
      apply Conserved.of_eq
      rw [map_text_rows, inkTexts_lineTexts_cellOfText]
    | cell => exact Conserved.zero _
    | unknown => exact Conserved.zero _
  | branch name props children =>
    rw [leafTexts, rowsFrom, isSection]
    cases Kind.ofName name with
    | table => exact rowsFromAll_conserved options _ children
    | row =>
      show Conserved _ (inkTexts (List.map _ (List.map _ (lineTexts _ _)))) _
      rw [map_text_rows, inkTexts_lineTexts]
      exact blocksOfAll_conserved options children
    | cell => exact Conserved.zero _
    | unknown => exact Conserved.zero _

/-- The ink of the rows of several nodes. -/
theorem rowsFromAll_conserved (options : LayoutOptions) (tableProps : Props) (nodes : List Node) :
    Conserved (areSections nodes)
      (inkTexts ((rowsFromAll options tableProps nodes).1.map (·.text)))
      (inkTexts (leafTextsOfAll nodes)) := by
  cases nodes with
  | nil => exact Conserved.of_eq rfl
  | cons node nodes =>
    rw [areSections, rowsFromAll, leafTextsOfAll, List.map_append, inkTexts_append,
      inkTexts_append]
    exact (rowsFrom_conserved options tableProps node).add
      (rowsFromAll_conserved options _ nodes)

/-- The ink of the texts of a node's blocks, which are what a row sees of the nodes in it. -/
theorem blocks_conserved (options : LayoutOptions) (node : Node) :
    Conserved node.isCell (inkTexts ((blocks options node).map (·.text)))
      (inkTexts node.leafTexts) := by
  cases node with
  | leaf name props text =>
    rw [blocks, leafTexts, isCell]
    cases Kind.ofName name with
    | table => exact Conserved.zero _
    | row =>
      show Conserved false (inkTexts ((synchronize _ _ _).map _)) _
      rw [inkTexts_synchronize]
      exact Conserved.zero _
    | cell =>
      apply Conserved.of_eq
      show inkTexts [(cellOfText options props text).text] = inkTexts [text]
      rw [inkTexts_cons, inkTexts_cons, ink_cellOfText]
    | unknown => exact Conserved.zero _
  | branch name props children =>
    rw [blocks, leafTexts, isCell]
    cases Kind.ofName name with
    | table =>
      cases children with
      | nil => exact Conserved.zero _
      | cons child children => exact Conserved.zero _
    | row =>
      cases children with
      | nil =>
        show Conserved false (inkTexts ((synchronize _ _ _).map _)) _
        rw [inkTexts_synchronize]
        exact Conserved.zero _
      | cons child children =>
        show Conserved false (inkTexts ((synchronize _ _ _).map _)) _
        rw [inkTexts_synchronize]
        exact Conserved.zero _
    | cell =>
      have hrows : Block.rowsOfAll (blocksOfAll options children) =
          (rowsFromAll options ∅ children).1 := by
        rw [Block.rowsOfAll, rowsFromAll_blocksOfAll]
      rw [hrows, List.map_singleton, inkTexts_cons, ink_cellOfRows, inkTexts_nil, add_zero]
      exact rowsFromAll_conserved options ∅ children
    | unknown => exact Conserved.zero _

/-- The ink of the texts of the blocks of several nodes. -/
theorem blocksOfAll_conserved (options : LayoutOptions) (nodes : List Node) :
    Conserved (areCells nodes) (inkTexts ((blocksOfAll options nodes).map (·.text)))
      (inkTexts (leafTextsOfAll nodes)) := by
  cases nodes with
  | nil => exact Conserved.of_eq rfl
  | cons node nodes =>
    rw [areCells, blocksOfAll, leafTextsOfAll, List.map_append, inkTexts_append, inkTexts_append]
    exact (blocks_conserved options node).add (blocksOfAll_conserved options nodes)

end

end Node

/-- The ink of the rows of a document is part of the ink of its texts.  It is all of it if all
nodes are where they should be. -/
theorem ink_rows (options : LayoutOptions) (nodes : List Node) :
    inkTexts ((rows options nodes).map (·.text)) ≤ inkTexts (Node.leafTextsOfAll nodes) ∧
    (Node.areSections nodes = true →
      inkTexts ((rows options nodes).map (·.text)) = inkTexts (Node.leafTextsOfAll nodes)) := by
  have hconserved := Node.rowsFromAll_conserved options ∅ nodes
  rw [← rows_eq] at hconserved
  exact ⟨hconserved.le, hconserved.eq⟩

/-- A row nested in a cell that is narrower than its text, beside a cell with no usable width. -/
def narrowCell : List Node :=
  [.branch "table" ∅
    [.branch "tr" ∅
      [.branch "td" (Props.ofPairs [("width", "3")]) [.leaf "tr" ∅ "ab\ncdefg"],
        .leaf "td" (Props.ofPairs [("width", "wide")]) "x y"]]]

theorem ink_rows_narrowCell :
    Node.areSections narrowCell = true ∧
    inkTexts ((rows {} narrowCell).map (·.text)) = inkTexts ["ab\ncdefg", "x y"] := by
  have hsections : Node.areSections narrowCell = true := by decide
  exact ⟨hsections, (ink_rows {} narrowCell).2 hsections⟩

end Receipt
