/-!
Text in columns, where each character takes one column: padding to a width, cutting at a width,
and taking apart and joining lines.
-/

namespace Receipt.Text

/-- The text with spaces after it up to `width` characters. Text that is as long or longer stays
as it is. -/
def padRight (width : Nat) (cs : List Char) : List Char :=
  cs ++ List.replicate (width - cs.length) ' '

/-- The text with spaces before it up to `width` characters. -/
def padLeft (width : Nat) (cs : List Char) : List Char :=
  List.replicate (width - cs.length) ' ' ++ cs

/-- Consecutive pieces of `size + 1` elements, of which the last may be shorter. -/
def pieces (size : Nat) : List α → List (List α)
  | [] => []
  | x :: xs => (x :: xs.take size) :: pieces size (xs.drop size)
termination_by xs => xs.length

/-- The consecutive segments of at most `width` characters. A width of zero counts as one, and
empty text is one empty segment. -/
def cut (width : Nat) (cs : List Char) : List (List Char) :=
  if cs.isEmpty then [[]] else pieces (width - 1) cs

/-- The lines of a text, which are what stands between its line feeds. There is always one. -/
def splitLines : List Char → List (List Char)
  | [] => [[]]
  | c :: cs =>
    if c = '\n' then
      [] :: splitLines cs
    else
      match splitLines cs with
      | [] => [[c]]
      | line :: lines => (c :: line) :: lines

/-- The lines with a line feed between each two. -/
def joinLines : List (List Char) → List Char
  | [] => []
  | [line] => line
  | line :: next :: lines => line ++ '\n' :: joinLines (next :: lines)

theorem length_padRight (width : Nat) (cs : List Char) :
    (padRight width cs).length = max width cs.length := by
  simp [padRight]
  omega

theorem splitLines_ne_nil (cs : List Char) : splitLines cs ≠ [] := by
  cases cs with
  | nil => simp [splitLines]
  | cons c cs =>
    unfold splitLines
    split
    · simp
    · split <;> simp

theorem joinLines_splitLines (cs : List Char) : joinLines (splitLines cs) = cs := by
  induction cs with
  | nil => rfl
  | cons c cs ih =>
    cases hs : splitLines cs with
    | nil => exact absurd hs (splitLines_ne_nil cs)
    | cons line lines =>
      rw [hs] at ih
      by_cases hc : c = '\n'
      · simp [splitLines, hc, hs, joinLines, ih]
      · cases lines <;> simp_all [splitLines, joinLines]

theorem flatten_pieces (size : Nat) (xs : List α) : (pieces size xs).flatten = xs := by
  fun_induction pieces size xs with
  | case1 => rfl
  | case2 x xs ih => simp [ih]

theorem flatten_cut (width : Nat) (cs : List Char) : (cut width cs).flatten = cs := by
  unfold cut
  split
  · simp_all
  · exact flatten_pieces _ cs

end Receipt.Text
