import Receipt.Markup.Tag

/-!
Elements: an opening tag, the text inside, and the close that balances it. Elements of one text
are found from left to right at one level. An opening tag that nothing balances is passed over
like any other text.
-/

namespace Receipt.Markup

/-- The number of tags that open elements of the given name. -/
def countOpened (name text : List Char) : Nat :=
  (OpenTag.all text).countP (·.name == name)

/-- Splits a text at the close that balances an element of the given name, inside which `pending`
more elements of that name are open: what is before that close, and what is after it.

The text is taken piece by piece, each up to the next close. -/
def splitAtClose? (name : List Char) (pending : Nat) (text : List Char) :
    Option (List Char × List Char) :=
  match _split : Text.splitAround? (closeTag name) text with
  | none => none
  | some (piece, rest) =>
    match pending + countOpened name piece with
    | 0 => some (piece, rest)
    | stillOpen + 1 =>
      (splitAtClose? name stillOpen rest).map fun (inner, after) =>
        (piece ++ closeTag name ++ inner, after)
termination_by text.length
decreasing_by exact Text.length_lt_of_splitAround? (closeTag_ne_nil name) _split

theorem eq_of_splitAtClose? {name text inner after : List Char} {pending : Nat}
    (h : splitAtClose? name pending text = some (inner, after)) :
    text = inner ++ closeTag name ++ after := by
  fun_induction splitAtClose? name pending text generalizing inner with
  | case1 => simp at h
  | case2 pending text piece rest hsplit hzero =>
    simp only [Option.some.injEq, Prod.mk.injEq] at h
    obtain ⟨rfl, rfl⟩ := h
    exact Text.eq_of_splitAround? hsplit
  | case3 pending text piece rest hsplit stillOpen hopen ih =>
    obtain ⟨⟨i, a⟩, hi, he⟩ := Option.map_eq_some_iff.mp h
    simp only [Prod.mk.injEq] at he
    obtain ⟨rfl, rfl⟩ := he
    rw [Text.eq_of_splitAround? hsplit, ih hi]
    simp

/-- An element, with the text that is passed over before it. -/
structure Element where
  before : List Char
  tag : OpenTag
  inner : List Char
deriving DecidableEq

namespace Element

/-- The element as it is written, from its opening tag to its close. -/
def write (element : Element) : List Char :=
  element.tag.write ++ element.inner ++ closeTag element.tag.name

/-- The element with whose opening tag a text begins, and what follows it. -/
def read? (text : List Char) : Option (OpenTag × List Char × List Char) :=
  match OpenTag.read? text with
  | none => none
  | some (tag, rest) => (splitAtClose? tag.name 0 rest).map fun split => (tag, split)

/-- The first element of a text, and what follows it. -/
def next? : List Char → Option (Element × List Char)
  | [] => none
  | c :: cs =>
    match read? (c :: cs) with
    | some (tag, inner, after) => some (⟨[], tag, inner⟩, after)
    | none =>
      (next? cs).map fun (element, after) =>
        ({ element with before := c :: element.before }, after)

theorem eq_of_read? {text inner after : List Char} {tag : OpenTag}
    (h : read? text = some (tag, inner, after)) :
    text = (⟨[], tag, inner⟩ : Element).write ++ after := by
  unfold read? at h
  split at h
  · simp at h
  · rename_i hr
    obtain ⟨⟨i, a⟩, hi, he⟩ := Option.map_eq_some_iff.mp h
    simp only [Prod.mk.injEq] at he
    obtain ⟨rfl, rfl, rfl⟩ := he
    rw [OpenTag.eq_of_read? hr, eq_of_splitAtClose? hi]
    simp [write]

/-- The first element stands in the text between what is before it and what follows. -/
theorem eq_of_next? {text after : List Char} {element : Element}
    (h : next? text = some (element, after)) :
    text = element.before ++ element.write ++ after := by
  induction text generalizing element with
  | nil => simp [next?] at h
  | cons c cs ih =>
    unfold next? at h
    split at h
    · rename_i hr
      simp only [Option.some.injEq, Prod.mk.injEq] at h
      obtain ⟨rfl, rfl⟩ := h
      simpa using eq_of_read? hr
    · obtain ⟨⟨e, a⟩, he, hea⟩ := Option.map_eq_some_iff.mp h
      simp only [Prod.mk.injEq] at hea
      obtain ⟨rfl, rfl⟩ := hea
      have := ih he
      simp only [write] at this ⊢
      rw [List.cons_append, List.cons_append, ← this]

theorem length_lt_of_next? {text after : List Char} {element : Element}
    (h : next? text = some (element, after)) :
    element.inner.length < text.length ∧ after.length < text.length := by
  rw [eq_of_next? h]
  simp only [write, List.length_append, OpenTag.length_write]
  omega

/-- The elements of a text at its top level, from left to right. -/
def all (text : List Char) : List Element :=
  match _found : next? text with
  | none => []
  | some (element, after) => element :: all after
termination_by text.length
decreasing_by exact (length_lt_of_next? _found).2

end Element

end Receipt.Markup
