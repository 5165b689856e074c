import Receipt.Markup.Element
import Receipt.Proofs.Markup.Token

/-!
# The search for a close as a counter

`splitAtClose?` takes a text piece by piece, each up to the next close, and counts the opening tags
of each piece.  Seen from the parts of a text it is a counter: an opening tag of the name adds one
to what is pending, a closing tag takes one away, and the search ends where there is nothing to
take away.

* `Passes` says that a part adds a number to the counter, and `splitAtClose?_of_passes` is the step
  of the search over such a part.
* `Balanced` says that a part leaves the counter as it is.  Parts that are balanced can be put next
  to each other (`Balanced.append`) and inside an element (`BalancedBefore.element`).
* `splitAtClose?_append_of_not_mem` says that the search does not see what has no `>` and stands
  last.
-/

namespace Receipt.Markup

variable {name text piece rest more inner after : List Char} {pending opened : Nat}

/-! ## The steps of the search -/

theorem splitAtClose?_of_none (h : Text.splitAround? (closeTag name) text = none) :
    splitAtClose? name pending text = none := by
  rw [splitAtClose?]
  split
  · rfl
  · rename_i hsplit
    rw [h] at hsplit
    simp at hsplit

theorem splitAtClose?_of_some (h : Text.splitAround? (closeTag name) text = some (piece, rest)) :
    splitAtClose? name pending text =
      match pending + countOpened name piece with
      | 0 => some (piece, rest)
      | stillOpen + 1 =>
        (splitAtClose? name stillOpen rest).map (Prod.map (piece ++ closeTag name ++ ·) id) := by
  rw [splitAtClose?]
  split
  · rename_i hsplit
    rw [h] at hsplit
    simp at hsplit
  · rename_i hsplit
    rw [h] at hsplit
    simp only [Option.some.injEq, Prod.mk.injEq] at hsplit
    obtain ⟨rfl, rfl⟩ := hsplit
    rfl

@[simp] theorem countOpened_nil (name : List Char) : countOpened name [] = 0 := by
  rw [countOpened, OpenTag.all_of_find?_eq_none rfl]
  rfl

/-- A closing tag ends the search if nothing is pending. -/
theorem splitAtClose?_closeTag_zero (name rest : List Char) :
    splitAtClose? name 0 (closeTag name ++ rest) = some ([], rest) := by
  rw [splitAtClose?_of_some (Text.splitAround?_append_self (closeTag_ne_nil name) rest)]
  simp

/-- A closing tag takes away one of those that are pending. -/
theorem splitAtClose?_closeTag_succ (name rest : List Char) (pending : Nat) :
    splitAtClose? name (pending + 1) (closeTag name ++ rest) =
      (splitAtClose? name pending rest).map (Prod.map (closeTag name ++ ·) id) := by
  rw [splitAtClose?_of_some (Text.splitAround?_append_self (closeTag_ne_nil name) rest)]
  simp

/-- A part without `>` changes nothing when it stands last. -/
theorem splitAtClose?_append_of_not_mem (h : '>' ∉ more) (text : List Char) :
    splitAtClose? name pending (text ++ more) =
      (splitAtClose? name pending text).map (Prod.map id (· ++ more)) := by
  fun_induction splitAtClose? name pending text with
  | case1 pending text hsplit =>
    have hmore := Text.splitAround?_append_of_not_mem ('<' :: '/' :: name) h text
    rw [← closeTag_eq_append, hsplit] at hmore
    rw [splitAtClose?_of_none hmore, Option.map_none]
  | case2 pending text piece rest hsplit hzero =>
    rw [splitAtClose?_of_some (Text.splitAround?_append_right hsplit more), hzero]
    rfl
  | case3 pending text piece rest hsplit stillOpen hopen ih =>
    rw [splitAtClose?_of_some (Text.splitAround?_append_right hsplit more), hopen]
    simp only [ih, Option.map_map]
    rfl

/-- What the search finds depends on the text up to the end of the close only. -/
theorem splitAtClose?_replace_after (h : splitAtClose? name pending text = some (inner, after))
    (more : List Char) :
    splitAtClose? name pending (inner ++ closeTag name ++ more) = some (inner, more) := by
  fun_induction splitAtClose? name pending text generalizing inner with
  | case1 => simp at h
  | case2 pending text piece rest hsplit hzero =>
    simp only [Option.some.injEq, Prod.mk.injEq] at h
    rw [← h.1, splitAtClose?_of_some
      (Text.splitAround?_replace_after (closeTag_ne_nil name) hsplit more), hzero]
  | case3 pending text piece rest hsplit stillOpen hopen ih =>
    obtain ⟨⟨inner', after'⟩, hinner, heq⟩ := Option.map_eq_some_iff.mp h
    simp only [Prod.mk.injEq] at heq
    obtain ⟨rfl, rfl⟩ := heq
    have hpiece := Text.splitAround?_replace_after (closeTag_ne_nil name) hsplit
      (inner' ++ closeTag name ++ more)
    have htext : piece ++ closeTag name ++ inner' ++ closeTag name ++ more =
        piece ++ closeTag name ++ (inner' ++ closeTag name ++ more) := by
      simp only [List.append_assoc]
    rw [htext, splitAtClose?_of_some hpiece, hopen]
    simp only [ih hinner, Option.map_some, Prod.map_apply, id_eq]

/-! ## Parts that the search goes past -/

/-- No close of `name` begins in `text`, and `opened` elements of that name are opened in it. -/
structure Passes (name : List Char) (opened : Nat) (text : List Char) : Prop where
  split : ∀ rest, Text.splitAround? (closeTag name) (text ++ rest) =
    (Text.splitAround? (closeTag name) rest).map (Prod.map (text ++ ·) id)
  count : ∀ rest, countOpened name (text ++ rest) = opened + countOpened name rest

theorem splitAtClose?_of_passes (h : Passes name opened text) (pending : Nat)
    (rest : List Char) :
    splitAtClose? name pending (text ++ rest) =
      (splitAtClose? name (pending + opened) rest).map (Prod.map (text ++ ·) id) := by
  have hsplit := h.split rest
  cases hrest : Text.splitAround? (closeTag name) rest with
  | none =>
    rw [hrest] at hsplit
    rw [splitAtClose?_of_none hsplit, splitAtClose?_of_none hrest, Option.map_none]
  | some found =>
    obtain ⟨piece, after⟩ := found
    rw [hrest] at hsplit
    rw [splitAtClose?_of_some hsplit, splitAtClose?_of_some hrest]
    simp only [id_eq, h.count, ← Nat.add_assoc]
    cases pending + opened + countOpened name piece with
    | zero => rfl
    | succ stillOpen =>
      simp only
      rw [Text.map_append_map_append]
      simp only [List.append_assoc]

theorem passes_of_lt_not_mem (h : '<' ∉ text) : Passes name 0 text where
  split := Text.splitAround?_append_left h
  count rest := by rw [countOpened, OpenTag.all_append_left h, Nat.zero_add, countOpened]

/-- An opening tag without `<` in its attributes counts if it has the name. -/
theorem passes_write {tag : OpenTag} (name : List Char) (htag : tag.WellFormed)
    (hattrs : '<' ∉ tag.attrs) :
    Passes name (if tag.name = name then 1 else 0) tag.write where
  split rest := by
    obtain ⟨c, cs, hname⟩ := List.exists_cons_of_ne_nil htag.name_ne_nil
    have hslash : '/' ≠ c := by
      have := slash_not_mem_of_isNameChar htag.name_chars
      rw [hname] at this
      exact fun e => this (e ▸ List.mem_cons_self)
    have hbody : '<' ∉ tag.name ++ (tag.attrs ++ ['>']) := by
      have := lt_not_mem_of_isNameChar htag.name_chars
      simp [this, hattrs]
    have hprefix : ¬ closeTag name <+: '<' :: (tag.name ++ (tag.attrs ++ ['>']) ++ rest) := by
      simp [closeTag, hname, hslash]
    rw [OpenTag.write, List.cons_append, Text.splitAround?_cons_of_not_begins hprefix, closeTag,
      Text.splitAround?_append_left hbody, Option.map_map]
    rfl
  count rest := by
    rw [countOpened, OpenTag.all_write_append htag, List.countP_cons, countOpened, Nat.add_comm]
    simp

theorem eq_of_begins_with_append_gt {name name' rest : List Char}
    (hname : ∀ c ∈ name, isNameChar c = true) (hname' : ∀ c ∈ name', isNameChar c = true)
    (h : name ++ ['>'] <+: name' ++ '>' :: rest) : name = name' := by
  obtain ⟨tail, htail⟩ := h
  have hgt : ∀ tail : List Char, ∀ c ∈ ('>' :: tail).head?, isNameChar c = false := by
    simp
    decide
  calc name = (name ++ '>' :: tail).takeWhile isNameChar :=
        (Text.takeWhile_append_of_all hname _ (hgt tail)).1.symm
    _ = (name' ++ '>' :: rest).takeWhile isNameChar := by rw [← htail]; simp
    _ = name' := (Text.takeWhile_append_of_all hname' _ (hgt rest)).1

/-- A closing tag of another name is passed over. -/
theorem passes_closeTag {name' : List Char} (hname : ∀ c ∈ name, isNameChar c = true)
    (hname' : ∀ c ∈ name', isNameChar c = true) (hne : name ≠ name') :
    Passes name 0 (closeTag name') where
  split rest := by
    have hbody : '<' ∉ '/' :: (name' ++ ['>']) := by
      have := lt_not_mem_of_isNameChar hname'
      simpa using this
    have hprefix : ¬ closeTag name <+: '<' :: ('/' :: (name' ++ ['>']) ++ rest) := by
      intro h
      apply hne
      have hmore : name ++ ['>'] <+: name' ++ '>' :: rest := by simpa [closeTag] using h
      exact eq_of_begins_with_append_gt hname hname' hmore
    rw [closeTag_eq_append name', List.cons_append, List.cons_append, List.cons_append,
      Text.splitAround?_cons_of_not_begins hprefix, closeTag, Text.splitAround?_append_left hbody,
      Option.map_map]
    rfl
  count rest := by
    rw [countOpened, OpenTag.all_closeTag_append hname', Nat.zero_add, countOpened]

/-! ## Balanced parts -/

/-- The search for a close of `name` goes past `text` and counts as before. -/
def Balanced (name text : List Char) : Prop :=
  ∀ pending rest, splitAtClose? name pending (text ++ rest) =
    (splitAtClose? name pending rest).map (Prod.map (text ++ ·) id)

theorem Passes.balanced (h : Passes name 0 text) : Balanced name text :=
  splitAtClose?_of_passes h

theorem Balanced.append {text' : List Char} (h : Balanced name text) (h' : Balanced name text') :
    Balanced name (text ++ text') := by
  intro pending rest
  rw [List.append_assoc, h, h', Text.map_append_map_append]

/-- The search for a close of `name` goes past `text` and counts as before, where a close of
`stop` comes next. -/
def BalancedBefore (stop name text : List Char) : Prop :=
  ∀ pending rest, splitAtClose? name pending (text ++ (closeTag stop ++ rest)) =
    (splitAtClose? name pending (closeTag stop ++ rest)).map (Prod.map (text ++ ·) id)

theorem Balanced.before (h : Balanced name text) (stop : List Char) :
    BalancedBefore stop name text :=
  fun pending rest => h pending (closeTag stop ++ rest)

/-- A text in which no tag begins is balanced where a closing tag comes next. -/
theorem balancedBefore_of_precedes {stop : List Char} (hne : name ≠ [])
    (hname : ∀ c ∈ name, isNameChar c = true) (hstop : ∀ c ∈ stop, isNameChar c = true)
    (h : Token.Precedes text ⟨true, ⟨stop, []⟩⟩) : BalancedBefore stop name text := by
  have hsplit : ∀ rest, Text.splitAround? (closeTag name) (text ++ (closeTag stop ++ rest)) =
      (Text.splitAround? (closeTag name) (closeTag stop ++ rest)).map
        (Prod.map (text ++ ·) id) :=
    h.splitAround?_append hne hname
  by_cases hsame : name = stop
  · intro pending rest
    subst hsame
    have hfound : Text.splitAround? (closeTag name) (text ++ (closeTag name ++ rest)) =
        some (text, rest) := by
      rw [hsplit, Text.splitAround?_append_self (closeTag_ne_nil name)]
      simp
    have hcount : countOpened name text = 0 := by
      rw [countOpened, OpenTag.all_of_find?_eq_none h.find?_eq_none]
      rfl
    rw [splitAtClose?_of_some hfound, hcount]
    cases pending with
    | zero =>
      rw [splitAtClose?_closeTag_zero]
      simp
    | succ pending =>
      rw [splitAtClose?_closeTag_succ, Text.map_append_map_append]
  · have hclose := passes_closeTag hname hstop hsame
    have hpasses : Passes name 0 (text ++ closeTag stop) := by
      refine ⟨fun rest => ?_, fun rest => ?_⟩
      · rw [List.append_assoc, hsplit, hclose.split, Text.map_append_map_append]
      · have hall : OpenTag.all (text ++ (closeTag stop ++ rest)) =
            OpenTag.all (closeTag stop ++ rest) := h.all_append rest
        have hcount := hclose.count rest
        rw [countOpened] at hcount
        rw [List.append_assoc, countOpened, hall, hcount]
    intro pending rest
    rw [← List.append_assoc, splitAtClose?_of_passes hpasses, splitAtClose?_of_passes hclose,
      Text.map_append_map_append]

/-- An element with a balanced text inside is balanced. -/
theorem BalancedBefore.element {tag : OpenTag} (htag : tag.WellFormed) (hattrs : '<' ∉ tag.attrs)
    (hname : ∀ c ∈ name, isNameChar c = true) (h : BalancedBefore tag.name name inner) :
    Balanced name (tag.write ++ inner ++ closeTag tag.name) := by
  intro pending rest
  rw [List.append_assoc, List.append_assoc]
  by_cases hsame : tag.name = name
  · have hopen : Passes name 1 tag.write := by
      have := passes_write name htag hattrs
      rwa [if_pos hsame] at this
    rw [splitAtClose?_of_passes hopen, h, hsame, splitAtClose?_closeTag_succ,
      Text.map_append_map_append, Text.map_append_map_append]
  · have hopen : Passes name 0 tag.write := by
      have := passes_write name htag hattrs
      rwa [if_neg hsame] at this
    have hclose := passes_closeTag hname htag.name_chars (Ne.symm hsame)
    rw [splitAtClose?_of_passes hopen, h, splitAtClose?_of_passes hclose,
      Text.map_append_map_append, Text.map_append_map_append]
    rfl

/-- The search from behind an opening tag ends where a balanced text is closed. -/
theorem BalancedBefore.splitAtClose?_eq (h : BalancedBefore name name text) (rest : List Char) :
    splitAtClose? name 0 (text ++ (closeTag name ++ rest)) = some (text, rest) := by
  rw [h, splitAtClose?_closeTag_zero]
  simp

end Receipt.Markup
