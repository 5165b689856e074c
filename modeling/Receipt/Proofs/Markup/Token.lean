import Receipt.Proofs.Markup.Tag

/-!
# Splitting a text into tokens

`Token.split` takes a text apart into tag tokens and the text between them.  Put together again the
parts are the text, every token is a well-formed tag, and no token begins in the text before another
(`Token.splits_split`).  Such text is passed over in the search for opening tags
(`Token.Precedes.all_append`) and in the search for a close (`Token.Precedes.splitAround?_append`).
-/

namespace Receipt.Markup.Token

variable {text before after rest : List Char} {token : Token}
  {pieces : List (List Char × Token)} {piece : List Char × Token}

/-! ## One token -/

/-- An opening tag is a token. -/
theorem read?_isSome_of_read? {found : OpenTag × List Char} (h : OpenTag.read? text = some found) :
    (read? text).isSome = true := by
  unfold read?
  split
  · -- a closing token begins with a slash, which is no character of a name
    rename_i cs
    have hnone : OpenTag.read? ('<' :: '/' :: cs) = none := by
      rw [OpenTag.read?]
      rfl
    rw [hnone] at h
    simp at h
  · rw [h]
    rfl

theorem read?_eq_none_of_read? (h : read? text = none) : OpenTag.read? text = none := by
  cases hopen : OpenTag.read? text with
  | none => rfl
  | some found =>
    have hsome := read?_isSome_of_read? hopen
    rw [h] at hsome
    simp at hsome

theorem wellFormed_of_read? (h : read? text = some (token, after)) : token.tag.WellFormed := by
  unfold read? at h
  split at h
  · obtain ⟨⟨tag, rest⟩, htag, heq⟩ := Option.map_eq_some_iff.mp h
    simp only [Prod.mk.injEq] at heq
    obtain ⟨rfl, -⟩ := heq
    exact OpenTag.wellFormed_of_read? htag
  · obtain ⟨⟨tag, rest⟩, htag, heq⟩ := Option.map_eq_some_iff.mp h
    simp only [Prod.mk.injEq] at heq
    obtain ⟨rfl, -⟩ := heq
    exact OpenTag.wellFormed_of_read? htag

/-! ## The first token -/

theorem find?_cons_of_read?_eq_none {c : Char} {cs : List Char} (h : read? (c :: cs) = none) :
    find? (c :: cs) = (find? cs).map (Prod.map (c :: ·) id) := by
  rw [find?, h]
  rfl

theorem wellFormed_of_find? (h : find? text = some (before, token, after)) :
    token.tag.WellFormed := by
  induction text generalizing before with
  | nil => simp [find?] at h
  | cons c cs ih =>
    cases hread : read? (c :: cs) with
    | some found =>
      rw [find?, hread] at h
      simp only [Option.some.injEq, Prod.mk.injEq] at h
      obtain ⟨-, rfl, -⟩ := h
      exact wellFormed_of_read? hread
    | none =>
      rw [find?_cons_of_read?_eq_none hread] at h
      obtain ⟨⟨before', found⟩, hfound, heq⟩ := Option.map_eq_some_iff.mp h
      simp only [Prod.map_apply, id_eq, Prod.mk.injEq] at heq
      obtain ⟨-, rfl⟩ := heq
      exact ih hfound

theorem read?_write_append (h : token.tag.WellFormed) (after : List Char) :
    read? (token.write ++ after) = some (token, after) := by
  obtain ⟨closes, tag⟩ := token
  have hread := OpenTag.read?_write_append h after
  cases closes with
  | true =>
    show read? ('<' :: '/' :: (tag.name ++ (tag.attrs ++ ['>'])) ++ after) = _
    rw [List.cons_append, List.cons_append, read?]
    rw [OpenTag.write, List.cons_append] at hread
    rw [hread]
    rfl
  | false =>
    obtain ⟨c, cs, hname⟩ := List.exists_cons_of_ne_nil h.name_ne_nil
    have hslash : c ≠ '/' := by
      have := Markup.slash_not_mem_of_isNameChar h.name_chars
      rw [hname] at this
      exact fun e => this (e ▸ List.mem_cons_self)
    show read? (tag.write ++ after) = _
    unfold read?
    split
    · rename_i heq
      rw [OpenTag.write, hname] at heq
      simp only [List.cons_append, List.cons.injEq] at heq
      exact absurd heq.2.1 hslash
    · rw [hread]
      rfl

theorem write_eq_append (h : token.tag.WellFormed) :
    ∃ body, '>' ∉ body ∧ token.write = body ++ ['>'] := by
  obtain ⟨closes, tag⟩ := token
  cases closes with
  | true =>
    refine ⟨'<' :: '/' :: (tag.name ++ tag.attrs), ?_, by simp [write]⟩
    simp [Markup.gt_not_mem_of_isNameChar h.name_chars, h.gt_not_mem]
  | false => exact ⟨'<' :: (tag.name ++ tag.attrs), h.gt_not_mem_body, tag.write_eq_append⟩

/-- A text that ends with `>` and begins with no token does not do so when it goes on. -/
theorem read?_append_eq_none (h : read? (text ++ ['>']) = none) (more : List Char) :
    read? (text ++ ['>'] ++ more) = none := by
  rw [Option.eq_none_iff_forall_ne_some]
  rintro ⟨token, after⟩ hread
  have htoken := wellFormed_of_read? hread
  obtain ⟨body, hbody, hwrite⟩ := write_eq_append htoken
  have heq := eq_of_read? hread
  obtain ⟨excess, hexcess⟩ : ∃ excess, text ++ ['>'] = token.write ++ excess := by
    rcases List.append_eq_append_iff.mp heq with ⟨excess, hlong, -⟩ | ⟨excess, hlong, -⟩
    · -- the token would be longer than the text, and have a `>` before its end
      rcases List.eq_nil_or_concat excess with rfl | ⟨excess', c, rfl⟩
      · exact ⟨[], by simpa using hlong.symm⟩
      · rw [hwrite, List.concat_eq_append, ← List.append_assoc] at hlong
        obtain ⟨hbodyEq, -⟩ := List.append_inj' hlong rfl
        exact absurd (by rw [hbodyEq]; simp) hbody
    · exact ⟨excess, hlong⟩
  rw [hexcess, read?_write_append htoken] at h
  simp at h

theorem read?_append_right (h : read? text = some (token, after)) (more : List Char) :
    read? (text ++ more) = some (token, after ++ more) := by
  rw [eq_of_read? h, List.append_assoc]
  exact read?_write_append (wellFormed_of_read? h) (after ++ more)

theorem find?_of_read?_eq_some (h : read? text = some (token, after)) :
    find? text = some ([], token, after) := by
  cases text with
  | nil => simp [read?, OpenTag.read?] at h
  | cons c cs => rw [find?, h]

/-- What is found depends on the text up to the end of the token only. -/
theorem find?_replace_after (h : find? text = some (before, token, after)) (more : List Char) :
    find? (before ++ token.write ++ more) = some (before, token, more) := by
  have htoken := wellFormed_of_find? h
  induction text generalizing before with
  | nil => simp [find?] at h
  | cons c cs ih =>
    cases hread : read? (c :: cs) with
    | some found =>
      rw [find?_of_read?_eq_some hread] at h
      simp only [Option.some.injEq, Prod.mk.injEq] at h
      rw [← h.1]
      exact find?_of_read?_eq_some (read?_write_append htoken more)
    | none =>
      have htext := eq_of_find? h
      rw [find?_cons_of_read?_eq_none hread] at h
      obtain ⟨⟨before', found⟩, hfound, heq⟩ := Option.map_eq_some_iff.mp h
      simp only [Prod.map_apply, id_eq, Prod.mk.injEq] at heq
      obtain ⟨rfl, rfl⟩ := heq
      obtain ⟨body, -, hwrite⟩ := write_eq_append htoken
      have hshort : read? (c :: before' ++ body ++ ['>']) = none := by
        rw [Option.eq_none_iff_forall_ne_some]
        rintro ⟨other, rest⟩ hother
        have hlong := read?_append_right hother after
        rw [List.append_assoc (c :: before'), ← hwrite, ← htext, hread] at hlong
        simp at hlong
      have hnone := read?_append_eq_none hshort more
      rw [List.append_assoc (c :: before'), ← hwrite] at hnone
      rw [List.cons_append, List.cons_append] at hnone ⊢
      rw [find?_cons_of_read?_eq_none hnone, ih hfound]
      rfl

/-! ## The text before a token -/

/-- No token begins in a text before the token that follows it. -/
def Precedes (text : List Char) (token : Token) : Prop :=
  ∀ more, find? (text ++ token.write ++ more) = some (text, token, more)

theorem precedes_of_find? (h : find? text = some (before, token, after)) :
    Precedes before token :=
  find?_replace_after h

namespace Precedes

/-- Where the text before a token is not over, nothing can be read. -/
theorem of_cons {c : Char} {cs : List Char} (h : Precedes (c :: cs) token) :
    (∀ more, read? (c :: (cs ++ (token.write ++ more))) = none) ∧ Precedes cs token := by
  have hcons : ∀ more, read? (c :: (cs ++ (token.write ++ more))) = none ∧
      find? (cs ++ token.write ++ more) = some (cs, token, more) := by
    intro more
    have hfind := h more
    rw [List.cons_append, List.cons_append, List.append_assoc] at hfind
    cases hread : read? (c :: (cs ++ (token.write ++ more))) with
    | some found =>
      rw [find?_of_read?_eq_some hread] at hfind
      simp at hfind
    | none =>
      rw [find?_cons_of_read?_eq_none hread] at hfind
      obtain ⟨⟨before, found⟩, hfound, heq⟩ := Option.map_eq_some_iff.mp hfind
      simp only [Prod.map_apply, id_eq, Prod.mk.injEq, List.cons.injEq, true_and] at heq
      obtain ⟨rfl, rfl⟩ := heq
      rw [List.append_assoc]
      exact ⟨rfl, hfound⟩
  exact ⟨fun more => (hcons more).1, fun more => (hcons more).2⟩

theorem find?_append (h : Precedes text token) (more : List Char) :
    OpenTag.find? (text ++ (token.write ++ more)) =
      (OpenTag.find? (token.write ++ more)).map (Prod.map (text ++ ·) id) := by
  induction text with
  | nil =>
    show _ = (OpenTag.find? (token.write ++ more)).map id
    rw [Option.map_id, List.nil_append, id_eq]
  | cons c cs ih =>
    obtain ⟨hread, htail⟩ := h.of_cons
    rw [List.cons_append, OpenTag.find?_cons_of_read?_eq_none (read?_eq_none_of_read? (hread more)),
      ih htail, Option.map_map]
    rfl

/-- The text before a token holds no opening tags. -/
theorem all_append (h : Precedes text token) (more : List Char) :
    OpenTag.all (text ++ (token.write ++ more)) = OpenTag.all (token.write ++ more) :=
  OpenTag.all_eq_of_find?_eq_map text (h.find?_append more)

/-- The text before a token has no opening tag. -/
theorem find?_eq_none (h : Precedes text token) : OpenTag.find? text = none := by
  induction text with
  | nil => rfl
  | cons c cs ih =>
    obtain ⟨hread, htail⟩ := h.of_cons
    have hnone : OpenTag.read? (c :: cs) = none := by
      rw [Option.eq_none_iff_forall_ne_some]
      rintro found hfound
      have hmore := OpenTag.read?_append_right hfound (token.write ++ [])
      rw [List.cons_append, read?_eq_none_of_read? (hread [])] at hmore
      simp at hmore
    rw [OpenTag.find?_cons_of_read?_eq_none hnone, ih htail, Option.map_none]

/-- No close begins in the text before a token. -/
theorem splitAround?_append {name : List Char} (hne : name ≠ [])
    (hname : ∀ c ∈ name, isNameChar c = true) (h : Precedes text token) (more : List Char) :
    Text.splitAround? (closeTag name) (text ++ (token.write ++ more)) =
      (Text.splitAround? (closeTag name) (token.write ++ more)).map
        (Prod.map (text ++ ·) id) := by
  have hbare : (⟨true, ⟨name, []⟩⟩ : Token).tag.WellFormed := ⟨hne, hname, by simp, by simp⟩
  induction text with
  | nil =>
    show _ = (Text.splitAround? (closeTag name) (token.write ++ more)).map id
    rw [Option.map_id, List.nil_append, id_eq]
  | cons c cs ih =>
    obtain ⟨hread, htail⟩ := h.of_cons
    have hprefix : ¬ closeTag name <+: c :: (cs ++ (token.write ++ more)) := by
      rintro ⟨rest, hrest⟩
      have hclose := read?_write_append hbare rest
      change read? (closeTag name ++ rest) = _ at hclose
      rw [hrest, hread more] at hclose
      simp at hclose
    rw [List.cons_append, Text.splitAround?_cons_of_not_begins hprefix, ih htail, Option.map_map]
    rfl

end Precedes

/-! ## All tokens -/

theorem split_of_find?_eq_none (h : find? text = none) : split text = ([], text) := by
  rw [split]
  split
  · rfl
  · rename_i hfound
    rw [h] at hfound
    simp at hfound

theorem split_of_find?_eq_some (h : find? text = some (before, token, after)) :
    split text = ((before, token) :: (split after).1, (split after).2) := by
  rw [split]
  split
  · rename_i hfound
    rw [h] at hfound
    simp at hfound
  · rename_i hfound
    rw [h] at hfound
    simp only [Option.some.injEq, Prod.mk.injEq] at hfound
    obtain ⟨rfl, rfl, rfl⟩ := hfound
    rfl

/-- Tokens with the text before each, put together. -/
def writePieces (pieces : List (List Char × Token)) : List Char :=
  pieces.flatMap fun piece => piece.1 ++ piece.2.write

@[simp] theorem writePieces_nil : writePieces [] = [] := rfl

@[simp] theorem writePieces_cons (piece : List Char × Token)
    (pieces : List (List Char × Token)) :
    writePieces (piece :: pieces) = piece.1 ++ (piece.2.write ++ writePieces pieces) := by
  rw [writePieces, List.flatMap_cons, List.append_assoc, writePieces]

@[simp] theorem writePieces_append (first second : List (List Char × Token)) :
    writePieces (first ++ second) = writePieces first ++ writePieces second :=
  List.flatMap_append

/-- What holds of the tokens of a text and of the text between them. -/
structure Splits (text : List Char) (pieces : List (List Char × Token)) (rest : List Char) :
    Prop where
  eq : text = writePieces pieces ++ rest
  wellFormed : ∀ piece ∈ pieces, piece.2.tag.WellFormed
  precedes : ∀ piece ∈ pieces, Precedes piece.1 piece.2

theorem splits_split (text : List Char) : Splits text (split text).1 (split text).2 := by
  induction hlen : text.length using Nat.strongRecOn generalizing text with
  | ind n ih =>
    cases hfind : find? text with
    | none =>
      rw [split_of_find?_eq_none hfind]
      exact ⟨rfl, by simp, by simp⟩
    | some found =>
      obtain ⟨before, token, after⟩ := found
      have hlt := length_lt_of_find? hfind
      obtain ⟨heq, hwf, hprecedes⟩ := ih after.length (by omega) after rfl
      rw [split_of_find?_eq_some hfind]
      refine ⟨?_, ?_, ?_⟩
      · rw [writePieces_cons, List.append_assoc, List.append_assoc, ← heq, ← List.append_assoc]
        exact eq_of_find? hfind
      · exact List.forall_mem_cons.mpr ⟨wellFormed_of_find? hfind, hwf⟩
      · exact List.forall_mem_cons.mpr ⟨precedes_of_find? hfind, hprecedes⟩

end Receipt.Markup.Token
