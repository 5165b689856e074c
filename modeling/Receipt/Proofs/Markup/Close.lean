import Mathlib.Algebra.Order.Ring.Nat
import Receipt.Proofs.Markup.Balance
import Receipt.Proofs.Text.Cuts

/-!
# Which close the search finds

The search for the close of an element counts while it goes from close to close.  What it looks for
can be said without the counter.  A text is matched when it has as many closes of a name as opening
tags of that name, where it is cut at these closes and the tags are found piece by piece.  The
search ends at the first close with a matched text before it (`matched_of_splitAtClose?`,
`not_matched_of_length_lt`), and if there is such a close, it finds one
(`Matched.exists_splitAtClose?`, `not_matched_of_splitAtClose?_eq_none`).
-/

namespace Receipt.Markup

variable {name text inner after : List Char} {pending : Nat}

/-- A text has as many closes of `name` as elements of that name are opened: `pending` of them
before the text, and the others in its pieces between the closes. -/
def Matched (name : List Char) (pending : Nat) (text : List Char) : Prop :=
  ∃ pieces, Text.Cut (closeTag name) text pieces ∧
    pending + (pieces.map (countOpened name)).sum + 1 = pieces.length

/-- Where the search ends, the text before is matched. -/
theorem matched_of_splitAtClose? (h : splitAtClose? name pending text = some (inner, after)) :
    Matched name pending inner := by
  fun_induction splitAtClose? name pending text generalizing inner with
  | case1 => simp at h
  | case2 pending text piece rest hsplit hzero =>
    simp only [Option.some.injEq, Prod.mk.injEq] at h
    obtain ⟨rfl, rfl⟩ := h
    refine ⟨[piece], .last (Text.not_infix_of_splitAround? (closeTag_ne_nil name) hsplit), ?_⟩
    simp only [List.map_cons, List.map_nil, List.sum_cons, List.sum_nil, List.length_singleton]
    omega
  | case3 pending text piece rest hsplit stillOpen hopen ih =>
    obtain ⟨⟨inner', after'⟩, hinner, heq⟩ := Option.map_eq_some_iff.mp h
    simp only [Prod.mk.injEq] at heq
    obtain ⟨rfl, rfl⟩ := heq
    obtain ⟨pieces, hcut, hcount⟩ := ih hinner
    have hpiece := Text.not_infix_of_splitAround? (closeTag_ne_nil name) hsplit
    refine ⟨piece :: pieces, .more hpiece hcut, ?_⟩
    simp only [List.map_cons, List.sum_cons, List.length_cons]
    omega

/-- If a matched text is closed, the search ends there or earlier. -/
theorem Matched.exists_splitAtClose? (hname : '<' ∉ name) (h : Matched name pending text)
    (rest : List Char) :
    ∃ inner after,
      splitAtClose? name pending (text ++ closeTag name ++ rest) = some (inner, after) ∧
        inner.length ≤ text.length := by
  obtain ⟨pieces, hcut, hcount⟩ := h
  have hbody : '<' ∉ '/' :: (name ++ ['>']) := by simpa using hname
  induction hcut generalizing pending with
  | @last piece hpiece =>
    have hsplit : Text.splitAround? (closeTag name) (piece ++ closeTag name ++ rest) =
        some (piece, rest) := Text.splitAround?_of_not_infix hbody hpiece rest
    have hzero : pending + countOpened name piece = 0 := by
      simp only [List.map_cons, List.map_nil, List.sum_cons, List.sum_nil,
        List.length_singleton] at hcount
      omega
    refine ⟨piece, rest, ?_, Nat.le_refl _⟩
    rw [splitAtClose?_of_some hsplit, hzero]
  | @more piece text' pieces hpiece hrest ih =>
    have hsplit : Text.splitAround? (closeTag name)
        (piece ++ closeTag name ++ (text' ++ closeTag name ++ rest)) =
          some (piece, text' ++ closeTag name ++ rest) :=
      Text.splitAround?_of_not_infix hbody hpiece _
    have htext : piece ++ closeTag name ++ text' ++ closeTag name ++ rest =
        piece ++ closeTag name ++ (text' ++ closeTag name ++ rest) := by
      simp only [List.append_assoc]
    simp only [List.map_cons, List.sum_cons, List.length_cons] at hcount
    rw [htext, splitAtClose?_of_some hsplit]
    cases hopen : pending + countOpened name piece with
    | zero =>
      refine ⟨piece, _, rfl, ?_⟩
      simp only [List.length_append]
      omega
    | succ stillOpen =>
      obtain ⟨inner, after, hinner, hle⟩ := @ih stillOpen (by omega)
      refine ⟨piece ++ closeTag name ++ inner, after, ?_, ?_⟩
      · simp only [hinner]
        rfl
      · simp only [List.length_append]
        omega

/-- Where the search ends, no text before an earlier close is matched. -/
theorem not_matched_of_length_lt (hname : '<' ∉ name)
    (h : splitAtClose? name pending text = some (inner, after)) {inner' after' : List Char}
    (htext : text = inner' ++ closeTag name ++ after') (hlt : inner'.length < inner.length) :
    ¬ Matched name pending inner' := by
  intro hmatched
  obtain ⟨found, rest, hfound, hle⟩ := hmatched.exists_splitAtClose? hname after'
  rw [← htext, h] at hfound
  simp only [Option.some.injEq, Prod.mk.injEq] at hfound
  rw [← hfound.1] at hle
  omega

/-- If the search finds nothing, no text before a close is matched. -/
theorem not_matched_of_splitAtClose?_eq_none (hname : '<' ∉ name)
    (h : splitAtClose? name pending text = none)
    (htext : text = inner ++ closeTag name ++ after) : ¬ Matched name pending inner := by
  intro hmatched
  obtain ⟨found, rest, hfound, -⟩ := hmatched.exists_splitAtClose? hname after
  rw [← htext, h] at hfound
  simp at hfound

end Receipt.Markup
