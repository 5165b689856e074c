import Receipt.Text.Search

/-!
# Searching a text that is put together from parts

What a search finds in a text of two parts.  A part in which the pattern cannot begin is passed
over, whatever follows (`splitAround?_append_left`).  A part without the pattern's last character
changes nothing when it stands last (`splitAround?_append_of_not_mem`).  A run of characters ends
where the first other one stands (`takeWhile_append_of_all`).
-/

namespace Receipt.Text

variable {pattern text more before after : List Char}

theorem takeWhile_eq_nil_of_head {p : Char → Bool} {rest : List Char}
    (hrest : ∀ c ∈ rest.head?, p c = false) : rest.takeWhile p = [] ∧ rest.dropWhile p = rest := by
  cases rest with
  | nil => exact ⟨rfl, rfl⟩
  | cons c rest =>
    have hc : p c = false := hrest c (by simp)
    simp [hc]

theorem takeWhile_append_of_all {p : Char → Bool} {front : List Char}
    (hfront : ∀ c ∈ front, p c = true) (rest : List Char) (hrest : ∀ c ∈ rest.head?, p c = false) :
    (front ++ rest).takeWhile p = front ∧ (front ++ rest).dropWhile p = rest := by
  have hstop := takeWhile_eq_nil_of_head hrest
  rw [List.takeWhile_append_of_pos hfront, List.dropWhile_append_of_pos hfront, hstop.1, hstop.2]
  exact ⟨List.append_nil front, rfl⟩

/-- A text in which no run can go on ends every run that reaches it. -/
theorem takeWhile_append_of_head {p : Char → Bool} (front : List Char) {rest : List Char}
    (hrest : ∀ c ∈ rest.head?, p c = false) :
    (front ++ rest).takeWhile p = front.takeWhile p ∧
      (front ++ rest).dropWhile p = front.dropWhile p ++ rest := by
  induction front with
  | nil => exact takeWhile_eq_nil_of_head hrest
  | cons c front ih =>
    rw [List.cons_append, List.takeWhile_cons, List.takeWhile_cons, List.dropWhile_cons,
      List.dropWhile_cons, ih.1, ih.2]
    split <;> exact ⟨rfl, rfl⟩

theorem map_append_map_append {α β : Type} (first second : List α) (found : Option (List α × β)) :
    (found.map (Prod.map (second ++ ·) id)).map (Prod.map (first ++ ·) id) =
      found.map (Prod.map (first ++ second ++ ·) id) := by
  cases found with
  | none => rfl
  | some parts => simp [Prod.map]

theorem splitAround?_cons_of_not_begins {c : Char} {cs : List Char} (h : ¬ pattern <+: c :: cs) :
    splitAround? pattern (c :: cs) = (splitAround? pattern cs).map (Prod.map (c :: ·) id) := by
  rw [splitAround?, if_neg (by simpa using h)]
  rfl

theorem splitAround?_append_self (hne : pattern ≠ []) (text : List Char) :
    splitAround? pattern (pattern ++ text) = some ([], text) := by
  obtain ⟨c, cs, rfl⟩ := List.exists_cons_of_ne_nil hne
  rw [List.cons_append, splitAround?, if_pos (by simp)]
  simp

/-- A part in which the pattern cannot begin is passed over. -/
theorem splitAround?_append_left {c : Char} {gap : List Char} (h : c ∉ gap) (text : List Char) :
    splitAround? (c :: pattern) (gap ++ text) =
      (splitAround? (c :: pattern) text).map (Prod.map (gap ++ ·) id) := by
  induction gap with
  | nil =>
    show _ = (splitAround? (c :: pattern) text).map id
    rw [Option.map_id, List.nil_append, id_eq]
  | cons d gap ih =>
    have hd : c ≠ d := fun e => h (by simp [e])
    have hgap : c ∉ gap := fun hmem => h (by simp [hmem])
    rw [List.cons_append, splitAround?_cons_of_not_begins (by simp [hd]), ih hgap, Option.map_map]
    rfl

/-- What was found is found again when the text goes on. -/
theorem splitAround?_append_right (h : splitAround? pattern text = some (before, after))
    (more : List Char) : splitAround? pattern (text ++ more) = some (before, after ++ more) := by
  induction text generalizing before with
  | nil => simp [splitAround?] at h
  | cons c cs ih =>
    by_cases hp : pattern <+: c :: cs
    · have hmore : pattern <+: c :: (cs ++ more) := hp.trans (List.prefix_append (c :: cs) more)
      rw [splitAround?, if_pos (by simpa using hp)] at h
      simp only [Option.some.injEq, Prod.mk.injEq] at h
      obtain ⟨rfl, rfl⟩ := h
      rw [List.cons_append, splitAround?, if_pos (by simpa using hmore), ← List.cons_append,
        List.drop_append_of_le_length hp.length_le]
    · rw [splitAround?_cons_of_not_begins hp] at h
      obtain ⟨⟨b, a⟩, hb, he⟩ := Option.map_eq_some_iff.mp h
      simp only [Prod.map_apply, id_eq, Prod.mk.injEq] at he
      obtain ⟨rfl, rfl⟩ := he
      -- the pattern stands in `cs`, so it is too short to reach into `more` from `c`
      have hlen : pattern.length ≤ cs.length := by
        rw [eq_of_splitAround? hb]
        simp only [List.length_append]
        omega
      have hp' : ¬ pattern <+: c :: (cs ++ more) := by
        intro hmore
        apply hp
        apply List.prefix_of_prefix_length_le hmore (List.prefix_append (c :: cs) more)
        simp only [List.length_cons]
        omega
      rw [List.cons_append, splitAround?_cons_of_not_begins hp', ih hb]
      rfl

/-- What is found depends on the text up to the end of the pattern only. -/
theorem splitAround?_replace_after (hne : pattern ≠ [])
    (h : splitAround? pattern text = some (before, after)) (more : List Char) :
    splitAround? pattern (before ++ pattern ++ more) = some (before, more) := by
  induction text generalizing before with
  | nil => simp [splitAround?] at h
  | cons c cs ih =>
    by_cases hp : pattern <+: c :: cs
    · rw [splitAround?, if_pos (by simpa using hp)] at h
      simp only [Option.some.injEq, Prod.mk.injEq] at h
      rw [← h.1, List.nil_append, splitAround?_append_self hne]
    · rw [splitAround?_cons_of_not_begins hp] at h
      obtain ⟨⟨b, a⟩, hb, he⟩ := Option.map_eq_some_iff.mp h
      simp only [Prod.map_apply, id_eq, Prod.mk.injEq] at he
      obtain ⟨rfl, rfl⟩ := he
      have hp' : ¬ pattern <+: c :: (b ++ pattern ++ more) := by
        intro hmore
        apply hp
        have hshort : pattern <+: c :: (b ++ pattern) := by
          apply List.prefix_of_prefix_length_le hmore ⟨more, rfl⟩
          simp only [List.length_cons, List.length_append]
          omega
        rw [eq_of_splitAround? hb]
        exact hshort.trans ⟨a, rfl⟩
      rw [List.cons_append, List.cons_append, splitAround?_cons_of_not_begins hp', ih hb]
      rfl

/-- Where `text ++ more` is also `body ++ [last] ++ after`, and `last` is not in `more`, the end of
`body ++ [last]` lies within `text`. -/
theorem exists_of_append_eq {body : List Char} {last : Char} (hmore : last ∉ more)
    (h : text ++ more = body ++ [last] ++ after) :
    ∃ rest, text = body ++ [last] ++ rest ∧ after = rest ++ more := by
  rcases List.append_eq_append_iff.mp h with ⟨excess, hbody, hexcess⟩ | ⟨rest, htext, hafter⟩
  · rcases List.eq_nil_or_concat excess with rfl | ⟨excess', c, rfl⟩
    · exact ⟨[], by simpa using hbody.symm, by simpa using hexcess.symm⟩
    · have hc : last = c := by
        have := congrArg List.getLast? hbody
        simpa [← List.append_assoc] using this
      subst hc
      exact absurd (by simp [hexcess]) hmore
  · exact ⟨rest, htext, hafter⟩

/-- A text is taken apart in one way at a certain occurrence of a character. -/
theorem append_inj_of_count_eq {first second first' second' : List Char} {last : Char}
    (h : first ++ [last] ++ second = first' ++ [last] ++ second')
    (hcount : first.count last = first'.count last) : first = first' ∧ second = second' := by
  -- what one part is longer than the other would end with one more of the character
  have hexcess : ∀ {short long excess : List Char}, long ++ [last] = short ++ [last] ++ excess →
      short.count last = long.count last → excess = [] := by
    intro short long excess hlong hsame
    rcases List.eq_nil_or_concat excess with rfl | ⟨excess', c, rfl⟩
    · rfl
    · have htotal := congrArg (List.count last) hlong
      have hc : last = c := by
        have := congrArg List.getLast? hlong
        simpa [← List.append_assoc] using this
      simp only [List.count_append, List.concat_eq_append, hc, List.count_singleton_self] at htotal
      rw [hc] at hsame
      omega
  rcases List.append_eq_append_iff.mp h with ⟨excess, hlong, hrest⟩ | ⟨excess, hlong, hrest⟩
  · obtain rfl := hexcess hlong hcount
    exact ⟨(List.append_cancel_right (hlong.trans (List.append_nil _))).symm, hrest⟩
  · obtain rfl := hexcess hlong hcount.symm
    exact ⟨List.append_cancel_right (hlong.trans (List.append_nil _)), hrest.symm⟩

/-- A part without the pattern's last character changes nothing when it stands last. -/
theorem splitAround?_append_of_not_mem {last : Char} (body : List Char) (h : last ∉ more)
    (text : List Char) :
    splitAround? (body ++ [last]) (text ++ more) =
      (splitAround? (body ++ [last]) text).map (Prod.map id (· ++ more)) := by
  induction text with
  | nil =>
    rcases hs : splitAround? (body ++ [last]) more with _ | ⟨b, a⟩
    · simp [splitAround?, hs]
    · exact absurd (by simp [eq_of_splitAround? hs]) h
  | cons c cs ih =>
    by_cases hp : body ++ [last] <+: c :: cs
    · obtain ⟨rest, hrest⟩ := hp
      rw [← hrest, List.append_assoc, splitAround?_append_self (by simp),
        splitAround?_append_self (by simp)]
      rfl
    · have hp' : ¬ body ++ [last] <+: c :: (cs ++ more) := by
        rintro ⟨rest, hrest⟩
        have hsplit : c :: cs ++ more = body ++ [last] ++ rest := hrest.symm
        obtain ⟨rest', hcs, -⟩ := exists_of_append_eq h hsplit
        exact hp ⟨rest', hcs.symm⟩
      rw [List.cons_append, splitAround?_cons_of_not_begins hp',
        splitAround?_cons_of_not_begins hp, ih, Option.map_map, Option.map_map]
      rfl

end Receipt.Text
