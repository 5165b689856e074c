import Receipt.Markup.Attributes
import Receipt.Proofs.Markup.Tag
import Receipt.Proofs.Props
import Receipt.Proofs.Text.Blank

/-!
# Attributes that are written and read back

`Props.write` is the plain way to write props into a tag.  Props whose names and values are made of
the characters that attributes may have are `Props.Writable`, and `readProps_write` says that they
are read back as they were, in their order.
-/

namespace Receipt

/-- The props as they are written into a tag: a space before each, and the value in quotes. -/
def Props.write (props : Props) : List Char :=
  props.entries.flatMap fun entry =>
    ' ' :: (entry.1.toList ++ '=' :: '"' :: (entry.2.toList ++ ['"']))

/-- A name and a value that can be written as an attribute.  The value has no blank at its ends. -/
structure WritableEntry (entry : String × String) : Prop where
  name_ne_nil : entry.1.toList ≠ []
  name_chars : ∀ c ∈ entry.1.toList, Markup.isAttrNameChar c = true
  value_ne_nil : entry.2.toList ≠ []
  value_chars : ∀ c ∈ entry.2.toList, Markup.isAttrValueChar c = true
  trim_value : Text.trim entry.2.toList = entry.2.toList

/-- Props that can be written as attributes. -/
def Props.Writable (props : Props) : Prop :=
  ∀ entry ∈ props.entries, WritableEntry entry

namespace Markup

namespace Attr

variable {name first second value : List Char}

theorem isAttrNameChar_eq_false_of_isBlank {c : Char} (h : Text.isBlank c = true) :
    isAttrNameChar c = false := by
  have hdash : c ≠ '-' := by
    rintro rfl
    exact absurd h (by decide)
  rw [isAttrNameChar, Text.isWord_eq_false_of_isBlank h, beq_false_of_ne hdash]
  rfl

theorem readEquals?_append (hfirst : ∀ c ∈ first, Text.isBlank c = true)
    (hsecond : ∀ c ∈ second, Text.isBlank c = true) (rest : List Char) :
    readEquals? (first ++ '=' :: (second ++ '"' :: rest)) = some ('"' :: rest) := by
  have hequals := Text.takeWhile_append_of_all hfirst ('=' :: (second ++ '"' :: rest))
    (by simp; decide)
  have hquote := Text.takeWhile_append_of_all hsecond ('"' :: rest) (by simp; decide)
  rw [readEquals?, Text.trimStart, hequals.2]
  simp only [Text.trimStart, hquote.2]

theorem readValue?_append (hvalue : value ≠ [])
    (hvalues : ∀ c ∈ value, isAttrValueChar c = true) (rest : List Char) :
    readValue? ('"' :: (value ++ '"' :: rest)) = some (value, rest) := by
  have hquoted := Text.takeWhile_append_of_all hvalues ('"' :: rest) (by simp; decide)
  rw [readValue?]
  simp only [hquoted]
  rw [if_neg (by simpa using hvalue)]

/-- Where a name and an equals sign stand before a quote, an attribute is read if a value is. -/
theorem read?_append (hname : name ≠ []) (hnames : ∀ c ∈ name, isAttrNameChar c = true)
    (hfirst : ∀ c ∈ first, Text.isBlank c = true)
    (hsecond : ∀ c ∈ second, Text.isBlank c = true) (rest : List Char) :
    read? (name ++ (first ++ '=' :: (second ++ '"' :: rest))) =
      (readValue? ('"' :: rest)).map fun (value, after) => (⟨name, value⟩, after) := by
  have hhead : ∀ c ∈ (first ++ '=' :: (second ++ '"' :: rest)).head?, isAttrNameChar c = false := by
    cases first with
    | nil =>
      simp only [List.nil_append, List.head?_cons, Option.mem_some_iff, forall_eq']
      decide
    | cons d first =>
      simp only [List.cons_append, List.head?_cons, Option.mem_some_iff, forall_eq']
      exact isAttrNameChar_eq_false_of_isBlank (hfirst d List.mem_cons_self)
  have hsplit := Text.takeWhile_append_of_all hnames _ hhead
  rw [read?]
  simp only [hsplit]
  rw [if_neg (by simpa using hname), readEquals?_append hfirst hsecond]

theorem all_of_read?_eq_some {text after : List Char} {attr : Attr}
    (h : read? text = some (attr, after)) : all text = attr :: all after := by
  cases text with
  | nil => simp [read?] at h
  | cons c cs =>
    rw [all]
    split
    · rename_i hread
      rw [h] at hread
      simp only [Option.some.injEq, Prod.mk.injEq] at hread
      obtain ⟨rfl, rfl⟩ := hread
      rfl
    · rename_i hread
      rw [h] at hread
      simp at hread

theorem all_of_read?_eq_none {c : Char} {cs : List Char} (h : read? (c :: cs) = none) :
    all (c :: cs) = if isAttrNameChar c then all (cs.dropWhile isAttrNameChar) else all cs := by
  rw [all]
  split
  · rename_i hread
    rw [h] at hread
    simp at hread
  · rfl

theorem read?_cons_eq_none_of_not_name {c : Char} (h : isAttrNameChar c = false)
    (cs : List Char) : read? (c :: cs) = none := by
  rw [read?, List.takeWhile_cons_of_neg (by simp [h])]
  rfl

theorem all_cons_of_not_name {c : Char} (h : isAttrNameChar c = false) (cs : List Char) :
    all (c :: cs) = all cs := by
  rw [all_of_read?_eq_none (read?_cons_eq_none_of_not_name h cs), h]
  rfl

/-- If a name with what follows it is no attribute, the name without its first character is none
either. -/
theorem read?_eq_none_of_cons {c d : Char} {cs : List Char} (hc : isAttrNameChar c = true)
    (h : read? (c :: d :: cs) = none) : read? (d :: cs) = none := by
  rw [read?, List.takeWhile_cons_of_pos hc, List.dropWhile_cons_of_pos hc] at h
  simp only [List.isEmpty_cons, Bool.false_eq_true, if_false] at h
  rw [read?]
  cases hempty : ((d :: cs).takeWhile isAttrNameChar).isEmpty with
  | true => rfl
  | false =>
    simp only [Bool.false_eq_true, if_false]
    cases hequals : readEquals? ((d :: cs).dropWhile isAttrNameChar) with
    | none => rfl
    | some quoted =>
      rw [hequals] at h
      simp only [Option.map_eq_none_iff] at h ⊢
      exact h

/-- Where no attribute begins, the attributes are those of the text from the next character on. -/
theorem all_cons_of_read?_eq_none {c : Char} {cs : List Char} (h : read? (c :: cs) = none) :
    all (c :: cs) = all cs := by
  rw [all_of_read?_eq_none h]
  split
  · rename_i hc
    cases cs with
    | nil => rfl
    | cons d cs =>
      by_cases hd : isAttrNameChar d = true
      · have hnone := read?_eq_none_of_cons hc h
        rw [List.dropWhile_cons_of_pos hd, all_of_read?_eq_none hnone, if_pos hd]
      · rw [List.dropWhile_cons_of_neg hd]
  · rfl

end Attr

theorem attrs_write {entries : List (String × String)}
    (h : ∀ entry ∈ entries, WritableEntry entry) :
    (Attr.all (entries.flatMap fun entry =>
      ' ' :: (entry.1.toList ++ '=' :: '"' :: (entry.2.toList ++ ['"'])))).map Attr.entry =
      entries := by
  induction entries with
  | nil => simp [Attr.all]
  | cons entry rest ih =>
    have hentry := h entry (by simp)
    have hrest := ih fun e he => h e (by simp [he])
    have hread (after : List Char) :
        Attr.read? (entry.1.toList ++ '=' :: '"' :: (entry.2.toList ++ '"' :: after)) =
          some (⟨entry.1.toList, entry.2.toList⟩, after) := by
      have hvalue := Attr.readValue?_append hentry.value_ne_nil hentry.value_chars after
      have happend := @Attr.read?_append _ [] [] hentry.name_ne_nil hentry.name_chars
        (List.forall_mem_nil _) (List.forall_mem_nil _) (entry.2.toList ++ '"' :: after)
      rwa [hvalue] at happend
    rw [List.flatMap_cons, List.cons_append, List.append_assoc, List.cons_append, List.cons_append,
      List.append_assoc, List.singleton_append,
      Attr.all_cons_of_not_name (by decide),
      Attr.all_of_read?_eq_some (hread _), List.map_cons, hrest]
    simp [Attr.entry, hentry.trim_value]

/-- Props that are written as attributes are read back. -/
theorem readProps_write {props : Props} (h : props.Writable) : readProps props.write = props := by
  rw [readProps, Props.write, attrs_write h, Props.ofPairs_entries]

theorem not_mem_write {c : Char} {props : Props} (h : props.Writable) (hspace : c ≠ ' ')
    (hequals : c ≠ '=') (hquote : c ≠ '"') (hc : isAttrNameChar c = false) : c ∉ props.write := by
  have hvalue : isAttrValueChar c = false := by simp [isAttrValueChar, hspace, hc]
  intro hmem
  obtain ⟨entry, hentry, hin⟩ := List.mem_flatMap.mp hmem
  simp only [List.mem_cons, List.mem_append, hspace, hequals, hquote, List.not_mem_nil, false_or,
    or_false] at hin
  rcases hin with hin | hin
  · have := (h entry hentry).name_chars c hin
    rw [hc] at this
    simp at this
  · have := (h entry hentry).value_chars c hin
    rw [hvalue] at this
    simp at this

theorem lt_not_mem_write {props : Props} (h : props.Writable) : '<' ∉ props.write :=
  not_mem_write h (by decide) (by decide) (by decide) (by decide)

theorem gt_not_mem_write {props : Props} (h : props.Writable) : '>' ∉ props.write :=
  not_mem_write h (by decide) (by decide) (by decide) (by decide)

theorem head_write (props : Props) : ∀ c ∈ props.write.head?, isNameChar c = false := by
  intro c hc
  have hspace : c = ' ' := by
    cases hentries : props.entries with
    | nil => simp [Props.write, hentries] at hc
    | cons entry rest => simpa [Props.write, hentries] using hc.symm
  rw [hspace]
  decide

end Markup

end Receipt
