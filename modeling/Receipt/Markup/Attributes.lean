import Receipt.Props
import Receipt.Text.Blank
import Receipt.Text.Word

/-!
Attributes as they are written in a tag: `name="value"`, with blanks around the equals sign. Names
are made of word characters and dashes, values of those and spaces. What does not have this form is
passed over, whatever stands next to it.
-/

namespace Receipt.Markup

/-- The characters of an attribute's name. -/
def isAttrNameChar (c : Char) : Bool :=
  Text.isWord c || c == '-'

/-- The characters of an attribute's value. -/
def isAttrValueChar (c : Char) : Bool :=
  c == ' ' || isAttrNameChar c

/-- One attribute, with its value as it stands between the quotes. -/
structure Attr where
  name : List Char
  value : List Char
deriving DecidableEq

namespace Attr

/-- Reads an equals sign with the blanks around it. -/
def readEquals? (text : List Char) : Option (List Char) :=
  match Text.trimStart text with
  | '=' :: rest => some (Text.trimStart rest)
  | _ => none

/-- Reads a quoted value, which is not empty. -/
def readValue? : List Char → Option (List Char × List Char)
  | '"' :: rest =>
    let value := rest.takeWhile isAttrValueChar
    match rest.dropWhile isAttrValueChar with
    | '"' :: after => if value.isEmpty then none else some (value, after)
    | _ => none
  | _ => none

/-- Reads the attribute with which a text begins, and returns what follows it. -/
def read? (text : List Char) : Option (Attr × List Char) :=
  let name := text.takeWhile isAttrNameChar
  if name.isEmpty then none
  else
    match readEquals? (text.dropWhile isAttrNameChar) with
    | none => none
    | some quoted => (readValue? quoted).map fun (value, after) => (⟨name, value⟩, after)

theorem length_le_of_readEquals? {text rest : List Char} (h : readEquals? text = some rest) :
    rest.length ≤ text.length := by
  unfold readEquals? at h
  split at h
  · rename_i r hr
    simp only [Option.some.injEq] at h
    subst h
    have h₁ : (Text.trimStart text).length ≤ text.length :=
      (List.dropWhile_sublist Text.isBlank).length_le
    have h₂ : (Text.trimStart r).length ≤ r.length :=
      (List.dropWhile_sublist Text.isBlank).length_le
    rw [hr] at h₁
    simp only [List.length_cons] at h₁
    omega
  · simp at h

theorem length_lt_of_readValue? {text value after : List Char}
    (h : readValue? text = some (value, after)) : after.length < text.length := by
  unfold readValue? at h
  split at h
  · rename_i rest
    simp only at h
    split at h
    · rename_i r hr
      split at h
      · simp at h
      · simp only [Option.some.injEq, Prod.mk.injEq] at h
        obtain ⟨-, rfl⟩ := h
        have h₁ : (rest.dropWhile isAttrValueChar).length ≤ rest.length :=
          (List.dropWhile_sublist isAttrValueChar).length_le
        rw [hr] at h₁
        simp only [List.length_cons] at h₁ ⊢
        omega
    · simp at h
  · simp at h

/-- What follows an attribute is shorter than the text that begins with it. -/
theorem length_lt_of_read? {text after : List Char} {attr : Attr}
    (h : read? text = some (attr, after)) : after.length < text.length := by
  unfold read? at h
  simp only at h
  split at h
  · simp at h
  · split at h
    · simp at h
    · rename_i hq
      obtain ⟨⟨v, a⟩, hv, he⟩ := Option.map_eq_some_iff.mp h
      simp only [Prod.mk.injEq] at he
      obtain ⟨-, rfl⟩ := he
      have h₁ : (text.dropWhile isAttrNameChar).length ≤ text.length :=
        (List.dropWhile_sublist isAttrNameChar).length_le
      have h₂ := length_le_of_readEquals? hq
      have h₃ := length_lt_of_readValue? hv
      omega

/-- The attributes of a text, from left to right. Where the characters of a name begin no
attribute, no part of them does. -/
def all : List Char → List Attr
  | [] => []
  | c :: cs =>
    match _read : read? (c :: cs) with
    | some (attr, after) => attr :: all after
    | none => if isAttrNameChar c then all (cs.dropWhile isAttrNameChar) else all cs
termination_by text => text.length
decreasing_by
  · exact length_lt_of_read? _read
  · exact Nat.lt_succ_of_le (List.dropWhile_sublist isAttrNameChar).length_le
  · simp

/-- The name and the trimmed value. -/
def entry (attr : Attr) : String × String :=
  (String.ofList attr.name, String.ofList (Text.trim attr.value))

end Attr

/-- The props that a tag's attributes set, in order. -/
def readProps (attrs : List Char) : Props :=
  Props.ofPairs ((Attr.all attrs).map Attr.entry)

end Receipt.Markup
