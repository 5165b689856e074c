import Mathlib.Data.List.Forall2
import Receipt.Proofs.Json.Scalars

/-!
# Values read back

What is written for a value, on one line or over several, is read as that value.  The two ways of
writing differ in the spaces between symbols only: each is `spell` with a `Spacing` of its own
(`write_eq_spell`, `writeIndented_eq_spell`), and a value is read back from every spelling of it,
whatever text follows (`reads_spell`).  Numbers with a fraction or an exponent are left out, since
their literals need not be numbers.

* `read?_compact` and `read?_pretty` say what is read, exactly: the value where no more arrays and
  objects are nested in it than the reader goes into, and nothing where there are more.
* `depth_le_of_read?` says that no value is read that is nested deeper.
-/

namespace Receipt.Json

/-! ## Nesting -/

mutual

/-- How many arrays and objects are nested in a value, at most. -/
def depth : Json → Nat
  | array items => depthOfAll items + 1
  | object members => depthOfMembers members + 1
  | _ => 0

/-- How many arrays and objects are nested in the items of an array. -/
def depthOfAll : List Json → Nat
  | [] => 0
  | item :: items => max (depth item) (depthOfAll items)

/-- How many arrays and objects are nested in the members of an object. -/
def depthOfMembers : List (String × Json) → Nat
  | [] => 0
  | (_, json) :: members => max (depth json) (depthOfMembers members)

end

theorem depthOfAll_le_iff {bound : Nat} {items : List Json} :
    depthOfAll items ≤ bound ↔ ∀ item ∈ items, item.depth ≤ bound := by
  induction items with
  | nil => simp [depthOfAll]
  | cons item items ih => rw [depthOfAll, Nat.max_le, ih, List.forall_mem_cons]

theorem depthOfMembers_le_iff {bound : Nat} {members : List (String × Json)} :
    depthOfMembers members ≤ bound ↔ ∀ pair ∈ members, pair.2.depth ≤ bound := by
  induction members with
  | nil => simp [depthOfMembers]
  | cons pair members ih => rw [depthOfMembers, Nat.max_le, ih, List.forall_mem_cons]

mutual

/-- All numbers in the value are whole. -/
def IsWhole : Json → Prop
  | decimal _ => False
  | array items => AreWhole items
  | object members => MembersAreWhole members
  | _ => True

/-- All numbers in the items of an array are whole. -/
def AreWhole : List Json → Prop
  | [] => True
  | item :: items => IsWhole item ∧ AreWhole items

/-- All numbers in the members of an object are whole. -/
def MembersAreWhole : List (String × Json) → Prop
  | [] => True
  | (_, json) :: members => IsWhole json ∧ MembersAreWhole members

end

/-! ## Spellings -/

/-- The spaces between the symbols of a text. -/
structure Spacing where
  /-- What stands before an item of the given level, and before the end of what holds it. -/
  gap : Nat → List Char
  /-- What stands after the colon of a member. -/
  colon : List Char
  isSpace_of_mem_gap : ∀ level, ∀ c ∈ gap level, isSpace c = true
  isSpace_of_mem_colon : ∀ c ∈ colon, isSpace c = true

namespace Spacing

/-- No spaces. -/
def none : Spacing where
  gap _ := []
  colon := []
  isSpace_of_mem_gap := by simp
  isSpace_of_mem_colon := by simp

/-- Each item on a line of its own. -/
def lines : Spacing where
  gap := newLine
  colon := [' ']
  isSpace_of_mem_gap level c hc := by
    rcases List.mem_cons.mp hc with rfl | hc
    · rfl
    · rw [List.eq_of_mem_replicate hc]
      rfl
  isSpace_of_mem_colon c hc := by
    rw [List.mem_singleton.mp hc]
    rfl

variable (spacing : Spacing) (level : Nat) (closing : Char)

/-- The items after the first one, and the symbol that ends them. -/
def more : List (List Char) → List Char
  | [] => spacing.gap level ++ [closing]
  | part :: parts => ',' :: (spacing.gap (level + 1) ++ part ++ more parts)

/-- The items, and the symbol that ends them. -/
def body : List (List Char) → List Char
  | [] => [closing]
  | part :: parts => spacing.gap (level + 1) ++ part ++ spacing.more level closing parts

end Spacing

mutual

/-- A value with the given spaces, at the given level. -/
def spell (spacing : Spacing) (level : Nat) : Json → List Char
  | array items => '[' :: spacing.body level ']' (spellAll spacing (level + 1) items)
  | object members => '{' :: spacing.body level '}' (spellMembers spacing (level + 1) members)
  | json => write json

/-- The items of an array, each spelled. -/
def spellAll (spacing : Spacing) (level : Nat) : List Json → List (List Char)
  | [] => []
  | item :: items => spell spacing level item :: spellAll spacing level items

/-- The members of an object, each spelled. -/
def spellMembers (spacing : Spacing) (level : Nat) : List (String × Json) → List (List Char)
  | [] => []
  | (name, json) :: members =>
    (writeString name ++ ':' :: (spacing.colon ++ spell spacing level json)) ::
      spellMembers spacing level members

end

mutual

/-- On one line a value is spelled without spaces. -/
theorem write_eq_spell (level : Nat) : ∀ json : Json, json.write = spell .none level json
  | null | bool _ | integer _ | decimal _ | string _ => rfl
  | array [] => rfl
  | array (item :: items) => by
    simp [write, spell, spellAll, Spacing.body, write_eq_spell (level + 1) item,
      writeItems_eq_more level items, Spacing.none]
  | object [] => rfl
  | object ((name, json) :: members) => by
    simp [write, spell, spellMembers, Spacing.body, write_eq_spell (level + 1) json,
      writeMembers_eq_more level members, Spacing.none]

theorem writeItems_eq_more (level : Nat) : ∀ items : List Json,
    writeItems items = Spacing.more .none level ']' (spellAll .none (level + 1) items)
  | [] => rfl
  | item :: items => by
    simp [writeItems, spellAll, Spacing.more, write_eq_spell (level + 1) item,
      writeItems_eq_more level items, Spacing.none]

theorem writeMembers_eq_more (level : Nat) : ∀ members : List (String × Json),
    writeMembers members = Spacing.more .none level '}' (spellMembers .none (level + 1) members)
  | [] => rfl
  | (name, json) :: members => by
    simp [writeMembers, spellMembers, Spacing.more, write_eq_spell (level + 1) json,
      writeMembers_eq_more level members, Spacing.none]

end

mutual

/-- Over several lines a value is spelled with line breaks and indents. -/
theorem writeIndented_eq_spell (level : Nat) : ∀ json : Json,
    json.writeIndented level = spell .lines level json
  | null | bool _ | integer _ | decimal _ | string _ => rfl
  | array [] => rfl
  | array (item :: items) => by
    simp [writeIndented, spell, spellAll, Spacing.body, writeIndented_eq_spell (level + 1) item,
      writeItemsIndented_eq_more level items, Spacing.lines]
  | object [] => rfl
  | object ((name, json) :: members) => by
    simp [writeIndented, spell, spellMembers, Spacing.body,
      writeIndented_eq_spell (level + 1) json, writeMembersIndented_eq_more level members,
      Spacing.lines]

theorem writeItemsIndented_eq_more (level : Nat) : ∀ items : List Json,
    writeItemsIndented level items =
      Spacing.more .lines level ']' (spellAll .lines (level + 1) items)
  | [] => rfl
  | item :: items => by
    simp [writeItemsIndented, spellAll, Spacing.more, writeIndented_eq_spell (level + 1) item,
      writeItemsIndented_eq_more level items, Spacing.lines]

theorem writeMembersIndented_eq_more (level : Nat) : ∀ members : List (String × Json),
    writeMembersIndented level members =
      Spacing.more .lines level '}' (spellMembers .lines (level + 1) members)
  | [] => rfl
  | (name, json) :: members => by
    simp [writeMembersIndented, spellMembers, Spacing.more,
      writeIndented_eq_spell (level + 1) json, writeMembersIndented_eq_more level members,
      Spacing.lines]

end

/-! ## Reading a spelling -/

section Reading

variable {α : Type} {item : Reader α} {fits : α → Bool}

theorem skipSpaces_append {spaces : List Char} (h : ∀ c ∈ spaces, isSpace c = true)
    (cs : List Char) : skipSpaces (spaces ++ cs) = skipSpaces cs := by
  rw [skipSpaces, skipSpaces, List.dropWhile_append_of_pos h]

theorem skipSpaces_cons {c : Char} (h : isSpace c = false) (cs : List Char) :
    skipSpaces (c :: cs) = c :: cs := by
  simp [skipSpaces, h]

/-- The reader takes a part for a value if the value fits, and fails if it does not, whatever
follows the part other than more of a number. -/
structure Reads (item : Reader α) (fits : α → Bool) (part : List Char) (value : α) : Prop where
  /-- The part begins with neither a space nor a symbol that ends an array or an object. -/
  begins : ∃ c cs, part = c :: cs ∧ isSpace c = false ∧ c ≠ ']' ∧ c ≠ '}'
  reads : ∀ rest, EndsNumber rest →
    item (part ++ rest) = if fits value then some (value, rest) else none

theorem Reads.skipSpaces_part {part : List Char} {value : α} (h : Reads item fits part value)
    (rest : List Char) : skipSpaces (part ++ rest) = part ++ rest := by
  obtain ⟨c, cs, rfl, hc, -⟩ := h.begins
  exact skipSpaces_cons hc (cs ++ rest)

theorem endsNumber_more (spacing : Spacing) (level : Nat) {closing : Char}
    (hclosing : closing = ']' ∨ closing = '}') (parts : List (List Char)) (rest : List Char) :
    EndsNumber (spacing.more level closing parts ++ rest) := by
  intro c hc
  cases parts with
  | cons part parts =>
    obtain rfl : ',' = c := by simpa [Spacing.more] using hc
    decide
  | nil =>
    rcases hgap : spacing.gap level with _ | ⟨space, spaces⟩
    · obtain rfl : closing = c := by simpa [Spacing.more, hgap] using hc
      rcases hclosing with rfl | rfl <;> decide
    · obtain rfl : space = c := by simpa [Spacing.more, hgap] using hc
      have hspace := spacing.isSpace_of_mem_gap level space (by simp [hgap])
      simp only [isSpace, Bool.or_eq_true, beq_iff_eq, or_assoc] at hspace
      rcases hspace with rfl | rfl | rfl | rfl <;> decide

/-- Items after the first one are read to the symbol that ends them, if all of them fit. -/
theorem readMore?_more (spacing : Spacing) (level : Nat) {closing : Char}
    (hclosing : closing = ']' ∨ closing = '}') {parts : List (List Char)} {values : List α}
    (h : List.Forall₂ (Reads item fits) parts values) (rest : List Char) :
    readMore? item closing (spacing.more level closing parts ++ rest) =
      if values.all fits then some (values, rest) else none := by
  induction h with
  | nil =>
    have hend : skipSpaces (spacing.more level closing [] ++ rest) = closing :: rest := by
      rw [Spacing.more, List.append_assoc,
        skipSpaces_append (spacing.isSpace_of_mem_gap level), List.singleton_append,
        skipSpaces_cons (by rcases hclosing with rfl | rfl <;> rfl)]
    rw [readMore?, hend]
    rcases hclosing with rfl | rfl <;> simp
  | @cons part value parts values hpart _ ih =>
    have hcomma : skipSpaces (spacing.more level closing (part :: parts) ++ rest) =
        ',' :: (spacing.gap (level + 1) ++
          (part ++ (spacing.more level closing parts ++ rest))) := by
      rw [Spacing.more, List.cons_append, skipSpaces_cons rfl, List.append_assoc,
        List.append_assoc]
    have hitem := hpart.reads _ (endsNumber_more spacing level hclosing parts rest)
    rw [readMore?, hcomma]
    simp only [skipSpaces_append (spacing.isSpace_of_mem_gap (level + 1)), hpart.skipSpaces_part,
      hitem, List.all_cons]
    by_cases hfits : fits value
    · -- the reader goes on only where an item has made the text shorter
      have hshorter : (spacing.more level closing parts ++ rest).length <
          (spacing.more level closing (part :: parts) ++ rest).length := by
        simp only [Spacing.more, List.length_append, List.length_cons]
        omega
      simp only [hfits, if_true, if_pos hshorter, ih, Bool.true_and]
      split <;> rfl
    · simp [hfits]

/-- Items are read to the symbol that ends them, if all of them fit. -/
theorem readItems?_body (spacing : Spacing) (level : Nat) {closing : Char}
    (hclosing : closing = ']' ∨ closing = '}') {parts : List (List Char)} {values : List α}
    (h : List.Forall₂ (Reads item fits) parts values) (rest : List Char) :
    readItems? item closing (spacing.body level closing parts ++ rest) =
      if values.all fits then some (values, rest) else none := by
  cases h with
  | nil =>
    have hend : isSpace closing = false := by rcases hclosing with rfl | rfl <;> rfl
    simp [readItems?, Spacing.body, skipSpaces_cons hend]
  | @cons part value parts values hpart hparts =>
    have hitem := hpart.reads _ (endsNumber_more spacing level hclosing parts rest)
    have hmore := readMore?_more spacing level hclosing hparts rest
    have hstart := hpart.skipSpaces_part (spacing.more level closing parts ++ rest)
    obtain ⟨c, cs, rfl, hc, hbracket, hbrace⟩ := hpart.begins
    have hne : c ≠ closing := by rcases hclosing with rfl | rfl <;> assumption
    rw [readItems?, Spacing.body, List.append_assoc, List.append_assoc,
      skipSpaces_append (spacing.isSpace_of_mem_gap (level + 1)), hstart]
    simp only [List.cons_append] at hitem ⊢
    simp only [if_neg hne, hitem, List.all_cons]
    by_cases hfits : fits value
    · simp only [hfits, if_true, hmore, Bool.true_and]
      split <;> rfl
    · simp [hfits]

end Reading

/-- A member is read if its value fits. -/
theorem Reads.member {value : Reader Json} {fits : Json → Bool} (spacing : Spacing)
    {part : List Char} {json : Json} (h : Reads value fits part json) (name : String) :
    Reads (readMember? value) (fun pair => fits pair.2)
      (writeString name ++ ':' :: (spacing.colon ++ part)) (name, json) where
  begins := ⟨'"', _, writeString_append name _, rfl, by decide, by decide⟩
  reads rest hrest := by
    have hcolon : ∀ cs, skipSpaces (':' :: cs) = ':' :: cs := skipSpaces_cons rfl
    rw [List.append_assoc, readMember?, readString?_writeString]
    simp only [List.cons_append, hcolon, List.append_assoc,
      skipSpaces_append spacing.isSpace_of_mem_colon, h.skipSpaces_part, h.reads rest hrest]
    split <;> rfl

/-- Whether the value is nested no deeper than the bound. -/
def nestsWithin (bound : Nat) (json : Json) : Bool :=
  json.depth ≤ bound

theorem nestsWithin_array (bound : Nat) (items : List Json) :
    nestsWithin (bound + 1) (array items) = items.all (nestsWithin bound) := by
  rw [Bool.eq_iff_iff, List.all_eq_true]
  simp only [nestsWithin, decide_eq_true_eq, depth, Nat.add_le_add_iff_right, depthOfAll_le_iff]

theorem nestsWithin_object (bound : Nat) (members : List (String × Json)) :
    nestsWithin (bound + 1) (object members) =
      members.all fun pair => nestsWithin bound pair.2 := by
  rw [Bool.eq_iff_iff, List.all_eq_true]
  simp only [nestsWithin, decide_eq_true_eq, depth, Nat.add_le_add_iff_right,
    depthOfMembers_le_iff]

/-- Only an array or an object is read with regard to the bound. -/
theorem readValue?_scalar (bound : Nat) {c : Char} (hbracket : c ≠ '[') (hbrace : c ≠ '{')
    (cs : List Char) :
    readValue? bound (c :: cs) =
      if c = '"' then
        (readChars? cs).map fun (chars, rest) => (string (String.ofList chars), rest)
      else if c = 'n' then readWord? ['u', 'l', 'l'] null cs
      else if c = 't' then readWord? ['r', 'u', 'e'] (bool true) cs
      else if c = 'f' then readWord? ['a', 'l', 's', 'e'] (bool false) cs
      else readNumber? (c :: cs) := by
  cases bound <;> rw [readValue?, if_neg hbracket, if_neg hbrace]

theorem reads_null (bound : Nat) :
    Reads (readValue? bound) (nestsWithin bound) ['n', 'u', 'l', 'l'] null where
  begins := ⟨'n', _, rfl, by decide⟩
  reads rest _ := readValue?_scalar bound (by decide) (by decide) ('u' :: 'l' :: 'l' :: rest)

theorem reads_true (bound : Nat) :
    Reads (readValue? bound) (nestsWithin bound) ['t', 'r', 'u', 'e'] (bool true) where
  begins := ⟨'t', _, rfl, by decide⟩
  reads rest _ := readValue?_scalar bound (by decide) (by decide) ('r' :: 'u' :: 'e' :: rest)

theorem reads_false (bound : Nat) :
    Reads (readValue? bound) (nestsWithin bound) ['f', 'a', 'l', 's', 'e'] (bool false) where
  begins := ⟨'f', _, rfl, by decide⟩
  reads rest _ :=
    readValue?_scalar bound (by decide) (by decide) ('a' :: 'l' :: 's' :: 'e' :: rest)

theorem reads_string (bound : Nat) (value : String) :
    Reads (readValue? bound) (nestsWithin bound) (writeString value) (string value) where
  begins := ⟨'"', _, rfl, by decide⟩
  reads rest _ := by
    rw [writeString_append, readValue?_scalar bound (by decide) (by decide), if_pos rfl,
      readChars?_flatMap_escapeChar]
    simp [nestsWithin, depth]

/-- A number begins with a character that no other value begins with. -/
theorem reads_integer (bound : Nat) (n : Int) :
    Reads (readValue? bound) (nestsWithin bound) (writeInteger n) (integer n) := by
  obtain ⟨c, cs, hwrite, hc⟩ := exists_writeInteger n
  have hother : ∀ d : Char, ¬ (d.isDigit = true ∨ d = '-') → c ≠ d := fun d hd e => hd (e ▸ hc)
  refine ⟨⟨c, cs, hwrite, ?_, hother _ (by decide), hother _ (by decide)⟩, fun rest hrest => ?_⟩
  · simp [isSpace, hother ' ' (by decide), hother '\n' (by decide), hother '\r' (by decide),
      hother '\t' (by decide)]
  · have hread := readNumber?_writeInteger n hrest
    rw [hwrite, List.cons_append] at hread ⊢
    rw [readValue?_scalar bound (hother _ (by decide)) (hother _ (by decide)),
      if_neg (hother _ (by decide)), if_neg (hother _ (by decide)), if_neg (hother _ (by decide)),
      if_neg (hother _ (by decide)), hread]
    simp [nestsWithin, depth]

theorem reads_array (spacing : Spacing) (level : Nat) {parts : List (List Char)}
    {items : List Json}
    (h : ∀ bound, List.Forall₂ (Reads (readValue? bound) (nestsWithin bound)) parts items)
    (bound : Nat) :
    Reads (readValue? bound) (nestsWithin bound) ('[' :: spacing.body level ']' parts)
      (array items) where
  begins := ⟨'[', _, rfl, by decide⟩
  reads rest _ := by
    cases bound with
    | zero => simp [readValue?, nestsWithin, depth]
    | succ bound =>
      show (readItems? (readValue? bound) ']' (_ ++ rest)).map _ = _
      rw [readItems?_body spacing level (.inl rfl) (h bound)]
      rw [nestsWithin_array]
      split <;> rfl

theorem reads_object (spacing : Spacing) (level : Nat) {parts : List (List Char)}
    {members : List (String × Json)}
    (h : ∀ bound, List.Forall₂
      (Reads (readMember? (readValue? bound)) fun pair => nestsWithin bound pair.2) parts members)
    (bound : Nat) :
    Reads (readValue? bound) (nestsWithin bound) ('{' :: spacing.body level '}' parts)
      (object members) where
  begins := ⟨'{', _, rfl, by decide⟩
  reads rest _ := by
    cases bound with
    | zero => simp [readValue?, nestsWithin, depth]
    | succ bound =>
      show (readItems? (readMember? (readValue? bound)) '}' (_ ++ rest)).map _ = _
      rw [readItems?_body spacing level (.inr rfl) (h bound)]
      rw [nestsWithin_object]
      split <;> rfl

mutual

/-- A value is read back from every spelling if it is not nested too deep. -/
theorem reads_spell (spacing : Spacing) : ∀ (level : Nat) (json : Json), json.IsWhole →
    ∀ bound, Reads (readValue? bound) (nestsWithin bound) (spell spacing level json) json
  | _, null, _, bound => reads_null bound
  | _, bool true, _, bound => reads_true bound
  | _, bool false, _, bound => reads_false bound
  | _, integer n, _, bound => reads_integer bound n
  | _, string value, _, bound => reads_string bound value
  | level, array items, hwhole, bound =>
    reads_array spacing level (reads_spellAll spacing (level + 1) items hwhole) bound
  | level, object members, hwhole, bound =>
    reads_object spacing level (reads_spellMembers spacing (level + 1) members hwhole) bound

theorem reads_spellAll (spacing : Spacing) : ∀ (level : Nat) (items : List Json),
    AreWhole items → ∀ bound, List.Forall₂ (Reads (readValue? bound) (nestsWithin bound))
      (spellAll spacing level items) items
  | _, [], _, _ => .nil
  | level, item :: items, hwhole, bound =>
    .cons (reads_spell spacing level item hwhole.1 bound)
      (reads_spellAll spacing level items hwhole.2 bound)

theorem reads_spellMembers (spacing : Spacing) :
    ∀ (level : Nat) (members : List (String × Json)), MembersAreWhole members →
      ∀ bound, List.Forall₂
        (Reads (readMember? (readValue? bound)) fun pair => nestsWithin bound pair.2)
        (spellMembers spacing level members) members
  | _, [], _, _ => .nil
  | level, (name, json) :: members, hwhole, bound =>
    .cons ((reads_spell spacing level json hwhole.1 bound).member spacing name)
      (reads_spellMembers spacing level members hwhole.2 bound)

end

/-- A text that spells a value is read as that value, if the value is not nested too deep. -/
theorem read?_spell (spacing : Spacing) {json : Json} (h : json.IsWhole) :
    read? (String.ofList (spell spacing 0 json)) =
      if json.depth ≤ depthLimit then some json else none := by
  have hspell := reads_spell spacing 0 json h depthLimit
  have hstart := hspell.skipSpaces_part []
  have hread := hspell.reads [] (by simp [EndsNumber])
  rw [List.append_nil] at hstart hread
  rw [read?, String.toList_ofList, hstart, hread]
  by_cases hdepth : json.depth ≤ depthLimit
  · simp [nestsWithin, hdepth, skipSpaces]
  · simp [nestsWithin, hdepth]

/-- A value on one line is read back. -/
theorem read?_compact {json : Json} (h : json.IsWhole) :
    read? json.compact = if json.depth ≤ depthLimit then some json else none := by
  rw [compact, write_eq_spell 0, read?_spell .none h]

/-- A value over several lines is read back. -/
theorem read?_pretty {json : Json} (h : json.IsWhole) :
    read? json.pretty = if json.depth ≤ depthLimit then some json else none := by
  rw [pretty, writeIndented_eq_spell 0, read?_spell .lines h]

/-! ## Nesting of what is read -/

section Bound

variable {α : Type} {item : Reader α} {holds : α → Prop} {closing : Char} {cs rest : List Char}
  {values : List α}

theorem exists_of_map_eq_some {β γ : Type} {f : α → β} {found : Option (α × γ)} {b : β} {rest : γ}
    (h : (found.map fun (a, rest) => (f a, rest)) = some (b, rest)) :
    ∃ a, found = some (a, rest) ∧ f a = b := by
  obtain ⟨⟨a, after⟩, hfound, he⟩ := Option.map_eq_some_iff.mp h
  simp only [Prod.mk.injEq] at he
  exact ⟨a, he.2 ▸ hfound, he.1⟩

/-- What holds of every value that is read holds of all items after the first one. -/
theorem forall_of_readMore? (h : ∀ cs value rest, item cs = some (value, rest) → holds value)
    (hread : readMore? item closing cs = some (values, rest)) : ∀ value ∈ values, holds value := by
  fun_induction readMore? item closing cs generalizing values rest with
  | case1 cs _ _ value _ hitem _ ih =>
    obtain ⟨more, hmore, rfl⟩ := exists_of_map_eq_some hread
    exact List.forall_mem_cons.mpr ⟨h _ _ _ hitem, ih hmore⟩
  | case4 =>
    simp only [Option.some.injEq, Prod.mk.injEq] at hread
    simp [← hread.1]
  | case2 | case3 | case5 | case6 => simp at hread

/-- What holds of every value that is read holds of all items. -/
theorem forall_of_readItems? (h : ∀ cs value rest, item cs = some (value, rest) → holds value)
    (hread : readItems? item closing cs = some (values, rest)) :
    ∀ value ∈ values, holds value := by
  unfold readItems? at hread
  split at hread
  · simp at hread
  · split at hread
    · simp only [Option.some.injEq, Prod.mk.injEq] at hread
      simp [← hread.1]
    · split at hread
      · rename_i hitem
        obtain ⟨more, hmore, rfl⟩ := exists_of_map_eq_some hread
        exact List.forall_mem_cons.mpr ⟨h _ _ _ hitem, forall_of_readMore? h hmore⟩
      · simp at hread

/-- The value of a member is a value that is read. -/
theorem holds_of_readMember? {value : Reader Json} {holds : Json → Prop} {pair : String × Json}
    (h : ∀ cs json rest, value cs = some (json, rest) → holds json)
    (hread : readMember? value cs = some (pair, rest)) : holds pair.2 := by
  unfold readMember? at hread
  split at hread
  · split at hread
    · obtain ⟨json, hvalue, rfl⟩ := exists_of_map_eq_some hread
      exact h _ _ _ hvalue
    · simp at hread
  · simp at hread

theorem depth_eq_zero_of_readWord? {word : List Char} {value json : Json}
    (hvalue : value.depth = 0) (h : readWord? word value cs = some (json, rest)) :
    json.depth = 0 := by
  unfold readWord? at h
  split at h
  · simp_all
  · simp at h

theorem depth_eq_zero_of_readNumber? {json : Json} (h : readNumber? cs = some (json, rest)) :
    json.depth = 0 := by
  unfold readNumber? at h
  split at h
  all_goals
    obtain ⟨⟨⟨whole, tail⟩, after⟩, -, he⟩ := Option.map_eq_some_iff.mp h
    simp only at he
    split at he <;> simp only [Prod.mk.injEq] at he <;> obtain ⟨rfl, -⟩ := he <;> rfl

theorem depth_eq_zero_of_readValue? {bound : Nat} {c : Char} {json : Json} (hbracket : c ≠ '[')
    (hbrace : c ≠ '{') (h : readValue? bound (c :: cs) = some (json, rest)) : json.depth = 0 := by
  rw [readValue?_scalar bound hbracket hbrace] at h
  split at h
  · obtain ⟨chars, -, rfl⟩ :=
      exists_of_map_eq_some (f := fun chars => string (String.ofList chars)) h
    rfl
  · split at h
    · exact depth_eq_zero_of_readWord? rfl h
    · split at h
      · exact depth_eq_zero_of_readWord? rfl h
      · split at h
        · exact depth_eq_zero_of_readWord? rfl h
        · exact depth_eq_zero_of_readNumber? h

/-- A value that is read is not nested deeper than the bound. -/
theorem depth_le_of_readValue? {bound : Nat} {json : Json}
    (h : readValue? bound cs = some (json, rest)) : json.depth ≤ bound := by
  induction bound generalizing cs json rest with
  | zero =>
    rcases cs with _ | ⟨c, cs⟩
    · simp [readValue?] at h
    · by_cases hnested : c = '[' ∨ c = '{'
      · rcases hnested with rfl | rfl <;> simp [readValue?] at h
      · rw [not_or] at hnested
        exact Nat.le_of_eq (depth_eq_zero_of_readValue? hnested.1 hnested.2 h)
  | succ bound ih =>
    have hdeep : ∀ cs json rest, readValue? bound cs = some (json, rest) → json.depth ≤ bound :=
      fun _ _ _ => ih
    rcases cs with _ | ⟨c, cs⟩
    · simp [readValue?] at h
    · by_cases hbracket : c = '['
      · subst hbracket
        obtain ⟨items, hitems, rfl⟩ := exists_of_map_eq_some h
        have hall := forall_of_readItems? hdeep hitems
        exact Nat.succ_le_succ (depthOfAll_le_iff.mpr hall)
      · by_cases hbrace : c = '{'
        · subst hbrace
          obtain ⟨members, hmembers, rfl⟩ := exists_of_map_eq_some h
          have hall := forall_of_readItems?
            (fun _ (pair : String × Json) _ => holds_of_readMember? hdeep) hmembers
          exact Nat.succ_le_succ (depthOfMembers_le_iff.mpr hall)
        · rw [depth_eq_zero_of_readValue? hbracket hbrace h]
          exact Nat.zero_le _

/-- No value is read that is nested deeper than the reader goes. -/
theorem depth_le_of_read? {text : String} {json : Json} (h : read? text = some json) :
    json.depth ≤ depthLimit := by
  unfold read? at h
  split at h
  · split at h
    · simp only [Option.some.injEq] at h
      exact h ▸ depth_le_of_readValue? ‹_›
    · simp at h
  · simp at h

end Bound

end Receipt.Json
