import Receipt.Proofs.Markup.Attributes

/-!
# Lists of attributes

A tag's attributes are looked for from every place on, so one might be found that begins in the
value of another, or one whose quotes are the closing quote of an attribute and the opening quote of
the next.  Neither happens: between a closing quote and the next opening one stands an equals sign,
which no value can have, and what leads up to a quote is of no use when no value follows it.

* `Attr.all_append_quote`: no attribute begins before a quote that opens no value.
* `Attr.isValue_of_mem_all`: the value of an attribute is one that it can have.
* `trim_of_get?_readProps`: no prop that is read has blanks at its ends.
* `WrittenAttr`: an attribute as it is written, with any value.
* `WrittenAttr.all_write_append`: the next attribute is kept if it has a usable value.
* `readProps_flatMap_write`: the props that a list of attributes sets.
-/

namespace Receipt.Markup

namespace Attr

variable {front value tail text : List Char}

/-- Whether a text can be the value of an attribute. -/
def isValue (value : List Char) : Bool :=
  !value.isEmpty && value.all isAttrValueChar

/-! ## Quotes that open no value -/

theorem readValue?_eq_none_of_head (h : text.head? ≠ some '"') : readValue? text = none := by
  cases text with
  | nil => rfl
  | cons c cs =>
    rw [readValue?]
    rintro rest ⟨rfl, -⟩
    exact h rfl

theorem readValue?_cons_eq_none_of_head
    (h : (text.dropWhile isAttrValueChar).head? ≠ some '"') : readValue? ('"' :: text) = none := by
  rw [readValue?]
  split
  · rename_i after hafter
    rw [hafter] at h
    exact absurd rfl h
  · rfl

theorem readValue?_cons_eq_none_of_not_mem (h : '"' ∉ text) : readValue? ('"' :: text) = none :=
  readValue?_cons_eq_none_of_head fun hhead =>
    h ((List.dropWhile_sublist _).mem (List.mem_of_mem_head? hhead))

/-- Nothing is read between two quotes with a text between them that can be no value. -/
theorem readValue?_eq_none_of_isValue_eq_false (hquote : '"' ∉ value)
    (hvalue : isValue value = false) (rest : List Char) :
    readValue? ('"' :: (value ++ '"' :: rest)) = none := by
  have happend := Text.takeWhile_append_of_head (p := isAttrValueChar) value
    (fun c (hc : c ∈ ('"' :: rest).head?) => by
      obtain rfl := Option.some.inj hc
      decide)
  by_cases hempty : value = []
  · rw [hempty, List.nil_append, readValue?]
    exact if_pos rfl
  · refine readValue?_cons_eq_none_of_head ?_
    rw [happend.2]
    cases hdrop : value.dropWhile isAttrValueChar with
    | nil =>
      have htake : value.takeWhile isAttrValueChar = value := by
        have hsplit := @List.takeWhile_append_dropWhile _ isAttrValueChar value
        rwa [hdrop, List.append_nil] at hsplit
      have hall : value.all isAttrValueChar = true := htake ▸ List.all_takeWhile
      rw [isValue, hall, Bool.and_true, Bool.not_eq_false', List.isEmpty_iff] at hvalue
      exact absurd hvalue hempty
    | cons d ds =>
      -- a character that no value can have ends the value before the quote is reached
      have hmem : d ∈ value :=
        (List.dropWhile_sublist _).mem (hdrop ▸ List.mem_cons_self : d ∈ value.dropWhile _)
      intro hhead
      obtain rfl := Option.some.inj hhead
      exact hquote hmem

/-! ## What stands before a quote -/

theorem suffix_of_readEquals? {quoted : List Char} (h : readEquals? text = some quoted) :
    quoted <:+ text := by
  unfold readEquals? at h
  split at h
  · rename_i rest hrest
    obtain rfl := Option.some.inj h
    have hsuffix : '=' :: rest <:+ text := hrest ▸ List.dropWhile_suffix Text.isBlank
    exact (List.dropWhile_suffix _).trans ((List.suffix_cons '=' rest).trans hsuffix)
  · contradiction

theorem readEquals?_append_of_head (front : List Char) (htail : ∀ c ∈ tail.head?, c = '"') :
    readEquals? (front ++ tail) = (readEquals? front).map (· ++ tail) := by
  have htrim (front : List Char) : Text.trimStart (front ++ tail) = Text.trimStart front ++ tail :=
    (Text.takeWhile_append_of_head front fun c hc => by rw [htail c hc]; decide).2
  rw [readEquals?, readEquals?, htrim]
  cases Text.trimStart front with
  | nil =>
    cases tail with
    | nil => rfl
    | cons c tail =>
      rw [htail c rfl]
      rfl
  | cons c cs =>
    by_cases hc : c = '='
    · subst hc
      exact congrArg some (htrim cs)
    · rw [List.cons_append]
      split
      · rename_i h
        exact absurd (List.cons.inj h).1 hc
      · split
        · rename_i h
          exact absurd (List.cons.inj h).1 hc
        · rfl

/-- What leads up to a quote is no attribute if no value follows. -/
theorem read?_append_eq_none (hfront : '"' ∉ front) (htail : ∀ c ∈ tail.head?, c = '"')
    (h : readValue? tail = none) : read? (front ++ tail) = none := by
  have hname := Text.takeWhile_append_of_head (p := isAttrNameChar) front fun c hc => by
    rw [htail c hc]; decide
  rw [read?]
  simp only [hname, readEquals?_append_of_head _ htail]
  split
  · rfl
  · cases hequals : readEquals? (front.dropWhile isAttrNameChar) with
    | none => rfl
    | some quoted =>
      -- neither the equals sign nor the blanks around it take the reader past the quote
      have hquoted : '"' ∉ quoted := fun hmem =>
        hfront ((List.dropWhile_suffix _).subset ((suffix_of_readEquals? hequals).subset hmem))
      have hnone : readValue? (quoted ++ tail) = none := by
        cases quoted with
        | nil => exact h
        | cons c cs =>
          refine readValue?_eq_none_of_head fun hhead => hquoted ?_
          obtain rfl := Option.some.inj hhead
          exact List.mem_cons_self
      simp only [Option.map_some, hnone, Option.map_none]

theorem all_append_of_readValue?_eq_none (hfront : '"' ∉ front)
    (htail : ∀ c ∈ tail.head?, c = '"') (h : readValue? tail = none) :
    all (front ++ tail) = all tail := by
  induction front with
  | nil => rfl
  | cons c front ih =>
    have hnone : read? (c :: (front ++ tail)) = none := read?_append_eq_none hfront htail h
    rw [List.cons_append, all_cons_of_read?_eq_none hnone]
    exact ih fun hmem => hfront (List.mem_cons_of_mem c hmem)

/-- A quote that opens no value is passed over, together with what stands before it. -/
theorem all_append_quote (hfront : '"' ∉ front) (h : readValue? ('"' :: tail) = none) :
    all (front ++ '"' :: tail) = all tail := by
  have hquote : ∀ c ∈ ('"' :: tail).head?, c = '"' := fun _ hc => (Option.some.inj hc).symm
  rw [all_append_of_readValue?_eq_none hfront hquote h, all_cons_of_not_name (by decide)]

theorem all_eq_nil_of_not_mem (h : '"' ∉ text) : all text = [] := by
  have hall : all (text ++ []) = all [] :=
    all_append_of_readValue?_eq_none h (fun _ hc => nomatch hc) rfl
  rwa [List.append_nil, all] at hall

theorem all_append_of_allBlank (hfront : Text.allBlank front = true) (rest : List Char) :
    all (front ++ rest) = all rest := by
  induction front with
  | nil => rfl
  | cons c front ih =>
    rw [Text.allBlank, List.all_cons, Bool.and_eq_true] at hfront
    rw [List.cons_append, all_cons_of_not_name (isAttrNameChar_eq_false_of_isBlank hfront.1)]
    exact ih hfront.2

/-! ## Values that are read -/

theorem isValue_of_readValue? {after : List Char} (h : readValue? text = some (value, after)) :
    isValue value = true := by
  unfold readValue? at h
  split at h
  · rename_i rest
    simp only at h
    split at h
    · split at h
      · contradiction
      · rename_i hempty
        obtain ⟨rfl, -⟩ := Prod.mk.inj (Option.some.inj h)
        rw [isValue, List.all_takeWhile, Bool.and_true, Bool.not_eq_true']
        exact Bool.eq_false_iff.mpr hempty
    · contradiction
  · contradiction

theorem isValue_of_read? {attr : Attr} {after : List Char} (h : read? text = some (attr, after)) :
    isValue attr.value = true := by
  unfold read? at h
  simp only at h
  split at h
  · contradiction
  · split at h
    · contradiction
    · obtain ⟨⟨value, rest⟩, hvalue, hattr⟩ := Option.map_eq_some_iff.mp h
      obtain ⟨rfl, -⟩ := Prod.mk.inj hattr
      exact isValue_of_readValue? hvalue

/-- The value of an attribute is not empty and has only characters that values may have. -/
theorem isValue_of_mem_all {attr : Attr} (h : attr ∈ all text) : isValue attr.value = true := by
  induction text using all.induct with
  | case1 =>
    rw [all] at h
    exact absurd h List.not_mem_nil
  | case2 c cs first after hread ih =>
    rw [all_of_read?_eq_some hread] at h
    rcases List.mem_cons.mp h with rfl | hrest
    · exact isValue_of_read? hread
    · exact ih hrest
  | case3 c cs hread hname ih =>
    rw [all_of_read?_eq_none hread, if_pos hname] at h
    exact ih h
  | case4 c cs hread hname ih =>
    rw [all_of_read?_eq_none hread, if_neg hname] at h
    exact ih h

end Attr

section Values

variable {attrs : List Char} {key value : String}

/-- The value of a prop is the trimmed value of an attribute. -/
theorem exists_attr_of_get?_readProps (h : (readProps attrs).get? key = some value) :
    ∃ attr ∈ Attr.all attrs, value.toList = Text.trim attr.value := by
  rw [readProps, Props.get?_ofPairs] at h
  have hentry : (key, value) ∈ ((Attr.all attrs).map Attr.entry).reverse := by
    obtain ⟨before, after, hsplit, -⟩ := List.lookup_eq_some_iff.mp h
    rw [hsplit]
    exact List.mem_append_right _ List.mem_cons_self
  obtain ⟨attr, hattr, heq⟩ := List.mem_map.mp (List.mem_reverse.mp hentry)
  refine ⟨attr, hattr, ?_⟩
  rw [← (Prod.mk.inj heq).2, String.toList_ofList]

/-- No prop that is read has blanks at its ends. -/
theorem trim_of_get?_readProps (h : (readProps attrs).get? key = some value) :
    Text.trim value.toList = value.toList := by
  obtain ⟨attr, -, hvalue⟩ := exists_attr_of_get?_readProps h
  rw [hvalue, Text.trim_trim]

/-- A prop that is read has only characters that values may have. -/
theorem isAttrValueChar_of_get?_readProps (h : (readProps attrs).get? key = some value) {c : Char}
    (hc : c ∈ value.toList) : isAttrValueChar c = true := by
  obtain ⟨attr, hattr, hvalue⟩ := exists_attr_of_get?_readProps h
  have hchars := Attr.isValue_of_mem_all hattr
  rw [Attr.isValue, Bool.and_eq_true] at hchars
  obtain ⟨first, last, -, -, htrim⟩ := Text.exists_append_trim_append attr.value
  refine List.all_eq_true.mp hchars.2 c ?_
  rw [htrim, ← hvalue]
  exact List.mem_append_right first (List.mem_append_left last hc)

end Values

/-! ## Attributes with any value -/

/-- An attribute as it is written, with the blanks before it and around its equals sign.  The value
can be any text without quotes. -/
structure WrittenAttr where
  before : List Char
  name : List Char
  beforeSign : List Char
  afterSign : List Char
  value : List Char
  allBlank_before : Text.allBlank before = true := by decide
  name_ne_nil : name ≠ [] := by decide
  name_chars : name.all isAttrNameChar = true := by decide
  allBlank_beforeSign : Text.allBlank beforeSign = true := by decide
  allBlank_afterSign : Text.allBlank afterSign = true := by decide
  quote_not_mem_value : '"' ∉ value := by decide

namespace WrittenAttr

/-- The name and the value. -/
def attr (written : WrittenAttr) : Attr :=
  ⟨written.name, written.value⟩

/-- The text from the name to the opening quote. -/
def lead (written : WrittenAttr) : List Char :=
  written.name ++ (written.beforeSign ++ '=' :: written.afterSign)

/-- The text. -/
def write (written : WrittenAttr) : List Char :=
  written.before ++ (written.lead ++ '"' :: (written.value ++ ['"']))

/-- Whether the value is one that an attribute can have. -/
def isUsable (written : WrittenAttr) : Bool :=
  Attr.isValue written.value

/-- What the usable ones among some attributes set, in order. -/
def entries (attrs : List WrittenAttr) : List (String × String) :=
  (attrs.filter isUsable).map fun written => written.attr.entry

variable (written : WrittenAttr) {rest : List Char}

theorem quote_not_mem_lead : '"' ∉ written.before ++ written.lead := by
  have hblank {gap : List Char} (h : Text.allBlank gap = true) : '"' ∉ gap := fun hmem =>
    absurd (List.all_eq_true.mp h _ hmem) (by decide)
  have hname : '"' ∉ written.name := fun hmem =>
    absurd (List.all_eq_true.mp written.name_chars _ hmem) (by decide)
  simp [lead, hname, hblank written.allBlank_before, hblank written.allBlank_beforeSign,
    hblank written.allBlank_afterSign]

theorem write_append (rest : List Char) :
    written.write ++ rest =
      (written.before ++ written.lead) ++ '"' :: (written.value ++ '"' :: rest) := by
  simp [write]

/-- The quote before some attributes opens no value, since an equals sign stands before the next
quote. -/
theorem readValue?_cons_flatMap_write (attrs : List WrittenAttr) (hrest : '"' ∉ rest) :
    Attr.readValue? ('"' :: (attrs.flatMap write ++ rest)) = none := by
  cases attrs with
  | nil => exact Attr.readValue?_cons_eq_none_of_not_mem hrest
  | cons written attrs =>
    have hvalue : Attr.isValue (written.before ++ written.lead) = false := by
      have hequals : '=' ∈ written.before ++ written.lead := by simp [lead]
      have hall : (written.before ++ written.lead).all isAttrValueChar = false :=
        List.all_eq_false.mpr ⟨'=', hequals, by decide⟩
      rw [Attr.isValue, hall, Bool.and_false]
    rw [List.flatMap_cons, List.append_assoc, write_append]
    exact Attr.readValue?_eq_none_of_isValue_eq_false written.quote_not_mem_lead hvalue _

theorem read?_lead_append (husable : written.isUsable = true) (rest : List Char) :
    Attr.read? (written.lead ++ '"' :: (written.value ++ '"' :: rest)) =
      some (written.attr, rest) := by
  simp only [isUsable, Attr.isValue, Bool.and_eq_true, Bool.not_eq_true', List.all_eq_true,
    List.isEmpty_eq_false_iff] at husable
  have hvalue := Attr.readValue?_append husable.1 husable.2 rest
  have happend := Attr.read?_append written.name_ne_nil (List.all_eq_true.mp written.name_chars)
    (List.all_eq_true.mp written.allBlank_beforeSign)
    (List.all_eq_true.mp written.allBlank_afterSign) (written.value ++ '"' :: rest)
  rw [hvalue] at happend
  rw [lead, List.append_assoc, List.append_assoc, List.cons_append]
  exact happend

/-- An attribute with a usable value is read, and any other is passed over, where the closing quote
opens no value. -/
theorem all_write_append (hrest : Attr.readValue? ('"' :: rest) = none) :
    Attr.all (written.write ++ rest) =
      (if written.isUsable then [written.attr] else []) ++ Attr.all rest := by
  rw [write_append]
  cases husable : written.isUsable with
  | true =>
    rw [List.append_assoc, Attr.all_append_of_allBlank written.allBlank_before,
      Attr.all_of_read?_eq_some (written.read?_lead_append husable rest)]
    rfl
  | false =>
    have hopen :=
      Attr.readValue?_eq_none_of_isValue_eq_false written.quote_not_mem_value husable rest
    rw [Attr.all_append_quote written.quote_not_mem_lead hopen,
      Attr.all_append_quote written.quote_not_mem_value hrest]
    rfl

/-- Of a list of attributes, those with a usable value are read. -/
theorem all_flatMap_write (attrs : List WrittenAttr) (hrest : '"' ∉ rest) :
    Attr.all (attrs.flatMap write ++ rest) = (attrs.filter isUsable).map attr := by
  induction attrs with
  | nil => exact Attr.all_eq_nil_of_not_mem hrest
  | cons written attrs ih =>
    have hnext := readValue?_cons_flatMap_write attrs hrest
    rw [List.flatMap_cons, List.append_assoc, all_write_append written hnext, ih, List.filter_cons]
    split <;> rfl

end WrittenAttr

/-- A list of attributes sets the props of those that have a usable value, and what the other values
are makes no difference.  Each name has the place in which it is first set, and the last value that
it is set to. -/
theorem readProps_flatMap_write (attrs : List WrittenAttr) {rest : List Char}
    (hrest : '"' ∉ rest) :
    readProps (attrs.flatMap WrittenAttr.write ++ rest) =
      Props.ofPairs (WrittenAttr.entries attrs) ∧
    (readProps (attrs.flatMap WrittenAttr.write ++ rest)).entries.map Prod.fst =
      ((WrittenAttr.entries attrs).map Prod.fst).eraseDups ∧
    ∀ name, (readProps (attrs.flatMap WrittenAttr.write ++ rest)).get? name =
      (WrittenAttr.entries attrs).reverse.lookup name := by
  have hprops : readProps (attrs.flatMap WrittenAttr.write ++ rest) =
      Props.ofPairs (WrittenAttr.entries attrs) := by
    rw [readProps, WrittenAttr.all_flatMap_write attrs hrest, List.map_map]
    rfl
  rw [hprops]
  exact ⟨rfl, Props.map_fst_ofPairs _, Props.get?_ofPairs _⟩

/-- Five attributes, of which the first and the fourth have no usable value. -/
def mixedAttrs : List WrittenAttr :=
  [{ before := [' '], name := ['a'], beforeSign := [], afterSign := [],
     value := ['x', ':', 'y', '='] },
   { before := [' '], name := ['b'], beforeSign := [' '], afterSign := ['\n'],
     value := [' ', 'v'] },
   { before := ['\t'], name := ['a'], beforeSign := [], afterSign := [], value := [' '] },
   { before := [' '], name := ['c'], beforeSign := [], afterSign := [], value := [] },
   { before := [' '], name := ['a'], beforeSign := [], afterSign := [], value := ['1'] }]

theorem readProps_flatMap_write_mixedAttrs :
    '"' ∉ [' ', '/'] ∧
    mixedAttrs.flatMap WrittenAttr.write ++ [' ', '/'] =
      " a=\"x:y=\" b =\n\" v\"\ta=\" \" c=\"\" a=\"1\" /".toList ∧
    (readProps " a=\"x:y=\" b =\n\" v\"\ta=\" \" c=\"\" a=\"1\" /".toList).entries =
      [("b", "v"), ("a", "1")] := by
  have hrest : '"' ∉ [' ', '/'] := by decide
  have htext : mixedAttrs.flatMap WrittenAttr.write ++ [' ', '/'] =
      " a=\"x:y=\" b =\n\" v\"\ta=\" \" c=\"\" a=\"1\" /".toList := by decide
  obtain ⟨hprops, -, -⟩ := readProps_flatMap_write mixedAttrs hrest
  refine ⟨hrest, htext, ?_⟩
  rw [← htext, hprops]
  decide

end Receipt.Markup
