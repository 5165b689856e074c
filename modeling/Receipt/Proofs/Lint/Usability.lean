import Receipt.Proofs.Device.Queuing
import Receipt.Proofs.Lint.Errors
import Receipt.Proofs.Markup.AttributeLists
import Receipt.Proofs.Text.Decimal

/-!
# Values that are used and values that are remarked on

The check reads a value as it stands, while the layout and the devices trim it first.  They agree
all the same, since no attribute sets a value with blanks at its ends.

* `PlainValue`: what a value is that an attribute sets; such a value is read the same way whether it
  is trimmed or not, and as a number if it is a numeral.
* `ColumnWidth.forall_ofProps_eq_standard_iff`: the widths that no layout can use.
* `LineProp`: a prop that holds a measure of a line, with `LineProp.IsUsedAs` and
  `LineProp.IsPassedOver` for what devices make of a value.
* `remarks_agree_with_use`: the check remarks on the values that are not used, and the others are
  used with their numeric value.
-/

namespace Receipt

open Text

/-! ## Values that attributes set -/

/-- A value without blanks at its ends and without a plus sign. -/
structure PlainValue (value : String) : Prop where
  trim : Text.trim value.toList = value.toList
  plus_not_mem : '+' ∉ value.toList

theorem plainValue_of_get?_readProps {attrs : List Char} {key value : String}
    (h : (Markup.readProps attrs).get? key = some value) : PlainValue value where
  trim := Markup.trim_of_get?_readProps h
  plus_not_mem hmem := absurd (Markup.isAttrValueChar_of_get?_readProps h hmem) (by decide)

/-- The number that a plain value holds. -/
theorem PlainValue.number?_eq {props : Props} {key value : String} (hplain : PlainValue value)
    (h : props.get? key = some value) :
    props.number? key = Decimal.readUInt32? value.toList := by
  rw [Props.number?, h, Option.bind_some, hplain.trim]

/-! ## Widths -/

namespace ColumnWidth

variable {props : Props} {value : String}

/-- A plain value asks for a width if it is `auto`, or the numeral of a width that a column can
have. -/
theorem read?_eq_some_iff (hplain : PlainValue value) {width : ColumnWidth} :
    read? value = some width ↔
      value = "auto" ∧ width = auto ∨
        ∃ n, Decimal.IsNumeral value.toList n ∧ 1 ≤ n ∧ n ≤ widest ∧ width = fixed n := by
  have hbelow (n : Nat) : Decimal.readBelow? (widest + 1) value.toList = some n ↔
      Decimal.IsNumeral value.toList n ∧ n < widest + 1 :=
    Decimal.readBelow?_eq_some_iff hplain.plus_not_mem
  rw [read?]
  simp only [hplain.trim]
  by_cases hword : value.toList = ['a', 'u', 't', 'o']
  · rw [if_pos hword]
    constructor
    · intro hread
      exact Or.inl ⟨String.toList_inj.mp hword, (Option.some.inj hread).symm⟩
    · rintro (⟨-, rfl⟩ | ⟨n, hnumeral, -⟩)
      · rfl
      · exact absurd (hnumeral.digits 'a' (hword ▸ List.mem_cons_self)) (by decide)
  · rw [if_neg hword]
    constructor
    · intro hread
      split at hread
      · rename_i n hn
        obtain ⟨hnumeral, hlt⟩ := (hbelow (n + 1)).mp hn
        exact Or.inr ⟨n + 1, hnumeral, Nat.succ_pos n, Nat.le_of_lt_succ hlt,
          (Option.some.inj hread).symm⟩
      · contradiction
    · rintro (⟨rfl, -⟩ | ⟨n, hnumeral, hpos, hwidest, rfl⟩)
      · exact absurd rfl hword
      · obtain ⟨n, rfl⟩ := Nat.exists_eq_add_of_le' hpos
        rw [(hbelow (n + 1)).mpr ⟨hnumeral, Nat.lt_succ_of_le hwidest⟩]

theorem ofProps_of_read? (h : props.get? key = some value) (colWidth : UInt64) :
    ofProps props colWidth = (read? value).getD (standard colWidth) := by
  rw [ofProps, h, Option.bind_some]

/-- A width cannot be used exactly if every layout gives the column its standard width. -/
theorem forall_ofProps_eq_standard_iff (hplain : PlainValue value)
    (h : props.get? key = some value) :
    (∀ colWidth, ofProps props colWidth = standard colWidth) ↔ read? value = none := by
  constructor
  · intro hstandard
    cases hread : read? value with
    | none => rfl
    | some width =>
      -- no column can ask for the width that it has where the standard width is zero
      have hzero : width = fixed 0 := calc
        width = ofProps props 0 := by rw [ofProps_of_read? h, hread, Option.getD_some]
        _ = fixed 0 := hstandard 0
      rcases (read?_eq_some_iff hplain).mp hread with ⟨-, hauto⟩ | ⟨n, -, hpos, -, hfixed⟩
      · exact nomatch hzero.symm.trans hauto
      · obtain rfl := ColumnWidth.fixed.inj (hzero.symm.trans hfixed)
        exact absurd hpos (by decide)
  · intro hread colWidth
    rw [ofProps_of_read? h, hread, Option.getD_none]

/-- A width that is not refused is used as it is written. -/
theorem forall_ofProps_of_read?_ne_none (hplain : PlainValue value)
    (h : props.get? key = some value) (hread : read? value ≠ none) :
    (value = "auto" ∧ ∀ colWidth, ofProps props colWidth = auto) ∨
      ∃ n, Decimal.IsNumeral value.toList n ∧ 1 ≤ n ∧ n ≤ widest ∧
        ∀ colWidth, ofProps props colWidth = fixed n := by
  obtain ⟨width, hwidth⟩ := Option.ne_none_iff_exists'.mp hread
  have hused (colWidth : UInt64) : ofProps props colWidth = width := by
    rw [ofProps_of_read? h, hwidth, Option.getD_some]
  rcases (read?_eq_some_iff hplain).mp hwidth with ⟨hauto, rfl⟩ | ⟨n, hnumeral, hpos, hle, rfl⟩
  · exact Or.inl ⟨hauto, hused⟩
  · exact Or.inr ⟨n, hnumeral, hpos, hle, hused⟩

end ColumnWidth

/-! ## Measures of lines -/

/-- A prop of a row that holds a measure of the line of the row. -/
structure LineProp where
  key : String
  measure : Command → UInt32
  /-- Where the measure comes from if the prop holds no number. -/
  otherwise : DeviceSettings → Row → UInt32

namespace LineProp

/-- The size of the font. -/
def size : LineProp where
  key := fontSizeKey
  measure line := line.font.size
  otherwise settings _ := settings.fontSize

/-- The height of the line, which is that of the font where nothing is said. -/
def height : LineProp where
  key := lineHeightKey
  measure line := line.box.height
  otherwise settings row :=
    (row.props.number? fontSizeKey).getD (settings.lineHeight.getD settings.fontSize)

/-- The props that the check expects a number of. -/
def all : List LineProp :=
  [size, height]

/-- Whatever device queues a row with this value, and whatever else is set in the row, the line has
the measure `n`. -/
def IsUsedAs (prop : LineProp) (value : String) (n : UInt32) : Prop :=
  ∀ (settings : DeviceSettings) (row : Row) (line : Command),
    row.props.get? prop.key = some value → settings.LineFor row line → prop.measure line = n

/-- Whatever device queues a row with this value, and whatever else is set in the row, the measure
of the line comes from somewhere else. -/
def IsPassedOver (prop : LineProp) (value : String) : Prop :=
  ∀ (settings : DeviceSettings) (row : Row) (line : Command),
    row.props.get? prop.key = some value → settings.LineFor row line →
      prop.measure line = prop.otherwise settings row

variable {prop : LineProp} {value : String}

theorem key_eq (hprop : prop ∈ all) : prop.key = fontSizeKey ∨ prop.key = lineHeightKey := by
  rcases List.mem_pair.mp hprop with rfl | rfl
  · exact Or.inl rfl
  · exact Or.inr rfl

theorem measure_eq (hprop : prop ∈ all) {settings : DeviceSettings} {row : Row} {line : Command}
    (h : settings.LineFor row line) :
    prop.measure line = (row.props.number? prop.key).getD (prop.otherwise settings row) := by
  rcases List.mem_pair.mp hprop with rfl | rfl
  · exact h.lineOf.size
  · exact h.lineOf.height

/-- The measure could always come out differently if the prop did not hold its number. -/
theorem exists_otherwise_ne (hprop : prop ∈ all) (value : String) (n : UInt32) :
    ∃ settings row, row.props.get? prop.key = some value ∧ prop.otherwise settings row ≠ n := by
  have hne : n + 1 ≠ n := by simp
  refine ⟨{ fontSize := n + 1 }, { text := "", props := (∅ : Props).set prop.key value },
    Props.get?_set_self _ _ _, ?_⟩
  rcases List.mem_pair.mp hprop with rfl | rfl
  · exact hne
  · have hnone : ((∅ : Props).set lineHeightKey value).number? fontSizeKey = none := rfl
    show (((∅ : Props).set lineHeightKey value).number? fontSizeKey).getD (n + 1) ≠ n
    rw [hnone]
    exact hne

/-- A value that holds a number is used as this number. -/
theorem isUsedAs_of_readUInt32? (hprop : prop ∈ all) (hplain : PlainValue value) {n : UInt32}
    (h : Decimal.readUInt32? value.toList = some n) : prop.IsUsedAs value n := by
  intro settings row line hrow hline
  rw [measure_eq hprop hline, hplain.number?_eq hrow, h, Option.getD_some]

/-- A value is passed over exactly if it holds no number. -/
theorem isPassedOver_iff (hprop : prop ∈ all) (hplain : PlainValue value) :
    prop.IsPassedOver value ↔ Decimal.readUInt32? value.toList = none := by
  constructor
  · intro hpassed
    cases hread : Decimal.readUInt32? value.toList with
    | none => rfl
    | some n =>
      obtain ⟨settings, row, hrow, hne⟩ := exists_otherwise_ne hprop value n
      obtain ⟨line, hline⟩ := settings.exists_lineFor row
      have hused : prop.measure line = n :=
        isUsedAs_of_readUInt32? hprop hplain hread settings row line hrow hline
      exact absurd ((hpassed settings row line hrow hline).symm.trans hused) hne
  · intro hread settings row line hrow hline
    rw [measure_eq hprop hline, hplain.number?_eq hrow, hread, Option.getD_none]

/-- A value that holds a number is used as the number that it is the numeral of. -/
theorem exists_isUsedAs (hprop : prop ∈ all) (hplain : PlainValue value)
    (h : Decimal.readUInt32? value.toList ≠ none) :
    ∃ n : UInt32, Decimal.IsNumeral value.toList n.toNat ∧ prop.IsUsedAs value n := by
  obtain ⟨n, hread⟩ := Option.ne_none_iff_exists'.mp h
  exact ⟨n, (Decimal.readUInt32?_eq_some_iff hplain.plus_not_mem).mp hread,
    isUsedAs_of_readUInt32? hprop hplain hread⟩

end LineProp

namespace Lint

variable {props : Props} {value : String} {location : Location}

/-! ## Telling the remarks apart -/

theorem unusableWidth_ne_notNumeric {key value' : String} {location' : Location} :
    unusableWidth value location ≠ notNumeric key value' location' := fun h =>
  nomatch congrArg Diagnostic.suggestion h

theorem unusableWidth_inj {value' : String} {location' : Location}
    (h : unusableWidth value location = unusableWidth value' location') : value = value' := by
  have hmessage := congrArg (fun diagnostic => diagnostic.message.toList) h
  simp only [unusableWidth, Diagnostic.withLocation, String.toList_append] at hmessage
  exact String.toList_inj.mp (List.append_cancel_left (List.append_cancel_right hmessage))

theorem takeWhile_notNumeric {key : String} (hkey : ' ' ∉ key.toList) (value : String)
    (location : Location) :
    (notNumeric key value location).message.toList.takeWhile (· != ' ') = key.toList ∧
      (notNumeric key value location).message.toList.dropWhile (· != ' ') =
        " \"".toList ++ value.toList ++ "\" is not a number and is ignored".toList := by
  have hchars : ∀ c ∈ key.toList, (c != ' ') = true := fun c hc =>
    bne_iff_ne.mpr fun hspace => hkey (hspace ▸ hc)
  have hsplit := Text.takeWhile_append_of_all hchars
    (" \"".toList ++ value.toList ++ "\" is not a number and is ignored".toList)
    (fun c hc => by obtain rfl := Option.some.inj hc; rfl)
  simpa [notNumeric, Diagnostic.withLocation] using hsplit

/-- A remark on a number names the prop and the value. -/
theorem notNumeric_inj {key key' value' : String} {location' : Location}
    (hkey : ' ' ∉ key.toList) (hkey' : ' ' ∉ key'.toList)
    (h : notNumeric key value location = notNumeric key' value' location') :
    key = key' ∧ value = value' := by
  obtain ⟨hname, hrest⟩ := takeWhile_notNumeric hkey value location
  rw [h, (takeWhile_notNumeric hkey' value' location').1] at hname
  rw [h, (takeWhile_notNumeric hkey' value' location').2] at hrest
  exact ⟨String.toList_inj.mp hname.symm, String.toList_inj.mp
    (List.append_cancel_left (List.append_cancel_right hrest)).symm⟩

/-! ## Remarks on props -/

/-- A remark on the width is one on the width that is set. -/
theorem unusableWidth_mem_checkProps_iff :
    unusableWidth value location ∈ checkProps props location ↔
      props.get? ColumnWidth.key = some value ∧ ColumnWidth.read? value = none := by
  rw [mem_checkProps_iff]
  constructor
  · rintro (hwidth | ⟨key, -, hnumber⟩)
    · obtain ⟨other, hget, hread, heq⟩ := mem_checkWidth_iff.mp hwidth
      obtain rfl := unusableWidth_inj heq
      exact ⟨hget, hread⟩
    · obtain ⟨other, -, -, heq⟩ := mem_checkNumber_iff.mp hnumber
      exact absurd heq unusableWidth_ne_notNumeric
  · rintro ⟨hget, hread⟩
    exact Or.inl (mem_checkWidth_iff.mpr ⟨value, hget, hread, rfl⟩)

theorem space_not_mem_of_numberKey {key : String} (h : key = fontSizeKey ∨ key = lineHeightKey) :
    ' ' ∉ key.toList := by
  rcases h with rfl | rfl
  · decide
  · decide

/-- A remark on a number is one on the value that is set under the same name. -/
theorem notNumeric_mem_checkProps_iff {prop : LineProp} (hprop : prop ∈ LineProp.all) :
    notNumeric prop.key value location ∈ checkProps props location ↔
      props.get? prop.key = some value ∧ Decimal.readUInt32? value.toList = none := by
  have hkey := LineProp.key_eq hprop
  rw [mem_checkProps_iff]
  constructor
  · rintro (hwidth | ⟨other, hother, hnumber⟩)
    · obtain ⟨set, -, -, heq⟩ := mem_checkWidth_iff.mp hwidth
      exact absurd heq.symm unusableWidth_ne_notNumeric
    · obtain ⟨set, hget, hread, heq⟩ := mem_checkNumber_iff.mp hnumber
      obtain ⟨hsame, rfl⟩ := notNumeric_inj (space_not_mem_of_numberKey hkey)
        (space_not_mem_of_numberKey hother) heq
      exact ⟨hsame ▸ hget, hread⟩
  · rintro ⟨hget, hread⟩
    exact Or.inr ⟨prop.key, hkey, mem_checkNumber_iff.mpr ⟨value, hget, hread, rfl⟩⟩

/-- The check remarks on a width exactly if no layout can use it, whatever its standard width is;
and it remarks on a font size or a line height exactly if there is no number in it, and so exactly
if every device takes the size or the height of the line from somewhere else.  A value without a
remark is used with exactly its numeric value, and as a width it may also be `auto`. -/
theorem remarks_agree_with_use (attrs : List Char) (location : Location) :
    let props := Markup.readProps attrs
    let remarks := checkProps props location
    (∀ value,
      (unusableWidth value location ∈ remarks ↔
        props.get? ColumnWidth.key = some value ∧ ColumnWidth.read? value = none) ∧
      (unusableWidth value location ∈ remarks ↔
        props.get? ColumnWidth.key = some value ∧
          ∀ colWidth, ColumnWidth.ofProps props colWidth = .fixed (min colWidth.toNat 65535)) ∧
      (props.get? ColumnWidth.key = some value → unusableWidth value location ∉ remarks →
        (value = "auto" ∧ ∀ colWidth, ColumnWidth.ofProps props colWidth = .auto) ∨
          ∃ n, Decimal.IsNumeral value.toList n ∧ 1 ≤ n ∧ n ≤ 65535 ∧
            ∀ colWidth, ColumnWidth.ofProps props colWidth = .fixed n)) ∧
    ∀ prop ∈ LineProp.all, ∀ value,
      (notNumeric prop.key value location ∈ remarks ↔
        props.get? prop.key = some value ∧ props.number? prop.key = none) ∧
      (notNumeric prop.key value location ∈ remarks ↔
        props.get? prop.key = some value ∧ prop.IsPassedOver value) ∧
      (props.get? prop.key = some value → notNumeric prop.key value location ∉ remarks →
        ∃ n : UInt32, Decimal.IsNumeral value.toList n.toNat ∧ prop.IsUsedAs value n) := by
  intro props remarks
  constructor
  · intro value
    refine ⟨unusableWidth_mem_checkProps_iff, ?_, ?_⟩
    · rw [unusableWidth_mem_checkProps_iff]
      refine and_congr_right fun hget => ?_
      have hplain := plainValue_of_get?_readProps hget
      exact (ColumnWidth.forall_ofProps_eq_standard_iff hplain hget).symm
    · intro hget hsilent
      rw [unusableWidth_mem_checkProps_iff, not_and] at hsilent
      have hplain := plainValue_of_get?_readProps hget
      exact ColumnWidth.forall_ofProps_of_read?_ne_none hplain hget (hsilent hget)
  · intro prop hprop value
    refine ⟨?_, ?_, ?_⟩
    · rw [notNumeric_mem_checkProps_iff hprop]
      refine and_congr_right fun hget => ?_
      rw [(plainValue_of_get?_readProps hget).number?_eq hget]
    · rw [notNumeric_mem_checkProps_iff hprop]
      refine and_congr_right fun hget => ?_
      exact (LineProp.isPassedOver_iff hprop (plainValue_of_get?_readProps hget)).symm
    · intro hget hsilent
      rw [notNumeric_mem_checkProps_iff hprop, not_and] at hsilent
      exact LineProp.exists_isUsedAs hprop (plainValue_of_get?_readProps hget) (hsilent hget)

/-- A usable width and a usable line height, and a font size that is no number. -/
def sizedProps : Props where
  entries := [("width", "080"), ("fontSize", "large"), ("lineHeight", "030")]
  nodup := by decide

theorem readProps_write_sizedProps : Markup.readProps sizedProps.write = sizedProps := by
  apply Markup.readProps_write
  intro entry hentry
  simp only [sizedProps, List.mem_cons, List.not_mem_nil, or_false] at hentry
  rcases hentry with rfl | rfl | rfl
  all_goals
    exact ⟨by decide, List.all_eq_true.mp (by decide), by decide,
      List.all_eq_true.mp (by decide), by decide⟩

theorem remarks_agree_with_use_sizedProps :
    ((Markup.readProps sizedProps.write).get? "width" = some "080" ∧
      unusableWidth "080" {} ∉ checkProps (Markup.readProps sizedProps.write) {} ∧
      ∀ colWidth, ColumnWidth.ofProps (Markup.readProps sizedProps.write) colWidth = .fixed 80) ∧
    (LineProp.size ∈ LineProp.all ∧
      notNumeric "fontSize" "large" {} ∈ checkProps (Markup.readProps sizedProps.write) {} ∧
      LineProp.size.IsPassedOver "large") ∧
    (LineProp.height ∈ LineProp.all ∧
      (Markup.readProps sizedProps.write).get? "lineHeight" = some "030" ∧
      notNumeric "lineHeight" "030" {} ∉ checkProps (Markup.readProps sizedProps.write) {} ∧
      LineProp.height.IsUsedAs "030" 30) := by
  have hremarks : checkProps (Markup.readProps sizedProps.write) {} =
      [notNumeric "fontSize" "large" {}] := by
    rw [readProps_write_sizedProps]
    decide
  have hwidthSet : (Markup.readProps sizedProps.write).get? "width" = some "080" := by
    rw [readProps_write_sizedProps]
    decide
  have hheightSet : (Markup.readProps sizedProps.write).get? "lineHeight" = some "030" := by
    rw [readProps_write_sizedProps]
    decide
  have hsize : LineProp.size ∈ LineProp.all := List.mem_cons_self
  have hheight : LineProp.height ∈ LineProp.all := List.mem_cons_of_mem _ List.mem_cons_self
  obtain ⟨hwidths, hnumbers⟩ := remarks_agree_with_use sizedProps.write {}
  rw [hremarks] at hwidths hnumbers ⊢
  refine ⟨⟨hwidthSet, by decide, ?_⟩, ⟨hsize, by decide, ?_⟩, hheight, hheightSet, by decide, ?_⟩
  · rcases (hwidths "080").2.2 hwidthSet (by decide) with ⟨hauto, -⟩ | ⟨n, hnumeral, -, -, hused⟩
    · exact absurd hauto (by decide)
    · obtain rfl : 80 = n := hnumeral.value
      exact hused
  · exact ((hnumbers _ hsize "large").2.1.mp (by decide)).2
  · obtain ⟨n, hnumeral, hused⟩ := (hnumbers _ hheight "030").2.2 hheightSet (by decide)
    obtain rfl : 30 = n := UInt32.toNat_inj.mp hnumeral.value
    exact hused

end Lint

end Receipt
