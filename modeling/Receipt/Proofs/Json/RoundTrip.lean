import Receipt.Json.Document
import Receipt.Json.Print
import Receipt.Proofs.Json.Values
import Receipt.Proofs.Props

/-!
# Documents, rows, commands and configurations read back

What is written in JSON for a document is read as that document, and so for a row, a command and a
configuration.  The texts are read as the values that were written (`Receipt.Proofs.Json.Values`),
so what is left is that each record is read back from its own JSON.  A record that is written with
all of its fields in order gives back their values (`fields?_object`), and the pairs of an object of
texts give back the props with their order (`props?_ofProps`).

* `written_readsBack` puts these together.  A document is read back exactly if it is not nested
  deeper than JSON may be; rows, commands and configurations are never nested that deep.
* A document that was read is always read back.  It may have been written in another way, with
  nodes as arrays and with fields that are missing or mean nothing, and then it is written with
  more arrays and objects than before, but with one level more at most (`depth_of_read`).  Since a
  document is written with an odd number of levels (`depth_ofNodes_even`), that level is still
  within the limit.
-/

namespace Receipt.Json

variable {α : Type}

/-! ## Reading back -/

/-- What a text is read as, by a reader of its JSON. -/
def readText? (read : Json → Option α) (text : String) : Option α :=
  (read? text).bind read

/-- The JSON of a value, on one line and over several, is read as that value. -/
def ReadsBack (write : α → Json) (read : Json → Option α) (value : α) : Prop :=
  readText? read (write value).compact = some value ∧
    readText? read (write value).pretty = some value

/-- What is read back from its JSON is read back from the text, unless it is nested too deep. -/
theorem readsBack_iff {write : α → Json} {read : Json → Option α} {value : α}
    (hread : read (write value) = some value) (hwhole : (write value).IsWhole) :
    ReadsBack write read value ↔ (write value).depth ≤ depthLimit := by
  rw [ReadsBack, readText?, readText?, read?_compact hwhole, read?_pretty hwhole]
  by_cases h : (write value).depth ≤ depthLimit <;> simp [h, hread]

/-! ## Records -/

/-- Fields that are written in order are found in that order. -/
theorem map_member?_zip {names : List String} (hnodup : names.Nodup) {values : List Json}
    (hlength : names.length = values.length) :
    names.map (fun name => member? name (names.zip values)) = values.map some := by
  induction names generalizing values with
  | nil => rw [List.length_eq_zero_iff.mp hlength.symm]; rfl
  | cons name names ih =>
    cases values with
    | nil => simp at hlength
    | cons value values =>
      rw [List.nodup_cons] at hnodup
      have hlater : names.map (fun other => member? other ((name, value) :: names.zip values)) =
          names.map fun other => member? other (names.zip values) := by
        apply List.map_congr_left
        intro other hother
        have hne : other ≠ name := fun e => hnodup.1 (e ▸ hother)
        show List.lookup other _ = List.lookup other _
        rw [List.lookup_cons, beq_false_of_ne hne]
      rw [List.zip_cons_cons, List.map_cons, hlater, ih hnodup.2 (Nat.succ.inj hlength),
        List.map_cons]
      show List.lookup name _ :: _ = _
      rw [List.lookup_cons_self]

/-- The fields of a record that is written with all of them in order. -/
theorem fields?_object (strict : Bool) (names : List String) (values : List Json)
    (hnodup : names.Nodup) (hlength : names.length = values.length) :
    fields? strict names (object (names.zip values)) = some (values.map some) := by
  have hfst : (names.zip values).map Prod.fst = names :=
    List.map_fst_zip (Nat.le_of_eq hlength)
  have hcount : ∀ name, (names.zip values).countP (·.1 == name) = names.count name := by
    intro name
    rw [List.count, ← hfst, List.countP_map, hfst]
    rfl
  rw [fields?, if_pos, map_member?_zip hnodup hlength]
  simp only [hcount, List.all_eq_true, decide_eq_true_eq]
  exact fun name _ => List.nodup_iff_count.mp hnodup name

theorem pairs?_map (entries : List (String × String)) :
    pairs? (entries.map fun (name, value) => (name, string value)) = some entries := by
  induction entries with
  | nil => rfl
  | cons entry entries ih =>
    rw [List.map_cons, pairs?, ih]
    rfl

/-- Props are read back in their order. -/
theorem props?_ofProps (props : Props) : props? (ofProps props) = some props := by
  rw [ofProps, props?, pairs?_map, Option.map_some, Props.ofPairs_entries]

theorem uint32?_toNat (n : UInt32) : uint32? (integer n.toNat) = some n := by
  show (if n.toNat < UInt32.size then some n.toNat else none).map UInt32.ofNat = some n
  rw [if_pos n.toNat_lt_size, Option.map_some, UInt32.ofNat_toNat]

theorem uint64?_toNat (n : UInt64) : uint64? (integer n.toNat) = some n := by
  show (if n.toNat < UInt64.size then some n.toNat else none).map UInt64.ofNat = some n
  rw [if_pos n.toNat_lt_size, Option.map_some, UInt64.ofNat_toNat]

/-! ## Rows, commands and configurations -/

theorem row?_ofRow (row : Row) : row? (ofRow row) = some row := by
  have hfields : fields? true ["text", "props"] (ofRow row) =
      some [some (string row.text), some (ofProps row.props)] :=
    fields?_object true _ [_, _] (by decide) rfl
  simp [row?, hfields, string?, props?_ofProps]

theorem font?_ofFont (font : Font) : font? (ofFont font) = some font := by
  have hfields : fields? true ["iFontSize", "strFontName"] (ofFont font) =
      some [some (integer font.size.toNat), some (string font.name)] :=
    fields?_object true _ [_, _] (by decide) rfl
  simp [font?, hfields, string?, uint32?_toNat]

theorem box?_ofBox (box : LineBox) : box? (ofBox box) = some box := by
  have hfields : fields? true ["iHeight", "iX", "iY"] (ofBox box) =
      some [some (integer box.height.toNat), some (integer box.x.toNat),
        some (integer box.y.toNat)] :=
    fields?_object true _ [_, _, _] (by decide) rfl
  simp [box?, hfields, uint32?_toNat]

theorem command?_ofCommand (command : Command) : command? (ofCommand command) = some command := by
  have hfields : fields? true ["text", "font", "line_box"] (ofCommand command) =
      some [some (string command.text), some (ofFont command.font), some (ofBox command.box)] :=
    fields?_object true _ [_, _, _] (by decide) rfl
  simp [command?, hfields, string?, font?_ofFont, box?_ofBox]

theorem options?_ofOptions (strict : Bool) (options : LayoutOptions) :
    options? strict (ofOptions options) = some options := by
  have hfields : fields? strict ["col_width", "border_width"] (ofOptions options) =
      some [some (integer options.colWidth.toNat), some (integer options.borderWidth.toNat)] :=
    fields?_object strict _ [_, _] (by decide) rfl
  simp [options?, hfields, orDefault, uint64?_toNat]

theorem settings?_ofSettings (strict : Bool) (settings : DeviceSettings) :
    settings? strict (ofSettings settings) = some settings := by
  have hfields : fields? strict ["font_size", "font_family", "line_height"]
      (ofSettings settings) = _ :=
    fields?_object strict _ [_, _, _] (by decide) rfl
  obtain ⟨fontSize, fontFamily, lineHeight⟩ := settings
  cases lineHeight with
  | none => simp [settings?, hfields, orDefault, string?, uint32?_toNat, nullable]
  | some height => simp [settings?, hfields, orDefault, string?, uint32?_toNat, nullable]

theorem config?_ofConfig (strict : Bool) (config : Config) :
    config? strict (ofConfig config) = some config := by
  have hfields : fields? strict ["layout", "device"] (ofConfig config) =
      some [some (ofOptions config.layout), some (ofSettings config.device)] :=
    fields?_object strict _ [_, _] (by decide) rfl
  simp [config?, hfields, orDefault, options?_ofOptions, settings?_ofSettings]

/-! ## Documents -/

/-- A node is an object of its three fields. -/
theorem node?_object (name : String) (props : Props) {json : Json} (content : Content)
    (h : content? json = some content) :
    node? (object [("type", string name), ("props", ofProps props), ("children", json)]) =
      some (Node.ofContent name props content) := by
  have hfields : fields? true nodeFields
      (object [("type", string name), ("props", ofProps props), ("children", json)]) =
        some [some (string name), some (ofProps props), some json] :=
    fields?_object true nodeFields [_, _, _] (by decide) rfl
  have hcontent : contentAmong?
      [("type", string name), ("props", ofProps props), ("children", json)] = some content := by
    simp [contentAmong?, h]
  simp [node?, hfields, hcontent, orDefault, props?_ofProps]

mutual

theorem node?_ofNode : ∀ node : Node, node? (ofNode node) = some node
  | .leaf name props text => node?_object name props (.text text) rfl
  | .branch name props children => by
    rw [ofNode, node?_object name props (.nodes children)]
    · rfl
    · rw [content?, nodes?_ofNodes children, Option.map_some]

theorem nodes?_ofNodes : ∀ nodes : List Node, nodes? (ofNodes nodes) = some nodes
  | [] => rfl
  | node :: nodes => by
    rw [ofNodes, nodes?, node?_ofNode node, nodes?_ofNodes nodes]
    rfl

end

/-! ## How deep the JSON is -/

theorem depth_ofProps (props : Props) : (ofProps props).depth = 1 := by
  have hflat :
      depthOfMembers (props.entries.map fun (name, value) => (name, string value)) ≤ 0 := by
    rw [depthOfMembers_le_iff]
    intro pair hpair
    obtain ⟨entry, -, rfl⟩ := List.mem_map.mp hpair
    exact Nat.le_refl 0
  rw [ofProps, depth, Nat.le_zero.mp hflat]

theorem depth_ofNode_ofContent (name : String) (props : Props) (content : Content) :
    (ofNode (Node.ofContent name props content)).depth = max 1 (ofContent content).depth + 1 := by
  cases content <;> simp [Node.ofContent, ofNode, ofContent, depth, depthOfMembers, depth_ofProps]

mutual

/-- A node has an even number of levels: its object and an array or an object in it. -/
theorem depth_ofNode_even : ∀ node : Node, (ofNode node).depth % 2 = 0
  | .leaf name props text => by
    show (ofNode (Node.ofContent name props (.text text))).depth % 2 = 0
    simp [depth_ofNode_ofContent, ofContent, depth]
  | .branch name props children => by
    have hchildren := depthOfAll_ofNodes_even children
    show (ofNode (Node.ofContent name props (.nodes children))).depth % 2 = 0
    rw [depth_ofNode_ofContent, ofContent, depth]
    omega

theorem depthOfAll_ofNodes_even : ∀ nodes : List Node, depthOfAll (ofNodes nodes) % 2 = 0
  | [] => rfl
  | node :: nodes => by
    have hnode := depth_ofNode_even node
    have hnodes := depthOfAll_ofNodes_even nodes
    rw [ofNodes, depthOfAll]
    omega

end

/-- A node in JSON has one level more than what it was read from, at most. -/
theorem depth_of_read :
    (∀ json node, node? json = some node → (ofNode node).depth ≤ json.depth + 1) ∧
    (∀ json content, content? json = some content →
      (ofContent content).depth ≤ json.depth + 1) ∧
    (∀ items nodes, nodes? items = some nodes →
      depthOfAll (ofNodes nodes) ≤ depthOfAll items + 1) ∧
    ∀ members content, contentAmong? members = some content →
      (ofContent content).depth ≤ depthOfMembers members + 1 := by
  apply node?.mutual_induct
  case case1 =>
    intro members ih node h
    simp only [node?, Option.bind_eq_bind, Option.bind_eq_some_iff] at h
    obtain ⟨fields, -, content, hcontent, h⟩ := h
    split at h
    · obtain ⟨props, -, rfl⟩ := Option.map_eq_some_iff.mp h
      have hdepth := ih content hcontent
      rw [depth_ofNode_ofContent, depth]
      omega
    · simp at h
  case case2 =>
    intro name node h
    obtain rfl : .branch name ∅ [] = node := by simpa [node?] using h
    simp [ofNode, ofNodes, depth, depthOfMembers, depthOfAll, depth_ofProps]
  case case3 =>
    intro name json node h
    obtain ⟨props, -, rfl⟩ := Option.map_eq_some_iff.mp h
    simp [ofNode, ofNodes, depth, depthOfMembers, depthOfAll, depth_ofProps]
  case case4 =>
    intro name json inner ih node h
    simp only [node?, Option.bind_eq_bind, Option.bind_eq_some_iff, Option.pure_def,
      Option.some.injEq] at h
    obtain ⟨props, -, content, hcontent, rfl⟩ := h
    have hdepth := ih content hcontent
    rw [depth_ofNode_ofContent]
    simp only [depth, depthOfAll]
    omega
  case case5 =>
    intro json hobject h₁ h₂ h₃ node h
    rw [node?.eq_5 json hobject h₁ h₂ h₃] at h
    simp at h
  case case6 =>
    intro text content h
    obtain rfl : .text text = content := by simpa [content?] using h
    simp [ofContent, depth]
  case case7 =>
    intro items ih content h
    obtain ⟨nodes, hnodes, rfl⟩ := Option.map_eq_some_iff.mp h
    exact Nat.succ_le_succ (ih nodes hnodes)
  case case8 =>
    intro json hstring harray content h
    rw [content?.eq_3 json hstring harray] at h
    simp at h
  case case9 =>
    intro nodes h
    obtain rfl : [] = nodes := by simpa [nodes?] using h
    exact Nat.zero_le _
  case case10 =>
    intro item items ihitem ihitems nodes h
    simp only [nodes?, Option.bind_eq_bind, Option.bind_eq_some_iff, Option.pure_def,
      Option.some.injEq] at h
    obtain ⟨node, hnode, more, hmore, rfl⟩ := h
    have hfirst := ihitem node hnode
    have hothers := ihitems more hmore
    rw [ofNodes, depthOfAll, depthOfAll]
    omega
  case case11 =>
    intro content h
    obtain rfl : .nodes [] = content := by simpa [contentAmong?] using h
    exact Nat.le_refl 1
  case case12 =>
    intro json members ih content h
    rw [contentAmong?, if_pos rfl] at h
    have hdepth := ih content h
    rw [depthOfMembers]
    omega
  case case13 =>
    intro name json members hname ih content h
    rw [contentAmong?, if_neg hname] at h
    have hdepth := ih content h
    rw [depthOfMembers]
    omega

/-! ## All numbers are whole -/

theorem isWhole_ofProps (props : Props) : (ofProps props).IsWhole := by
  show MembersAreWhole (props.entries.map fun (name, value) => (name, string value))
  induction props.entries with
  | nil => exact trivial
  | cons entry entries ih => exact ⟨trivial, ih⟩

mutual

theorem isWhole_ofNode : ∀ node : Node, (ofNode node).IsWhole
  | .leaf _ props _ => ⟨trivial, isWhole_ofProps props, trivial, trivial⟩
  | .branch _ props children => ⟨trivial, isWhole_ofProps props, areWhole_ofNodes children, trivial⟩

theorem areWhole_ofNodes : ∀ nodes : List Node, AreWhole (ofNodes nodes)
  | [] => trivial
  | node :: nodes => ⟨isWhole_ofNode node, areWhole_ofNodes nodes⟩

end

theorem isWhole_ofConfig (config : Config) : (ofConfig config).IsWhole := by
  cases hheight : config.device.lineHeight <;>
    simp [ofConfig, ofOptions, ofSettings, hheight, IsWhole, MembersAreWhole]

/-! ## The texts -/

/-- A document is read back exactly if it is not nested too deep. -/
theorem document_readsBack_iff (nodes : List Node) :
    ReadsBack ofDocument document? nodes ↔ (ofDocument nodes).depth < 128 := by
  have hread : document? (ofDocument nodes) = some nodes := nodes?_ofNodes nodes
  have hwhole : (ofDocument nodes).IsWhole := areWhole_ofNodes nodes
  exact (readsBack_iff hread hwhole).trans Nat.lt_succ_iff.symm

/-- A document that was read from some text is read back. -/
theorem document_readsBack_of_read {text : String} {nodes : List Node}
    (h : readText? document? text = some nodes) : ReadsBack ofDocument document? nodes := by
  rw [document_readsBack_iff]
  obtain ⟨json, hjson, hread⟩ := Option.bind_eq_some_iff.mp h
  have hlimit : json.depth ≤ 127 := depth_le_of_read? hjson
  cases json with
  | array items =>
    have hlevels := depth_of_read.2.2.1 items nodes hread
    have heven := depthOfAll_ofNodes_even nodes
    rw [depth] at hlimit
    rw [ofDocument, depth]
    omega
  | null | bool | integer | decimal | string | object => simp [document?] at hread

theorem row_readsBack (row : Row) : ReadsBack ofRow row? row := by
  have hdepth : (ofRow row).depth = 2 := by
    simp [ofRow, depth, depthOfMembers, depth_ofProps]
  rw [readsBack_iff (row?_ofRow row) ⟨trivial, isWhole_ofProps row.props, trivial⟩, hdepth]
  decide

theorem command_readsBack (command : Command) : ReadsBack ofCommand command? command := by
  have hwhole : (ofCommand command).IsWhole := by
    simp [ofCommand, ofFont, ofBox, IsWhole, MembersAreWhole]
  have hdepth : (ofCommand command).depth = 2 := by
    simp [ofCommand, ofFont, ofBox, depth, depthOfMembers]
  rw [readsBack_iff (command?_ofCommand command) hwhole, hdepth]
  decide

theorem config_readsBack (config : Config) : ReadsBack ofConfig (config? true) config := by
  have hdepth : (ofConfig config).depth = 2 := by
    cases hheight : config.device.lineHeight <;>
      simp [ofConfig, ofOptions, ofSettings, hheight, depth, depthOfMembers]
  rw [readsBack_iff (config?_ofConfig true config) (isWhole_ofConfig config), hdepth]
  decide

/-- What is written in JSON is read back, on one line or over several: every document that is
nested in fewer than 128 levels, every row, every command and every configuration.  A document that
was read from some text, however that was written, is always nested in fewer levels. -/
theorem written_readsBack :
    (∀ nodes, ReadsBack ofDocument document? nodes ↔ (ofDocument nodes).depth < 128) ∧
    (∀ row, ReadsBack ofRow row? row) ∧
    (∀ command, ReadsBack ofCommand command? command) ∧
    (∀ config, ReadsBack ofConfig (config? true) config) ∧
    ∀ text nodes, readText? document? text = some nodes → ReadsBack ofDocument document? nodes :=
  ⟨document_readsBack_iff, row_readsBack, command_readsBack, config_readsBack,
    fun _ _ => document_readsBack_of_read⟩

/-- A text in which one node is an array, and the other is an object without props and children, and
with a member that means nothing. -/
theorem read?_mixedNodes : read?
    "[[\"td\",\x7b\"width\":\"3\"\x7d,\"a\\\"\\u00e9\"], \x7b\"note\":1.5,\"type\":\"tr\"\x7d]" =
      some (array [array [string "td", object [("width", string "3")], string "a\"é"],
        object [("note", decimal "1.5"), ("type", string "tr")]]) := by
  have hend (rest : List Char) : readChars? ('"' :: rest) = some ([], rest) :=
    readChars?_flatMap_escapeChar [] rest
  have hquote (rest : List Char) : readChars? ('\\' :: '"' :: rest) =
      (readChars? rest).map fun read => ('"' :: read.1, read.2) := readChars?_escape rfl
  have haccent (rest : List Char) :
      readChars? ('\\' :: 'u' :: '0' :: '0' :: 'e' :: '9' :: rest) =
        (readChars? rest).map fun read => ('é' :: read.1, read.2) := readChars?_escape rfl
  simp [read?, depthLimit, readValue?, readItems?, readMore?, readMember?, readString?, hend,
    hquote, haccent, readChars?_cons, readNumber?, readUnsigned?, readWhole?, readDigits?,
    readFraction?, readExponent?, skipSpaces, isSpace]

theorem written_readsBack_mixedNodes :
    readText? document?
      "[[\"td\",\x7b\"width\":\"3\"\x7d,\"a\\\"\\u00e9\"], \x7b\"note\":1.5,\"type\":\"tr\"\x7d]" =
        some [.leaf "td" (.ofPairs [("width", "3")]) "a\"é", .branch "tr" ∅ []] ∧
      ReadsBack ofDocument document?
        [.leaf "td" (.ofPairs [("width", "3")]) "a\"é", .branch "tr" ∅ []] := by
  refine ⟨?read, written_readsBack.2.2.2.2 _ _ ?read⟩
  case read =>
    rw [readText?, read?_mixedNodes]
    rfl

end Receipt.Json
