import Mathlib.Algebra.Order.Ring.Nat
import Receipt.Proofs.Device.Calls

/-!
# Where the lines of a batch stand

Lines are stacked if each starts at the left, and where the lines before it end.  Rows that are
queued by one call become stacked lines.  But every call starts at the top again, so the lines of a
batch that several calls have filled are stacked call by call, and lie over each other as a whole.

* `Stacked`: lines that stand below each other, and below something of a given height.
* `stacked_commands`: the rows of one call.
* `stacked_flatten_iff`: parts that are stacked one by one are stacked together only if what comes
  before a line of a later part has no height.
* `Device.Filled`: the calls that have filled the queue of a device.
* `Device.Filled.stacked_batch_iff`: what a print hands to the target, in any state of a device.
* `Device.not_forall_stacked`: two lines of one batch that start at the same place.
-/

namespace Receipt

/-! ## Lines below each other -/

/-- How high lines are together. -/
def totalHeight (lines : List Command) : Nat :=
  (lines.map fun line => line.box.height.toNat).sum

/-- The lines stand below something of the height `above`, and below each other.  What would start
below the largest measure starts there. -/
def Stacked (above : Nat) (lines : List Command) : Prop :=
  ∀ i (hi : i < lines.length),
    lines[i].box.x = 0 ∧
    lines[i].box.y.toNat = min (2 ^ 32 - 1) (above + totalHeight (lines.take i))

theorem totalHeight_cons (line : Command) (lines : List Command) :
    totalHeight (line :: lines) = line.box.height.toNat + totalHeight lines := by
  rw [totalHeight, List.map_cons, List.sum_cons, totalHeight]

theorem totalHeight_eq_zero_iff {lines : List Command} :
    totalHeight lines = 0 ↔ ∀ line ∈ lines, line.box.height = 0 := by
  rw [totalHeight, List.sum_eq_zero_iff_forall_eq_nat, List.forall_mem_map]
  constructor
  · intro h line hline
    exact UInt32.toNat_inj.mp (h line hline)
  · intro h line hline
    rw [h line hline]
    rfl

theorem stacked_nil (above : Nat) : Stacked above [] := by
  intro i hi
  exact absurd hi (Nat.not_lt_zero i)

theorem stacked_cons_iff {above : Nat} {line : Command} {lines : List Command} :
    Stacked above (line :: lines) ↔
      (line.box.x = 0 ∧ line.box.y.toNat = min (2 ^ 32 - 1) above) ∧
        Stacked (above + line.box.height.toNat) lines := by
  constructor
  · intro h
    refine ⟨h 0 (Nat.zero_lt_succ _), fun i hi => ?_⟩
    have hline := h (i + 1) (Nat.succ_lt_succ hi)
    rw [List.take_succ_cons, totalHeight_cons, ← Nat.add_assoc] at hline
    exact hline
  · rintro ⟨hfirst, hrest⟩ i hi
    cases i with
    | zero => exact hfirst
    | succ i =>
      rw [List.take_succ_cons, totalHeight_cons, ← Nat.add_assoc]
      exact hrest i (Nat.lt_of_succ_lt_succ hi)

theorem stacked_append_iff {above : Nat} {first second : List Command} :
    Stacked above (first ++ second) ↔
      Stacked above first ∧ Stacked (above + totalHeight first) second := by
  induction first generalizing above with
  | nil => exact ⟨fun h => ⟨stacked_nil above, h⟩, fun h => h.2⟩
  | cons line first ih =>
    rw [List.cons_append, stacked_cons_iff, stacked_cons_iff, ih, totalHeight_cons, ← Nat.add_assoc]
    exact and_assoc.symm

/-- Lines that are stacked are also stacked below something if that has no height, or if there is no
line. -/
theorem Stacked.below_iff {lines : List Command} (h : Stacked 0 lines) {above : Nat} :
    Stacked above lines ↔ lines = [] ∨ above = 0 := by
  constructor
  · intro habove
    cases lines with
    | nil => exact Or.inl rfl
    | cons line lines =>
      have hzero := (stacked_cons_iff.mp h).1.2
      have hline := (stacked_cons_iff.mp habove).1.2
      exact Or.inr (by omega)
  · rintro (rfl | rfl)
    · exact stacked_nil above
    · exact h

/-- Parts that are stacked one by one are stacked together if the parts before a line have no
height. -/
theorem stacked_flatten_iff {parts : List (List Command)} (h : ∀ part ∈ parts, Stacked 0 part)
    {above : Nat} :
    Stacked above parts.flatten ↔
      (above = 0 ∨ ∀ part ∈ parts, part = []) ∧
        parts.Pairwise fun earlier later => later = [] ∨ ∀ line ∈ earlier, line.box.height = 0 := by
  induction parts generalizing above with
  | nil => simp [stacked_nil]
  | cons part parts ih =>
    obtain ⟨hpart, hparts⟩ := List.forall_mem_cons.mp h
    have hflat : (∀ later ∈ parts, later = [] ∨ totalHeight part = 0) ↔
        totalHeight part = 0 ∨ ∀ later ∈ parts, later = [] := by
      by_cases hzero : totalHeight part = 0 <;> simp [hzero]
    rw [List.flatten_cons, stacked_append_iff, hpart.below_iff, ih hparts, List.pairwise_cons,
      List.forall_mem_cons]
    simp only [← totalHeight_eq_zero_iff]
    rw [hflat]
    by_cases habove : above = 0
    · simp [habove]
    · simp only [habove, Nat.add_eq_zero_iff, false_and, false_or, or_false, and_assoc]
      exact and_congr_right fun _ => and_congr_right fun hrest =>
        (and_iff_right (Or.inr hrest)).symm

/-! ## The rows of one call -/

theorem Device.toNat_addSaturating (a b : UInt32) :
    (addSaturating a b).toNat = min (2 ^ 32 - 1) (a.toNat + b.toNat) := by
  have ha := a.toNat_lt
  have hb := b.toNat_lt
  rw [addSaturating]
  split
  · rename_i h
    rw [UInt32.size] at h
    rw [UInt32.toNat_add]
    omega
  · rename_i h
    rw [UInt32.size] at h
    show 2 ^ 32 - 1 = _
    omega

theorem DeviceSettings.stacked_commandsFrom (settings : DeviceSettings) {above : Nat} {y : UInt32}
    (h : y.toNat = min (2 ^ 32 - 1) above) (rows : List Row) :
    Stacked above (settings.commandsFrom y rows) := by
  induction rows generalizing above y with
  | nil => exact stacked_nil above
  | cons row rows ih =>
    rw [commandsFrom, stacked_cons_iff]
    refine ⟨⟨rfl, h⟩, ih ?_⟩
    rw [Device.toNat_addSaturating, h]
    show _ = min _ (above + (settings.rowHeight row).toNat)
    omega

/-- Rows that are queued by one call become stacked lines. -/
theorem DeviceSettings.stacked_commands (settings : DeviceSettings) (rows : List Row) :
    Stacked 0 (settings.commands rows) :=
  settings.stacked_commandsFrom rfl rows

/-! ## The calls of a batch -/

namespace Device

variable {τ : Type} [PrintTarget τ]

/-- The states of a device, with the rows that have been queued since the last print, call by call.
Whoever owns the device may also change its target at any time. -/
inductive Filled : List (List Row) → Device τ → Prop
  | new (target : τ) (settings : DeviceSettings) : Filled [] (new target settings)
  | addRows {calls : List (List Row)} {device : Device τ} (h : Filled calls device)
      (rows : List Row) : Filled (calls ++ [rows]) (device.addRows rows)
  | print {calls : List (List Row)} {device : Device τ} (h : Filled calls device) (root : Block) :
      Filled [] (device.print root).device
  | reset {calls : List (List Row)} {device : Device τ} (h : Filled calls device) :
      Filled calls device.reset
  | change {calls : List (List Row)} {device : Device τ} (h : Filled calls device) (target : τ) :
      Filled calls { device with target }

/-- Every state that the operations lead to is one of these. -/
theorem reachable_iff_filled {device : Device τ} :
    device.Reachable ↔ ∃ calls, Filled calls device := by
  constructor
  · intro h
    induction h with
    | new target settings => exact ⟨_, Filled.new target settings⟩
    | addRows _ rows ih =>
      obtain ⟨calls, h⟩ := ih
      exact ⟨_, h.addRows rows⟩
    | print _ root ih =>
      obtain ⟨calls, h⟩ := ih
      exact ⟨_, h.print root⟩
    | reset _ ih =>
      obtain ⟨calls, h⟩ := ih
      exact ⟨_, h.reset⟩
    | change _ target ih =>
      obtain ⟨calls, h⟩ := ih
      exact ⟨_, h.change target⟩
  · rintro ⟨calls, h⟩
    induction h with
    | new target settings => exact Reachable.new target settings
    | addRows _ rows ih => exact ih.addRows rows
    | print _ root ih => exact ih.print root
    | reset _ ih => exact ih.reset
    | change _ target ih => exact ih.change target

/-- The lines that calls queue, call by call. -/
def parts (device : Device τ) (calls : List (List Row)) : List (List Command) :=
  calls.map device.settings.commands

theorem Filled.queue_eq {calls : List (List Row)} {device : Device τ} (h : Filled calls device) :
    device.queue = (device.parts calls).flatten := by
  induction h with
  | new target settings => rfl
  | @addRows calls device h rows ih =>
    have hadded := (reachable_iff_filled.mpr ⟨calls, h⟩).atRest.addRows rows
    rw [parts, hadded.settings, hadded.queue, ih, List.map_append, List.flatten_append, parts]
    simp
  | @print calls device h root ih =>
    exact ((reachable_iff_filled.mpr ⟨calls, h⟩).atRest.clean_print root).queue
  | reset h ih => exact ih
  | change h target ih => exact ih

/-- What a print hands to the target: the lines of the calls that have filled the queue and of the
print itself.  They all start at the left, and those of one call are stacked.  The lines of the
whole batch are stacked exactly if no call has queued a line after another call had queued one that
has a height. -/
theorem Filled.stacked_batch_iff {calls : List (List Row)} {device : Device τ}
    (h : Filled calls device) (root : Block) :
    let parts := device.parts (calls ++ [root.rows])
    Emission parts.flatten (device.callsOfPrint root) (device.print root).status ∧
    (∀ line ∈ parts.flatten, line.box.x = 0) ∧
    (∀ part ∈ parts, Stacked 0 part) ∧
    (Stacked 0 parts.flatten ↔
      parts.Pairwise fun earlier later =>
        later = [] ∨ ∀ line ∈ earlier, line.box.height = 0) := by
  intro parts
  have hparts : ∀ part ∈ parts, Stacked 0 part := by
    intro part hpart
    obtain ⟨rows, -, rfl⟩ := List.mem_map.mp hpart
    exact device.settings.stacked_commands rows
  have hbatch : parts.flatten = device.queue ++ device.settings.commands root.rows := by
    rw [h.queue_eq]
    show (List.map _ _).flatten = (List.map _ _).flatten ++ _
    simp
  refine ⟨?_, ?_, hparts, ?_⟩
  · rw [hbatch]
    exact ((reachable_iff_filled.mpr ⟨calls, h⟩).atRest.print_recorded root).2
  · intro line hline
    obtain ⟨part, hpart, hmem⟩ := List.mem_flatten.mp hline
    obtain ⟨i, hi, rfl⟩ := List.mem_iff_getElem.mp hmem
    exact (hparts part hpart i hi).1
  · rw [stacked_flatten_iff hparts]
    exact and_iff_right (Or.inl rfl)

/-! ### A line over another -/

/-- A device with one line in its queue. -/
def oneQueued : Device MemoryTarget :=
  (new {} {}).addRows [{ text := "a" }]

/-- A document of one line. -/
def oneLine : Block where
  name := "tr"
  children := [{ name := "td", text := "b" }]

theorem filled_oneQueued : Filled [[{ text := "a" }]] oneQueued :=
  (Filled.new _ _).addRows _

theorem Filled.stacked_batch_oneQueued :
    Filled [[{ text := "a" }]] oneQueued ∧
    (∀ part ∈ oneQueued.parts ([[{ text := "a" }]] ++ [oneLine.rows]), Stacked 0 part) ∧
    ¬ Stacked 0 (oneQueued.parts ([[{ text := "a" }]] ++ [oneLine.rows])).flatten := by
  obtain ⟨-, -, hparts, hiff⟩ := filled_oneQueued.stacked_batch_iff oneLine
  exact ⟨filled_oneQueued, hparts, fun hstacked => absurd (hiff.mp hstacked) (by decide)⟩

/-- A line that was queued before a print is printed where the first line of the print stands. -/
theorem not_forall_stacked :
    ((oneQueued.print oneLine).device.target.batches.map fun batch =>
      batch.map fun line => (line.text, line.box.y, line.box.height)) =
        [[("a", 0, 30), ("b", 0, 30)]] ∧
    ¬ ∀ (calls : List (List Row)) (device : Device MemoryTarget) (root : Block)
        (batch : List Command),
      Filled calls device → device.target.pending = [] →
        (device.print root).device.target.batches = device.target.batches ++ [batch] →
        Stacked 0 batch := by
  refine ⟨by decide, fun hall => ?_⟩
  have hbatch : (oneQueued.print oneLine).device.target.batches = [] ++
      [oneQueued.queue ++ oneQueued.settings.commands oneLine.rows] := by decide
  have hstacked := hall _ oneQueued oneLine _ filled_oneQueued rfl hbatch
  have hsecond := (hstacked 1 (by decide)).2
  exact absurd hsecond (by decide)

end Device

end Receipt
