import Mathlib.Data.List.Induction
import Receipt.Props

/-!
# What setting props does

`Props.setEntry` replaces the value of a name that is present and appends one that is not.  From
these two cases follows what setting many names does: `Props.entries_setAll` gives the entries that
result when the names to set are distinct.

* `Props.ofPairs_entries` is the special case in which nothing was set before.
* `Props.entries_merge` is the special case of setting one node's props on top of another's.

Where the names to set may repeat, each has its first place (`Props.map_fst_ofPairs`) and its last
value (`Props.get?_ofPairs`).
-/

namespace Receipt.Props

variable {key value : String} {entries pairs : List (String × String)}

theorem lookup_of_not_mem {α : Type} {pairs : List (String × α)}
    (h : key ∉ pairs.map Prod.fst) : pairs.lookup key = none := by
  rw [List.lookup_eq_none_iff]
  intro pair hpair
  have hne : key ≠ pair.1 := fun e => h (List.mem_map.mpr ⟨pair, hpair, e.symm⟩)
  simpa using hne

/-- The entries with the values of `pairs` in the place of their own. -/
def overlay (pairs entries : List (String × String)) : List (String × String) :=
  entries.map fun entry => (entry.1, (pairs.lookup entry.1).getD entry.2)

@[simp] theorem overlay_nil (entries : List (String × String)) : overlay [] entries = entries := by
  simp [overlay]

theorem overlay_append (first second : List (String × String)) :
    overlay pairs (first ++ second) = overlay pairs first ++ overlay pairs second := by
  simp [overlay]

theorem setEntry_of_not_mem (h : key ∉ entries.map Prod.fst) (value : String) :
    setEntry key value entries = entries ++ [(key, value)] := by
  induction entries with
  | nil => rfl
  | cons entry rest ih =>
    obtain ⟨name, old⟩ := entry
    simp only [List.map_cons, List.mem_cons, not_or] at h
    rw [setEntry, if_neg (Ne.symm h.1), ih h.2, List.cons_append]

theorem overlay_of_not_mem (h : key ∉ entries.map Prod.fst) (value : String)
    (pairs : List (String × String)) :
    overlay ((key, value) :: pairs) entries = overlay pairs entries := by
  apply List.map_congr_left
  intro entry hentry
  have hne : entry.1 ≠ key := fun e => h (List.mem_map.mpr ⟨entry, hentry, e⟩)
  rw [List.lookup_cons, beq_false_of_ne hne]

theorem lookup_setEntry_self (key value : String) (entries : List (String × String)) :
    (setEntry key value entries).lookup key = some value := by
  induction entries with
  | nil => rw [setEntry, List.lookup_cons_self]
  | cons entry rest ih =>
    obtain ⟨name, old⟩ := entry
    by_cases hname : name = key
    · rw [setEntry, if_pos hname, List.lookup_cons_self]
    · rw [setEntry, if_neg hname, List.lookup_cons, beq_false_of_ne (Ne.symm hname)]
      exact ih

/-- A name has the value that it was set to. -/
theorem get?_set_self (props : Props) (key value : String) :
    (props.set key value).get? key = some value :=
  lookup_setEntry_self key value props.entries

theorem lookup_setEntry_of_ne {name : String} (h : name ≠ key) (value : String)
    (entries : List (String × String)) :
    (setEntry key value entries).lookup name = entries.lookup name := by
  induction entries with
  | nil => rw [setEntry, List.lookup_cons, beq_false_of_ne h]
  | cons entry rest ih =>
    obtain ⟨other, old⟩ := entry
    by_cases hother : other = key
    · subst hother
      rw [setEntry, if_pos rfl, List.lookup_cons, List.lookup_cons, beq_false_of_ne h]
    · rw [setEntry, if_neg hother, List.lookup_cons, List.lookup_cons, ih]

/-- The other names keep their values. -/
theorem get?_set_of_ne (props : Props) {name : String} (h : name ≠ key) (value : String) :
    (props.set key value).get? name = props.get? name :=
  lookup_setEntry_of_ne h value props.entries

/-- Of the values that a name is set to, it has the last. -/
theorem get?_setAll (props : Props) (pairs : List (String × String)) (name : String) :
    (props.setAll pairs).get? name = (pairs.reverse.lookup name).or (props.get? name) := by
  induction pairs generalizing props with
  | nil => rfl
  | cons pair pairs ih =>
    obtain ⟨key, value⟩ := pair
    have hset : (props.set key value).get? name =
        ([(key, value)].lookup name).or (props.get? name) := by
      by_cases h : name = key
      · rw [h, get?_set_self, List.lookup_cons_self, Option.some_or]
      · rw [get?_set_of_ne props h, List.lookup_cons, beq_false_of_ne h, List.lookup_nil,
          Option.none_or]
    rw [setAll_cons, ih, hset, List.reverse_cons, List.lookup_append, Option.or_assoc]

theorem get?_ofPairs (pairs : List (String × String)) (name : String) :
    (ofPairs pairs).get? name = pairs.reverse.lookup name := by
  rw [ofPairs, get?_setAll]
  exact Option.or_none

/-- Names that are set one after the other have the places in which they were first set. -/
theorem map_fst_ofPairs (pairs : List (String × String)) :
    (ofPairs pairs).entries.map Prod.fst = (pairs.map Prod.fst).eraseDups := by
  induction pairs using List.reverseRecOn with
  | nil => rfl
  | append_singleton pairs pair ih =>
    rw [ofPairs, setAll_append, setAll_cons, setAll_nil, entries_set, map_fst_setEntry, ← ofPairs,
      ih, List.map_append, List.map_singleton, List.eraseDups_append]
    by_cases hmem : pair.1 ∈ pairs.map Prod.fst
    · have hold : [pair.1].removeAll (pairs.map Prod.fst) = [] :=
        List.filter_cons_of_neg (by simpa using hmem)
      rw [if_pos (List.mem_eraseDups.mpr hmem), hold]
      exact (List.append_nil _).symm
    · have hnew : [pair.1].removeAll (pairs.map Prod.fst) = [pair.1] :=
        List.filter_cons_of_pos (by simpa using hmem)
      rw [if_neg fun h => hmem (List.mem_eraseDups.mp h), hnew]
      rfl

/-- Setting a name that is present and then other names sets them all in their places. -/
theorem overlay_setEntry (hnodup : (entries.map Prod.fst).Nodup) (h : key ∈ entries.map Prod.fst)
    (hpairs : key ∉ pairs.map Prod.fst) (value : String) :
    overlay pairs (setEntry key value entries) = overlay ((key, value) :: pairs) entries := by
  induction entries with
  | nil => simp at h
  | cons entry rest ih =>
    obtain ⟨name, old⟩ := entry
    rw [List.map_cons, List.nodup_cons] at hnodup
    by_cases hname : name = key
    · subst hname
      have hlookup := lookup_of_not_mem hpairs
      have hrest := overlay_of_not_mem hnodup.1 value pairs
      rw [setEntry, if_pos rfl]
      simp only [overlay, List.map_cons] at hrest ⊢
      rw [hrest, hlookup]
      simp
    · have hmem : key ∈ rest.map Prod.fst := by
        rcases List.mem_cons.mp h with e | hmem
        · exact absurd e.symm hname
        · exact hmem
      have hrest := ih hnodup.2 hmem
      rw [setEntry, if_neg hname]
      simp only [overlay, List.map_cons] at hrest ⊢
      rw [hrest, List.lookup_cons, beq_false_of_ne hname]

/-- Distinct names that are set replace the values of those that are present, and those that are
not are appended in order. -/
theorem entries_setAll (props : Props) (h : (pairs.map Prod.fst).Nodup) :
    (props.setAll pairs).entries =
      overlay pairs props.entries ++
        pairs.filter fun pair => decide (pair.1 ∉ props.entries.map Prod.fst) := by
  induction pairs generalizing props with
  | nil => simp
  | cons pair pairs ih =>
    obtain ⟨key, value⟩ := pair
    rw [List.map_cons, List.nodup_cons] at h
    rw [setAll_cons, ih (props.set key value) h.2, entries_set, map_fst_setEntry]
    by_cases hmem : key ∈ props.entries.map Prod.fst
    · rw [if_pos hmem, overlay_setEntry props.nodup hmem h.1, List.filter_cons_of_neg]
      simpa using hmem
    · have hfilter : (pairs.filter fun pair =>
          decide (pair.1 ∉ props.entries.map Prod.fst ++ [key])) =
          pairs.filter fun pair => decide (pair.1 ∉ props.entries.map Prod.fst) := by
        apply List.filter_congr
        intro pair hpair
        have hne : pair.1 ≠ key := fun e => h.1 (List.mem_map.mpr ⟨pair, hpair, e⟩)
        simp [hne]
      have hlookup := lookup_of_not_mem h.1
      rw [if_neg hmem, setEntry_of_not_mem hmem, overlay_append, hfilter,
        overlay_of_not_mem hmem, List.filter_cons_of_pos (by simpa using hmem)]
      simp [overlay, hlookup]

/-- Setting the entries of some props one after the other gives those props. -/
theorem ofPairs_entries (props : Props) : ofPairs props.entries = props := by
  apply Props.ext
  rw [ofPairs, entries_setAll empty props.nodup]
  show overlay props.entries [] ++ _ = _
  simp [overlay, empty]

/-- The props below keep their places, with the values on top where there are any; then come the
names that only the props on top have, in order. -/
theorem entries_merge (props own : Props) :
    (props.merge own).entries =
      overlay own.entries props.entries ++
        own.entries.filter fun pair => decide (pair.1 ∉ props.entries.map Prod.fst) :=
  entries_setAll props own.nodup

end Receipt.Props
