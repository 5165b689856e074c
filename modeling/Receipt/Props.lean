/-!
Props: the named attributes of a node, in the order in which they were first set. Setting a name
that is present replaces its value and keeps its place.
-/

namespace Receipt

namespace Props

/-- The entries with `key` set to `value`. -/
def setEntry (key value : String) : List (String × String) → List (String × String)
  | [] => [(key, value)]
  | (name, old) :: rest =>
    if name = key then (key, value) :: rest else (name, old) :: setEntry key value rest

theorem map_fst_setEntry (key value : String) (entries : List (String × String)) :
    (setEntry key value entries).map Prod.fst =
      if key ∈ entries.map Prod.fst then entries.map Prod.fst
      else entries.map Prod.fst ++ [key] := by
  induction entries with
  | nil => simp [setEntry]
  | cons entry rest ih =>
    obtain ⟨name, old⟩ := entry
    by_cases h : name = key
    · simp [setEntry, h]
    · have h' : ¬ key = name := fun e => h e.symm
      simp only [setEntry, h, if_false, List.map_cons, ih, List.mem_cons, h', false_or]
      split <;> simp

theorem nodup_setEntry (key value : String) {entries : List (String × String)}
    (h : (entries.map Prod.fst).Nodup) :
    ((setEntry key value entries).map Prod.fst).Nodup := by
  rw [map_fst_setEntry]
  split
  · exact h
  · rename_i absent
    rw [List.nodup_append]
    refine ⟨h, by simp, ?_⟩
    intro a ha b hb
    rw [List.mem_singleton] at hb
    subst hb
    exact fun e => absent (e ▸ ha)

end Props

/-- Names with their values, each name once. -/
structure Props where
  /-- The pairs in the order in which the names were first set. -/
  entries : List (String × String) := []
  /-- No name occurs twice. -/
  nodup : (entries.map Prod.fst).Nodup := by simp
deriving DecidableEq

namespace Props

/-- No props. -/
def empty : Props where

instance : EmptyCollection Props := ⟨empty⟩

instance : Inhabited Props := ⟨empty⟩

/-- The value of a name. -/
def get? (props : Props) (key : String) : Option String :=
  props.entries.lookup key

/-- Whether a name is set. -/
def contains (props : Props) (key : String) : Bool :=
  (props.get? key).isSome

/-- Whether no name is set. -/
def isEmpty (props : Props) : Bool :=
  props.entries.isEmpty

/-- Sets a name: in its place if it is present, else at the end. -/
def set (props : Props) (key value : String) : Props where
  entries := setEntry key value props.entries
  nodup := nodup_setEntry key value props.nodup

/-- Sets the given names one after the other. -/
def setAll (props : Props) (pairs : List (String × String)) : Props :=
  pairs.foldl (fun props pair => props.set pair.1 pair.2) props

/-- The props that result from setting the given names in order. -/
def ofPairs (pairs : List (String × String)) : Props :=
  empty.setAll pairs

/-- The props with those of `own` set on top of them. -/
def merge (props own : Props) : Props :=
  props.setAll own.entries

/-- Whether both have the same names with the same values, in whatever order. -/
def same (a b : Props) : Bool :=
  a.entries.length == b.entries.length &&
    a.entries.all fun entry => b.get? entry.1 == some entry.2

@[simp] theorem entries_empty : (∅ : Props).entries = [] := rfl

@[simp] theorem entries_set (props : Props) (key value : String) :
    (props.set key value).entries = setEntry key value props.entries := rfl

@[simp] theorem setAll_nil (props : Props) : props.setAll [] = props := rfl

@[simp] theorem setAll_cons (props : Props) (pair : String × String)
    (pairs : List (String × String)) :
    props.setAll (pair :: pairs) = (props.set pair.1 pair.2).setAll pairs := rfl

theorem setAll_append (props : Props) (first second : List (String × String)) :
    props.setAll (first ++ second) = (props.setAll first).setAll second :=
  List.foldl_append

@[ext] theorem ext {a b : Props} (h : a.entries = b.entries) : a = b := by
  cases a
  cases b
  simp_all

end Props

end Receipt
