import Refetch.Proofs.Header.Lookup
/-!
# Header lists are multi-maps

Each name has its values in order, whatever the case of its letters. The values of a name can be
followed through any edits without the list: `Edit.values` says what an edit makes of them, and
leaves them alone when it is about other names.

1. One edit makes of the values of every name what it says (`getAll_apply`), and so do any number of
   them (`getAll_after`).
2. The values of all names, each name taken once, are as many as there are entries (`size_eq`).
3. Setting and removing a name leave the entries of other names as they are, and in order. A name that
   is set stands where it stood first.
-/

namespace Refetch.HeaderList

variable {h : HeaderList} {name other : String}

/-! ## Edits -/

/-- A change of a header list. -/
inductive Edit
  | add (name value : String)
  | set (name value : String)
  | remove (name : String)
  | addAll (table : List (String × List String))
  | extend (pairs : List (String × String))
  deriving Repr, DecidableEq

namespace Edit

def apply (h : HeaderList) : Edit → HeaderList
  | .add name value => h.add name value
  | .set name value => h.set name value
  | .remove name => (h.remove name).2
  | .addAll table => h.addAll table
  | .extend pairs => h.extend pairs

/-- What an edit makes of the values of one name. -/
def values (name : String) (vs : List String) : Edit → List String
  | .add n v => if sameName n name then vs ++ [v] else vs
  | .set n v => if sameName n name then [v] else vs
  | .remove n => if sameName n name then [] else vs
  | .addAll table => vs ++ (table.filter fun row => sameName row.1 name).flatMap (·.2)
  | .extend pairs => vs ++ (pairs.filter fun pair => sameName pair.1 name).map (·.2)

end Edit

/-- The list after some edits. -/
def after (h : HeaderList) (edits : List Edit) : HeaderList := edits.foldl Edit.apply h

/-! ## Values -/

/-- Names that are the same have the same values. -/
theorem getAll_congr (hn : sameName name other = true) (h : HeaderList) :
    h.getAll name = h.getAll other := by
  have he : named name = named other := by
    funext e
    rw [named, named, sameName, sameName, eq_of_beq hn]
  rw [getAll, getAll, he]

theorem getAll_set (h : HeaderList) (name value other : String) :
    (h.set name value).getAll other = if sameName name other then [value] else h.getAll other := by
  cases hn : sameName name other with
  | true => rw [if_pos rfl, ← getAll_congr hn, getAll_set_self]
  | false => exact getAll_set_other hn h value

theorem getAll_remove (h : HeaderList) (name other : String) :
    (h.remove name).2.getAll other = if sameName name other then [] else h.getAll other := by
  cases hn : sameName name other with
  | true =>
    rw [if_pos rfl, ← getAll_congr hn, getAll, List.map_eq_nil_iff, List.filter_eq_nil_iff]
    intro e he
    simpa using (List.mem_filter.1 he).2
  | false => exact congrArg _ (filter_without (fun e he => named_of_named hn he) h.entries)

theorem getAll_extend (h : HeaderList) (pairs : List (String × String)) (name : String) :
    (h.extend pairs).getAll name =
      h.getAll name ++ (pairs.filter fun pair => sameName pair.1 name).map (·.2) := by
  rw [getAll, extend, List.filter_append, List.map_append]
  rfl

theorem getAll_addAll (h : HeaderList) (table : List (String × List String)) (name : String) :
    (h.addAll table).getAll name =
      h.getAll name ++ (table.filter fun row => sameName row.1 name).flatMap (·.2) := by
  rw [addAll, getAll_extend]
  congr 1
  induction table with
  | nil => rfl
  | cons row table ih =>
    -- the values of one row are all under its name
    have hrow : ((row.2.map fun v => (row.1, v)).filter fun pair => sameName pair.1 name).map (·.2) =
        if sameName row.1 name then row.2 else [] := by
      rw [List.filter_map]
      cases hs : sameName row.1 name <;> simp [Function.comp_def, hs]
    rw [List.flatMap_cons, List.filter_append, List.map_append, ih, hrow, List.filter_cons]
    split
    · rw [List.flatMap_cons]
    · rfl

/-- **One edit** makes of the values of every name what it says. -/
theorem getAll_apply (h : HeaderList) (edit : Edit) (name : String) :
    (edit.apply h).getAll name = edit.values name (h.getAll name) := by
  cases edit with
  | add n v =>
    rw [Edit.apply, Edit.values, getAll_add]
    split
    · rfl
    · exact List.append_nil _
  | set n v => exact getAll_set h n v name
  | remove n => exact getAll_remove h n name
  | addAll table => exact getAll_addAll h table name
  | extend pairs => exact getAll_extend h pairs name

theorem getAll_after (h : HeaderList) (edits : List Edit) (name : String) :
    (h.after edits).getAll name = edits.foldl (Edit.values name) (h.getAll name) := by
  induction edits generalizing h with
  | nil => rfl
  | cons edit edits ih =>
    rw [after, List.foldl_cons, List.foldl_cons, ← after, ih, getAll_apply]

/-! ## Entries -/

/-- The names of a list in lower case, each once. -/
def names (h : HeaderList) : List String := (h.entries.map fun e => foldName e.1).dedup

theorem foldName_foldName (name : String) : foldName (foldName name) = foldName name := by
  have hc (c : Char) : c.toLower.toLower = c.toLower := by
    unfold Char.toLower
    grind
  rw [foldName, foldName, String.toList_ofList, List.map_map]
  exact congrArg _ (List.map_congr_left fun c _ => hc c)

theorem length_getAll (h : HeaderList) (name : String) :
    (h.getAll name).length = (h.entries.map fun e => foldName e.1).count (foldName name) := by
  rw [getAll, List.length_map, ← List.countP_eq_length_filter, List.count, List.countP_map]
  rfl

/-- **Every entry counts** once under its name. -/
theorem size_eq (h : HeaderList) : h.size = (h.names.flatMap h.getAll).length := by
  have hcount : h.names.map (fun n => (h.getAll n).length) =
      h.names.map fun n => (h.entries.map fun e => foldName e.1).count n := by
    refine List.map_congr_left fun n hn => ?_
    obtain ⟨e, -, rfl⟩ := List.mem_map.1 (List.mem_dedup.1 hn)
    rw [length_getAll, foldName_foldName]
  rw [List.length_flatMap, hcount, names, List.sum_map_count_dedup_eq_length, List.length_map, size]

theorem remove_fst (h : HeaderList) (name : String) :
    (h.remove name).1 = (h.getAll name).length := by
  have hl := List.length_eq_length_filter_add (l := h.entries) (named name)
  rw [remove, size, size, erase, without, getAll, List.length_map]
  dsimp only
  omega

/-- What a header list answers and does when each name has the values that `values` gives. -/
structure IsMultiMap (h : HeaderList) (values : String → List String) : Prop where
  getAll : ∀ name, h.getAll name = values name
  get : ∀ name, h.get? name = (values name).head?
  contains : ∀ name, h.contains name = true ↔ values name ≠ []
  size : h.size = (h.names.flatMap values).length
  removed : ∀ name, (h.remove name).1 = (values name).length
  /-- The entries of other names are kept by a removal. -/
  others : ∀ name, (h.remove name).2.entries = h.entries.filter fun e => !sameName e.1 name
  /-- A name that is set takes the place of its first entry. -/
  first : ∀ name value before e after, h.entries = before ++ e :: after →
    (∀ x ∈ before, sameName x.1 name = false) → sameName e.1 name = true →
    (h.set name value).entries =
      before ++ (name, value) :: after.filter fun e => !sameName e.1 name
  /-- A name that was absent goes last. -/
  last : ∀ name value, (∀ x ∈ h.entries, sameName x.1 name = false) →
    (h.set name value).entries = h.entries ++ [(name, value)]
  /-- The entries of other names are kept by a name that is set. -/
  kept : ∀ name value, ((h.set name value).entries.filter fun e => !sameName e.1 name) =
    h.entries.filter fun e => !sameName e.1 name

/-- **A header list is a multi-map** after any edits. -/
theorem isMultiMap_after (h : HeaderList) (edits : List Edit) :
    (h.after edits).IsMultiMap fun name => edits.foldl (Edit.values name) (h.getAll name) := by
  have hv : (fun name => edits.foldl (Edit.values name) (h.getAll name)) =
      (h.after edits).getAll := funext fun name => (getAll_after h edits name).symm
  rw [hv]
  refine ⟨fun _ => rfl, get?_eq_head? _, fun name => ?_, size_eq _, remove_fst _, fun _ => rfl,
    fun _ value _ _ _ he hb hn => set_of_first he hb hn value,
    fun _ value hn => congrArg entries (set_of_absent hn value), fun name value => ?_⟩
  · rw [ne_eq, ← contains_eq_false_iff, Bool.not_eq_false]
  · exact filter_set (fun e he => congrArg not he) _ value

end Refetch.HeaderList
