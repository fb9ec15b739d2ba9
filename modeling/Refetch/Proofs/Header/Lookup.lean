import Mathlib.Tactic
import Refetch.Header.List
/-!
# Looking up headers

Setting a header decides what is found under its name, and under no other. Adding one decides
nothing about other names.

1. Setting a name puts the new entry in the place of the first one of that name (`set_of_first`), or
   last (`set_of_absent`).
2. The entries that a test picks out stay, in order, when a name is set that the test never picks
   (`filter_set`). Of the name itself the new entry is left alone.
3. So every value of a name is known after it was set or added (`getAll_set_self`,
   `getAll_set_other`, `getAll_add`), and with them the first one.
-/

namespace Refetch

theorem sameName_self (name : String) : sameName name name = true := by simp [sameName]

/-- Names that are the same as the same name are the same. -/
theorem sameName_of_sameName {a b c : String} (h : sameName a b = true) :
    sameName a c = sameName b c := by
  rw [sameName, beq_iff_eq] at h
  rw [sameName, sameName, h]

namespace HeaderList

variable {h : HeaderList} {name other value : String}

theorem named_self (name value : String) : named name (name, value) = true := sameName_self name

/-- An entry has one name. -/
theorem named_of_named {e : String × String} (hn : sameName name other = false)
    (he : named name e = true) : named other e = false := by
  rw [named, sameName_of_sameName he, hn]

/-! ## Setting a name -/

/-- The entries up to the first of a name, that one, and those behind it. -/
theorem findIdx?_named {es : List (String × String)} {i : Nat}
    (h : es.findIdx? (named name) = some i) : ∃ before e after, es = before ++ e :: after ∧
      before.length = i ∧ (∀ x ∈ before, named name x = false) ∧ named name e = true := by
  obtain ⟨hi, hn, hb⟩ := List.findIdx?_eq_some_iff_getElem.1 h
  refine ⟨es.take i, es[i], es.drop (i + 1), ?_, by simp; omega, fun x hx => ?_, hn⟩
  · rw [← List.drop_eq_getElem_cons hi, List.take_append_drop]
  · obtain ⟨j, hj, rfl⟩ := List.mem_take_iff_getElem.1 hx
    simpa using hb j (by omega)

/-- A name that is absent goes last. -/
theorem set_of_absent (hn : ∀ e ∈ h.entries, named name e = false) (value : String) :
    h.set name value = h.add name value := by
  rw [set, position?, List.findIdx?_eq_none_iff.2 hn]

/-- **The first entry of a name** gives its place to the new one, and those behind it are dropped. -/
theorem set_of_first {before after : List (String × String)} {e : String × String}
    (he : h.entries = before ++ e :: after) (hb : ∀ x ∈ before, named name x = false)
    (hn : named name e = true) (value : String) :
    (h.set name value).entries = before ++ (name, value) :: without name after := by
  have hp : h.position? name = some before.length := by
    rw [position?, he, List.findIdx?_append, List.findIdx?_eq_none_iff.2 hb, List.findIdx?_cons, hn]
    simp
  rw [set, hp, he]
  dsimp only
  rw [List.set_append_right _ _ le_rfl, Nat.sub_self, List.set_cons_zero, List.zipIdx_append,
    List.filter_append, List.map_append, List.zipIdx_cons]
  congr 1
  · -- the index of an entry before the place is smaller
    rw [List.filter_eq_self.2, List.zipIdx_map_fst]
    rintro ⟨x, i⟩ hx
    have := (List.mem_zipIdx hx).2.1
    simp
    omega
  · rw [List.filter_cons_of_pos (by simp), List.map_cons]
    congr 1
    -- and that of an entry behind it is greater, so that its name decides
    rw [List.filter_congr (q := (fun e => !named name e) ∘ Prod.fst), ← List.filter_map,
      List.zipIdx_map_fst, without]
    rintro ⟨x, i⟩ hx
    have := (List.mem_zipIdx hx).1
    simp
    omega

/-- A name is absent from a list or has a first entry there. -/
theorem absent_or_first (h : HeaderList) (name : String) :
    (∀ e ∈ h.entries, named name e = false) ∨
      ∃ before e after, h.entries = before ++ e :: after ∧
        (∀ x ∈ before, named name x = false) ∧ named name e = true := by
  cases hi : h.entries.findIdx? (named name) with
  | none => exact .inl (List.findIdx?_eq_none_iff.1 hi)
  | some i =>
    obtain ⟨before, e, after, he, -, hb, hn⟩ := findIdx?_named hi
    exact .inr ⟨before, e, after, he, hb, hn⟩

/-! ## Entries that are picked out -/

variable {p : String × String → Bool}

theorem filter_without (hp : ∀ e, named name e = true → p e = false)
    (es : List (String × String)) : (without name es).filter p = es.filter p := by
  unfold without
  rw [List.filter_filter]
  refine List.filter_congr fun e _ => ?_
  cases he : named name e with
  | true => simp [hp e he]
  | false => simp

/-- **Setting a name** leaves all entries of other names as they are, and in order. -/
theorem filter_set (hp : ∀ e, named name e = true → p e = false) (h : HeaderList)
    (value : String) : (h.set name value).entries.filter p = h.entries.filter p := by
  have hv : p (name, value) = false := hp _ (named_self name value)
  rcases h.absent_or_first name with ha | ⟨before, e, after, he, hb, hn⟩
  · rw [set_of_absent ha, add, List.filter_append, List.filter_singleton, hv]
    exact List.append_nil _
  · rw [set_of_first he hb hn, he, List.filter_append, List.filter_append,
      List.filter_cons_of_neg (by simp [hv]), List.filter_cons_of_neg (by simp [hp e hn]),
      filter_without hp]

/-- Of the name itself the new entry is left alone. -/
theorem filter_set_self (h : HeaderList) (name value : String) :
    (h.set name value).entries.filter (named name) = [(name, value)] := by
  have hs := named_self name value
  rcases h.absent_or_first name with ha | ⟨before, e, after, he, hb, hn⟩
  · rw [set_of_absent ha, add, List.filter_append, List.filter_eq_nil_iff.2 (by simpa using ha),
      List.filter_singleton, hs]
    rfl
  · have hw : (without name after).filter (named name) = [] := by
      rw [without, List.filter_filter, List.filter_eq_nil_iff]
      simp
    rw [set_of_first he hb hn, List.filter_append, List.filter_eq_nil_iff.2 (by simpa using hb),
      List.filter_cons_of_pos hs, hw]
    rfl

/-! ## Values of a name -/

theorem getAll_set_self (h : HeaderList) (name value : String) :
    (h.set name value).getAll name = [value] := by
  rw [getAll, filter_set_self]
  rfl

theorem getAll_set_other (hn : sameName name other = false) (h : HeaderList) (value : String) :
    (h.set name value).getAll other = h.getAll other := by
  rw [getAll, getAll, filter_set fun e he => named_of_named hn he]

theorem getAll_add (h : HeaderList) (name value other : String) :
    (h.add name value).getAll other =
      h.getAll other ++ if sameName name other then [value] else [] := by
  rw [getAll, add, List.filter_append, List.map_append, getAll, List.filter_singleton, named]
  cases sameName name other <;> rfl

theorem contains_eq_false_iff : h.contains name = false ↔ h.getAll name = [] := by
  rw [contains, position?, Option.isSome_eq_false_iff, Option.isNone_iff_eq_none,
    List.findIdx?_eq_none_iff, getAll, List.map_eq_nil_iff, List.filter_eq_nil_iff]
  simp

/-- The first value is the first of all. -/
theorem get?_eq_head? (h : HeaderList) (name : String) :
    h.get? name = (h.getAll name).head? := by
  rw [get?, getAll, List.head?_map, List.head?_filter]

@[simp] theorem get?_set_self (h : HeaderList) (name value : String) :
    (h.set name value).get? name = some value := by
  rw [get?_eq_head?, getAll_set_self]
  rfl

theorem get?_set_other (hn : sameName name other = false) (h : HeaderList) (value : String) :
    (h.set name value).get? other = h.get? other := by
  rw [get?_eq_head?, getAll_set_other hn, ← get?_eq_head?]

theorem get?_add_other (hn : sameName name other = false) (h : HeaderList) (value : String) :
    (h.add name value).get? other = h.get? other := by
  rw [get?_eq_head?, getAll_add, hn, get?_eq_head?]
  simp

/-- The value stands under the name, in any letter case, and under it no other stands before. -/
def First (h : HeaderList) (name value : String) : Prop :=
  ∃ before written after, h.entries = before ++ (written, value) :: after ∧
    sameName written name = true ∧ ∀ e ∈ before, sameName e.1 name = false

/-- Looking a name up gives its first value. -/
theorem get?_eq_some_iff : h.get? name = some value ↔ h.First name value := by
  rw [get?, Option.map_eq_some_iff]
  constructor
  · rintro ⟨⟨written, v⟩, hf, rfl⟩
    obtain ⟨hn, before, after, he, hb⟩ := List.find?_eq_some_iff_append.1 hf
    exact ⟨before, written, after, he, hn, fun e hm => by simpa [named] using hb e hm⟩
  · rintro ⟨before, written, after, he, hn, hb⟩
    exact ⟨(written, value), List.find?_eq_some_iff_append.2
      ⟨hn, before, after, he, fun e hm => by simp [named, hb e hm]⟩, rfl⟩

end HeaderList

end Refetch
