import Refetch.Proofs.Header.MultiMap
import Refetch.Proofs.Header.Wired
import Refetch.Proofs.Text.Decoding
/-!
# Header lists and wire tables

A wire table groups the values of a name, which a header list keeps where they were given.

1. A value that is appended comes after those of its name and of no other (`getAll_append`), so a table
   made of a list of fields has the values of each name in order (`getAll_ofList`).
2. A list becomes a table with the same values (`converts_toWire`), or the first entry that has no
   place on the wire is at fault.
3. A valid table is made again of its own fields (`ofList_toList`). So a table that becomes a list and
   a table again is the same exactly if its values are text (`returns_ofWire`), since all others are
   decoded lossily; and a list that was a table always has a place on the wire.

All this goes for lists that do not overflow the table. The conversion of one that does crashes.
-/

namespace Refetch

namespace WireHeaders

variable {w : WireHeaders} {name : String}

/-! ## Tables -/

/-- A table as names and values on the wire make one up: each name stands once, in lower case, and has
a value. -/
structure Valid (w : WireHeaders) : Prop where
  nodup : (w.fields.map (·.1)).Nodup
  names : ∀ f ∈ w.fields, isHeaderName f.1 = true ∧ foldName f.1 = f.1
  values : ∀ f ∈ w.fields, f.2 ≠ [] ∧ ∀ v ∈ f.2, isHeaderValue v = true

/-- The tables have the same values under every name. -/
def Same (w w' : WireHeaders) : Prop := ∀ name, w.getAll name = w'.getAll name

/-- The values under the lowercase name. -/
def valuesOf (name : String) (fields : List (String × List Bytes)) : List Bytes :=
  ((fields.find? (·.1 == name)).map (·.2)).getD []

theorem valuesOf_cons (name : String) (f : String × List Bytes)
    (fields : List (String × List Bytes)) :
    valuesOf name (f :: fields) = if f.1 == name then f.2 else valuesOf name fields := by
  unfold valuesOf
  rw [List.find?_cons]
  cases f.1 == name <;> rfl

theorem valuesOf_appendTo (n : String) (v : Bytes) (name : String)
    (fields : List (String × List Bytes)) : valuesOf name (appendTo n v fields) =
      valuesOf name fields ++ if n == name then [v] else [] := by
  induction fields with
  | nil => cases hn : n == name <;> simp [appendTo, valuesOf, hn]
  | cons f fields ih =>
    obtain ⟨m, vs⟩ := f
    rw [appendTo]
    by_cases hm : m == n
    · obtain rfl := eq_of_beq hm
      rw [if_pos hm, valuesOf_cons, valuesOf_cons]
      split <;> simp
    · rw [if_neg hm, valuesOf_cons, valuesOf_cons, ih]
      dsimp only
      by_cases hn : m == name
      · have hn' : ¬ n == name := fun h => hm (by rw [eq_of_beq hn, eq_of_beq h, beq_self_eq_true])
        rw [if_pos hn, if_pos hn, if_neg hn', List.append_nil]
      · rw [if_neg hn, if_neg hn]

/-- **A value that is appended** comes after those of its name. -/
theorem getAll_append (w : WireHeaders) (n : String) (v : Bytes) (name : String) :
    (w.append n v).getAll name = w.getAll name ++ if sameName n name then [v] else [] :=
  valuesOf_appendTo (foldName n) v (foldName name) w.fields

theorem getAll_foldl (pairs : List (String × Bytes)) (w : WireHeaders) (name : String) :
    (pairs.foldl (fun w (n, v) => w.append n v) w).getAll name =
      w.getAll name ++ (pairs.filter fun p => sameName p.1 name).map (·.2) := by
  induction pairs generalizing w with
  | nil => exact (List.append_nil _).symm
  | cons p pairs ih =>
    rw [List.foldl_cons, ih, getAll_append, List.append_assoc, List.filter_cons]
    cases sameName p.1 name <;> rfl

/-- **A table made of fields** has the values of each name in order. -/
theorem getAll_ofList (pairs : List (String × Bytes)) (name : String) :
    (ofList pairs).getAll name = (pairs.filter fun p => sameName p.1 name).map (·.2) :=
  getAll_foldl pairs empty name

/-! ## Fields that are appended -/

theorem mem_appendTo {n : String} {v : Bytes} {fields : List (String × List Bytes)}
    {f : String × List Bytes} (hf : f ∈ appendTo n v fields) :
    f ∈ fields ∨ ∃ vs, f = (n, vs ++ [v]) ∧ (vs = [] ∨ (n, vs) ∈ fields) := by
  induction fields with
  | nil => exact .inr ⟨[], List.mem_singleton.1 hf, .inl rfl⟩
  | cons g fields ih =>
    obtain ⟨m, vs⟩ := g
    rw [appendTo] at hf
    split at hf
    · rename_i hm
      obtain rfl := eq_of_beq hm
      rcases List.mem_cons.1 hf with rfl | hf
      · exact .inr ⟨vs, rfl, .inr List.mem_cons_self⟩
      · exact .inl (List.mem_cons_of_mem _ hf)
    · rcases List.mem_cons.1 hf with rfl | hf
      · exact .inl List.mem_cons_self
      · exact (ih hf).imp (List.mem_cons_of_mem _) fun ⟨us, he, hu⟩ =>
          ⟨us, he, hu.imp_right (List.mem_cons_of_mem _)⟩

theorem names_appendTo (n : String) (v : Bytes) (fields : List (String × List Bytes)) :
    (appendTo n v fields).map (·.1) =
      if n ∈ fields.map (·.1) then fields.map (·.1) else fields.map (·.1) ++ [n] := by
  induction fields with
  | nil => rfl
  | cons g fields ih =>
    obtain ⟨m, vs⟩ := g
    rw [appendTo]
    by_cases hm : m = n
    · simp [hm]
    · have hm' : ¬ n = m := Ne.symm hm
      rw [if_neg (by simpa using hm)]
      simp only [List.map_cons, ih, List.mem_cons, hm', false_or]
      split
      · rfl
      · rfl

theorem length_toList_append (w : WireHeaders) (n : String) (v : Bytes) :
    (w.append n v).toList.length = w.toList.length + 1 := by
  have hcons (g : String × List Bytes) (fields : List (String × List Bytes)) :
      (toList ⟨g :: fields⟩).length = g.2.length + (toList ⟨fields⟩).length := by
    simp [toList]
  have h (fields : List (String × List Bytes)) :
      (toList ⟨appendTo (foldName n) v fields⟩).length = (toList ⟨fields⟩).length + 1 := by
    induction fields with
    | nil => rfl
    | cons g fields ih =>
      obtain ⟨m, vs⟩ := g
      rw [appendTo]
      split
      · rw [hcons, hcons]
        simp only [List.length_append, List.length_singleton]
        omega
      · rw [hcons, hcons, ih]
        omega
  exact h w.fields

theorem Valid.empty : Valid empty := ⟨List.nodup_nil, nofun, nofun⟩

theorem Valid.append (h : w.Valid) {v : Bytes} (hn : isHeaderName name = true)
    (hv : isHeaderValue v = true) : (w.append name v).Valid := by
  have hfold : isHeaderName (foldName name) = true ∧ foldName (foldName name) = foldName name :=
    ⟨by rw [isHeaderName_foldName, hn], HeaderList.foldName_foldName name⟩
  refine ⟨?_, fun f hf => ?_, fun f hf => ?_⟩
  · show ((appendTo _ _ _).map _).Nodup
    rw [names_appendTo]
    split
    · exact h.nodup
    · exact List.nodup_append.2 ⟨h.nodup, List.nodup_singleton _, by
        rintro a ha b hb rfl
        obtain rfl := List.mem_singleton.1 hb
        contradiction⟩
  · rcases mem_appendTo hf with hf | ⟨vs, rfl, -⟩
    · exact h.names f hf
    · exact hfold
  · rcases mem_appendTo hf with hf | ⟨vs, rfl, hvs⟩
    · exact h.values f hf
    · refine ⟨by simp, fun u hu => ?_⟩
      rcases List.mem_append.1 hu with hu | hu
      · rcases hvs with rfl | hvs
        · cases hu
        · exact (h.values _ hvs).2 u hu
      · obtain rfl := List.mem_singleton.1 hu
        exact hv

theorem ofList_concat (pairs : List (String × Bytes)) (p : String × Bytes) :
    ofList (pairs ++ [p]) = (ofList pairs).append p.1 p.2 := List.foldl_append

theorem valid_ofList {pairs : List (String × Bytes)}
    (h : ∀ p ∈ pairs, isHeaderName p.1 = true ∧ isHeaderValue p.2 = true) : (ofList pairs).Valid := by
  induction pairs using List.reverseRecOn with
  | nil => exact .empty
  | append_singleton pairs p ih =>
    obtain ⟨hn, hv⟩ := h p (by simp)
    rw [ofList_concat]
    exact (ih fun q hq => h q (List.mem_append_left _ hq)).append hn hv

theorem length_toList_ofList (pairs : List (String × Bytes)) :
    (ofList pairs).toList.length = pairs.length := by
  induction pairs using List.reverseRecOn with
  | nil => rfl
  | append_singleton pairs p ih =>
    rw [ofList_concat, length_toList_append, ih, List.length_append, List.length_singleton]

/-! ## Tables that are made again -/

theorem appendTo_of_absent {n : String} {fields : List (String × List Bytes)}
    (h : n ∉ fields.map (·.1)) (v : Bytes) : appendTo n v fields = fields ++ [(n, [v])] := by
  induction fields with
  | nil => rfl
  | cons g fields ih =>
    rw [List.map_cons, List.mem_cons, not_or] at h
    rw [appendTo, if_neg (by simpa using Ne.symm h.1), ih h.2]
    rfl

theorem appendTo_last {n : String} {fields : List (String × List Bytes)}
    (h : n ∉ fields.map (·.1)) (vs : List Bytes) (v : Bytes) :
    appendTo n v (fields ++ [(n, vs)]) = fields ++ [(n, vs ++ [v])] := by
  induction fields with
  | nil => simp [appendTo]
  | cons g fields ih =>
    rw [List.map_cons, List.mem_cons, not_or] at h
    rw [List.cons_append, appendTo, if_neg (by simpa using Ne.symm h.1), ih h.2]
    rfl

/-- The values of a name that was absent make up the last field. -/
theorem foldl_values {n : String} (hn : foldName n = n) {fields : List (String × List Bytes)}
    (h : n ∉ fields.map (·.1)) {vs : List Bytes} (hvs : vs ≠ []) :
    (vs.map fun v => (n, v)).foldl (fun w (n, v) => WireHeaders.append w n v) ⟨fields⟩ =
      ⟨fields ++ [(n, vs)]⟩ := by
  induction vs using List.reverseRecOn with
  | nil => contradiction
  | append_singleton vs v ih =>
    rw [List.map_append, List.foldl_append, List.map_singleton, List.foldl_cons, List.foldl_nil]
    dsimp only
    by_cases hvs : vs = []
    · subst hvs
      rw [List.map_nil, List.foldl_nil, WireHeaders.append, hn, appendTo_of_absent h]
      rfl
    · rw [ih hvs, WireHeaders.append, hn, appendTo_last h]

/-- **A valid table** is made again of its own fields. -/
theorem ofList_toList (h : w.Valid) : ofList w.toList = w := by
  have hgo (rest : List (String × List Bytes)) : ∀ fields,
      ((fields ++ rest).map (·.1)).Nodup → (∀ f ∈ rest, foldName f.1 = f.1 ∧ f.2 ≠ []) →
      (toList ⟨rest⟩).foldl (fun w (n, v) => WireHeaders.append w n v) ⟨fields⟩ =
        ⟨fields ++ rest⟩ := by
    induction rest with
    | nil => exact fun fields _ _ => by rw [List.append_nil]; rfl
    | cons f rest ih =>
      intro fields hnd hf
      obtain ⟨n, vs⟩ := f
      have hn : n ∉ fields.map (·.1) := fun hm => by
        rw [List.map_append, List.nodup_append] at hnd
        exact hnd.2.2 _ hm n List.mem_cons_self rfl
      obtain ⟨hfold, hvs⟩ := hf _ List.mem_cons_self
      rw [toList, List.flatMap_cons, List.foldl_append, foldl_values hfold hn hvs]
      exact (ih (fields ++ [(n, vs)]) (by simpa using hnd) fun g hg =>
        hf g (List.mem_cons_of_mem _ hg)).trans (by simp)
  exact hgo w.fields [] h.nodup fun f hf => ⟨(h.names f hf).2, (h.values f hf).1⟩

/-- Every field of a valid table is found under its name. -/
theorem getAll_of_mem (h : w.Valid) {f : String × List Bytes} (hf : f ∈ w.fields) :
    w.getAll f.1 = f.2 := by
  have hgo (fields : List (String × List Bytes)) (hnd : (fields.map (·.1)).Nodup)
      (hm : f ∈ fields) : valuesOf f.1 fields = f.2 := by
    induction fields with
    | nil => cases hm
    | cons g fields ih =>
      rw [List.map_cons, List.nodup_cons] at hnd
      rw [valuesOf_cons]
      rcases List.mem_cons.1 hm with rfl | hm
      · rw [if_pos (beq_self_eq_true _)]
      · rw [if_neg, ih hnd.2 hm]
        intro he
        exact hnd.1 (eq_of_beq he ▸ List.mem_map_of_mem hm)
  show valuesOf (foldName f.1) w.fields = f.2
  rw [(h.names f hf).2]
  exact hgo w.fields h.nodup hf

/-- A name has values exactly if it stands in the table. -/
theorem getAll_ne_nil_iff (h : w.Valid) :
    w.getAll name ≠ [] ↔ foldName name ∈ w.fields.map (·.1) := by
  constructor
  · intro hne
    unfold getAll at hne
    cases hf : w.fields.find? (·.1 == foldName name) with
    | none => simp [hf] at hne
    | some f =>
      exact List.mem_map.2 ⟨f, List.mem_of_find?_eq_some hf, eq_of_beq (List.find?_some hf :)⟩
  · intro hm
    obtain ⟨f, hf, hn⟩ := List.mem_map.1 hm
    have hg := getAll_of_mem h hf
    unfold getAll at hg ⊢
    rw [(h.names f hf).2, hn] at hg
    rw [hg]
    exact (h.values f hf).1

end WireHeaders

namespace HeaderList

variable {h : HeaderList} {w m : WireHeaders}

/-! ## From lists to tables -/

/-- Why an entry has no place on the wire. Its name is looked at first. -/
inductive Unfit (e : String × String) : ConfigFault → Prop
  | name (hn : isHeaderName e.1 = false) : Unfit e (.headerName e.1)
  | value (hn : isHeaderName e.1 = true) (hv : isHeaderValue (Text.Utf8.encode e.2) = false) :
    Unfit e (.headerValue e.1)

theorem Unfit.not_wired {e : String × String} {fault : ConfigFault} (h : Unfit e fault) :
    ¬ Wired e := by
  intro hw
  cases h with
  | name hn => simp [hw.name] at hn
  | value hn hv => simp [hw.value] at hv

theorem entryFault?_eq_some_iff {e : String × String} {fault : ConfigFault} :
    entryFault? e.1 e.2 = some fault ↔ Unfit e fault := by
  unfold entryFault?
  constructor
  · intro h
    split at h
    · rename_i hn
      cases h
      exact .name (by simpa using hn)
    · rename_i hn
      rw [Bool.not_eq_true', Bool.not_eq_false] at hn
      split at h
      · rename_i hv
        cases h
        exact .value hn (by simpa using hv)
      · cases h
  · rintro (hn | ⟨hn, hv⟩)
    · simp [hn]
    · simp [hn, hv]

/-- **The fault** is that of the first entry without a place on the wire. -/
theorem wireFault?_eq_some_iff {es : List (String × String)} {fault : ConfigFault} :
    wireFault? es = some fault ↔ ∃ before e after, es = before ++ e :: after ∧
      (∀ x ∈ before, Wired x) ∧ Unfit e fault := by
  rw [wireFault?, List.findSome?_eq_some_iff]
  constructor
  · rintro ⟨before, e, after, he, hf, hb⟩
    exact ⟨before, e, after, he, fun x hx => entryFault?_eq_none_iff.1 (hb x hx),
      entryFault?_eq_some_iff.1 hf⟩
  · rintro ⟨before, e, after, he, hb, hu⟩
    exact ⟨before, e, after, he, entryFault?_eq_some_iff.2 hu, fun x hx =>
      entryFault?_eq_none_iff.2 (hb x hx)⟩

theorem toWire_eq_ok_iff : h.toWire = .ok w ↔
    ¬ h.Overflows ∧ (∀ e ∈ h.entries, Wired e) ∧ .ofList h.wireFields = w := by
  rw [← wireFault?_eq_none_iff, toWire_eq]
  split
  · simp [*]
  · cases wireFault? h.entries <;> simp [*]

/-- What becomes of a list on its way to the wire. -/
structure Converts (h : HeaderList) : Prop where
  ok : (∃ w, h.toWire = .ok w) ↔ ¬ h.Overflows ∧ ∀ e ∈ h.entries, Wired e
  /-- The first entry that has no place on the wire is at fault. -/
  error : ∀ error, h.toWire = .error error ↔ ¬ h.Overflows ∧
    ∃ before e after fault, h.entries = before ++ e :: after ∧ (∀ x ∈ before, Wired x) ∧
      Unfit e fault ∧ error = .config fault
  crash : ∀ crash, h.toWire = .crash crash ↔ h.Overflows ∧ crash = .tooManyHeaders
  /-- A list of few entries never overflows, and one of too many always does. -/
  few : h.size ≤ Slots.ample → ¬ h.Overflows
  many : WireHeaders.capacity < h.size → h.Overflows
  values : ∀ w, h.toWire = .ok w → ∀ name,
    w.getAll name = (h.getAll name).map Text.Utf8.encode
  /-- The table has the names of the list, each once. -/
  names : ∀ w, h.toWire = .ok w → w.Valid ∧
    ∀ name, foldName name ∈ w.fields.map (·.1) ↔ h.contains name = true
  /-- No field is lost and none is new. -/
  length : ∀ w, h.toWire = .ok w → w.toList.length = h.size

theorem getAll_wireFields (h : HeaderList) (name : String) :
    (WireHeaders.ofList h.wireFields).getAll name =
      (h.getAll name).map Text.Utf8.encode := by
  rw [WireHeaders.getAll_ofList, wireFields, List.filter_map, List.map_map, getAll, List.map_map]
  rfl

theorem valid_wireFields (hw : ∀ e ∈ h.entries, Wired e) :
    (WireHeaders.ofList h.wireFields).Valid := by
  refine WireHeaders.valid_ofList fun p hp => ?_
  obtain ⟨e, he, rfl⟩ := List.mem_map.1 hp
  exact ⟨(hw e he).name, (hw e he).value⟩

theorem converts_toWire (h : HeaderList) : h.Converts := by
  refine ⟨exists_toWire_iff, fun error => ?_, fun crash => toWire_eq_crash_iff, not_overflows,
    .inl, fun w hw name => ?_, fun w hw => ?_, fun w hw => ?_⟩
  · rw [toWire_eq]
    split
    · simp [*]
    · rename_i hover
      cases hf : wireFault? h.entries with
      | none =>
        have hwired := wireFault?_eq_none_iff.1 hf
        simp only [reduceCtorEq, false_iff, not_and]
        rintro - ⟨before, e, after, fault, he, -, hu, -⟩
        exact hu.not_wired (hwired e (by simp [he]))
      | some fault =>
        obtain ⟨before, e, after, he, hb, hu⟩ := wireFault?_eq_some_iff.1 hf
        constructor
        · intro hx
          cases hx
          exact ⟨hover, before, e, after, fault, he, hb, hu, rfl⟩
        · rintro ⟨-, before', e', after', fault', he', hb', hu', rfl⟩
          have hf' := wireFault?_eq_some_iff.2 ⟨before', e', after', he', hb', hu'⟩
          rw [Option.some.inj (hf.symm.trans hf')]
  · obtain ⟨-, -, rfl⟩ := toWire_eq_ok_iff.1 hw
    exact getAll_wireFields h name
  · obtain ⟨-, hwired, rfl⟩ := toWire_eq_ok_iff.1 hw
    refine ⟨valid_wireFields hwired, fun name => ?_⟩
    rw [← WireHeaders.getAll_ne_nil_iff (valid_wireFields hwired), getAll_wireFields, ne_eq,
      List.map_eq_nil_iff, ← contains_eq_false_iff, Bool.not_eq_false]
  · obtain ⟨-, -, rfl⟩ := toWire_eq_ok_iff.1 hw
    rw [WireHeaders.length_toList_ofList, wireFields, List.length_map, size]

/-! ## From tables to lists and back -/

theorem wireFields_ofWire (m : WireHeaders) : (ofWire m).wireFields =
    m.toList.map fun (n, v) => (n, Text.Utf8.encode (Text.Utf8.decodeLossy v)) := by
  rw [wireFields, ofWire, List.map_map]
  rfl

/-- **A list that was a table** has a place on the wire, whatever lossy decoding made of it. -/
theorem wired_ofWire (hm : m.Valid) : ∀ e ∈ (ofWire m).entries, Wired e := by
  intro e he
  obtain ⟨⟨n, v⟩, hp, rfl⟩ := List.mem_map.1 he
  obtain ⟨f, hf, hv⟩ := List.mem_flatMap.1 hp
  obtain ⟨u, hu, hx⟩ := List.mem_map.1 hv
  cases hx
  refine ⟨(hm.names f hf).1, List.all_eq_true.2 fun b hb => ?_⟩
  have hb : b ∈ Text.Utf8.encode (Text.Utf8.decodeLossy v) := hb
  rw [Text.Utf8.encode, Text.Utf8.decodeLossy, String.toList_ofList] at hb
  rcases Text.Utf8.mem_encodeChars_decodeLossyChars hb with hb | hb
  · exact List.all_eq_true.1 ((hm.values f hf).2 v hu) b hb
  · have hr : isHeaderValue (String.utf8EncodeChar Text.Utf8.replacement) = true := by decide
    exact List.all_eq_true.1 hr b hb

/-- All values of the table are text. -/
def IsText (m : WireHeaders) : Prop :=
  ∀ f ∈ m.fields, ∀ v ∈ f.2, ∃ text, v = Text.Utf8.encode text

theorem wireFields_of_isText (ht : IsText m) : (ofWire m).wireFields = m.toList := by
  rw [wireFields_ofWire]
  refine (List.map_congr_left fun p hp => ?_).trans (List.map_id _)
  obtain ⟨⟨n, vs⟩, hf, hv⟩ := List.mem_flatMap.1 hp
  obtain ⟨u, hu, rfl⟩ := List.mem_map.1 hv
  exact congrArg (n, ·) (Text.Utf8.encode_decodeLossy_iff.2 (ht _ hf u hu))

/-- The values of a table as the list has them. -/
theorem getAll_ofWire (hm : m.Valid) (name : String) :
    (ofWire m).getAll name = (m.getAll name).map Text.Utf8.decodeLossy := by
  conv_rhs => rw [← WireHeaders.ofList_toList hm, WireHeaders.getAll_ofList]
  rw [getAll, ofWire, List.filter_map, List.map_map, List.map_map]
  rfl

/-- What becomes of a table that is made a list and a table again. -/
structure Returns (m : WireHeaders) : Prop where
  wired : ∀ e ∈ (ofWire m).entries, Wired e
  size : (ofWire m).size = m.toList.length
  ok : (∃ w, (ofWire m).toWire = .ok w) ↔ ¬ (ofWire m).Overflows
  same : (∃ w, (ofWire m).toWire = .ok w ∧ w.Same m) ↔ ¬ (ofWire m).Overflows ∧ IsText m
  /-- It is then the same in the order of its names, too. -/
  eq : ¬ (ofWire m).Overflows → IsText m → (ofWire m).toWire = .ok m

theorem returns_ofWire (hm : m.Valid) : Returns m := by
  have heq (hs : ¬ (ofWire m).Overflows) (ht : IsText m) : (ofWire m).toWire = .ok m :=
    toWire_eq_ok_iff.2 ⟨hs, wired_ofWire hm, by
      rw [wireFields_of_isText ht, WireHeaders.ofList_toList hm]⟩
  refine ⟨wired_ofWire hm, List.length_map _, ?_,
    ⟨?_, fun ⟨hs, ht⟩ => ⟨m, heq hs ht, fun _ => rfl⟩⟩, heq⟩
  · rw [exists_toWire_iff]
    exact and_iff_left (wired_ofWire hm)
  · rintro ⟨w, hw, hsame⟩
    obtain ⟨hs, -, rfl⟩ := toWire_eq_ok_iff.1 hw
    refine ⟨hs, fun f hf v hv => Text.Utf8.encode_decodeLossy_iff.1 ?_⟩
    -- the values under the name of the field are those of the field, each decoded and encoded
    have hf' := hsame f.1
    rw [getAll_wireFields, getAll_ofWire hm, WireHeaders.getAll_of_mem hm hf, List.map_map] at hf'
    exact List.map_inj_left.1 (hf'.trans (List.map_id _).symm) v hv

/-- **Conversions** between lists and tables keep everything, but for values that are no text and for
lists that overflow. -/
theorem converts_and_returns (h : HeaderList) (hm : m.Valid) : h.Converts ∧ Returns m :=
  ⟨converts_toWire h, returns_ofWire hm⟩

/-- Two names, and a value that is not ASCII. -/
def accented : WireHeaders := ⟨[("etag", [[0x22, 0x22]]), ("x-name", [[0xC3, 0xA9], [0x09]])]⟩

theorem returned_accented : accented.Valid ∧ (ofWire accented).toWire = .ok accented := by
  have hv : accented.Valid := ⟨by decide, by decide, by decide⟩
  refine ⟨hv, (converts_and_returns (ofWire accented) hv).2.eq (not_overflows (by decide)) ?_⟩
  simp only [IsText, accented, List.mem_cons, List.not_mem_nil, or_false, forall_eq_or_imp,
    forall_eq]
  exact ⟨⟨"\"\"", by decide⟩, ⟨"é", by decide⟩, ⟨"\t", by decide⟩⟩

/-- More fields than a table is made for. -/
def crowded : HeaderList := ⟨List.replicate 24577 ("a", "")⟩

theorem overflows_crowded : crowded.Overflows := by
  refine .inl ?_
  show 24576 < (List.replicate 24577 _).length
  rw [List.length_replicate]
  decide

/-- **A crowded list** is fit for the wire in every entry, and crashes. -/
theorem not_converted : crowded.toWire = .crash .tooManyHeaders ∧
    ¬ ((∃ w, crowded.toWire = .ok w) ↔ ∀ e ∈ crowded.entries, Wired e) := by
  have hcrash : crowded.toWire = .crash .tooManyHeaders :=
    toWire_eq_crash_iff.2 ⟨overflows_crowded, rfl⟩
  have hwired : ∀ e ∈ crowded.entries, Wired e := by
    intro e he
    obtain rfl := List.eq_of_mem_replicate he
    exact ⟨by decide, by decide⟩
  refine ⟨hcrash, fun h => ?_⟩
  obtain ⟨w, hw⟩ := h.2 hwired
  rw [hcrash] at hw
  cases hw

end HeaderList

end Refetch
