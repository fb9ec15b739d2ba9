import Refetch.Proofs.Storage.Agreeing
/-!
# File systems are trees

1. In a tree everything lies in a directory (`IsTree`). From one file system to a later one it has
   `Grown`: no directory went, directories appeared at some locations at most, and what is new lies in
   a directory. Every call grows the tree, and only those that make directories make any.
2. Such a call makes them on its path (`madeOn`), so that nothing but what was asked for appears.
3. A path that is resolved is resolved to the same while its file stays (`resolve_mono`). What was
   not found is not found later either if no directory appeared (`SameAt.of_grown`), or if those
   that did are not what the path leads to and the path does not go up (`SameAt.of_made`).
-/

namespace Refetch.Storage

/-- Names that do not go up lead further down. -/
theorem prefix_follow {names : List String} (hu : ".." ∉ names) (loc : Location) :
    loc <+: follow loc names := by
  induction names generalizing loc with
  | nil => exact List.prefix_refl loc
  | cons n names ih =>
    rw [List.mem_cons, not_or] at hu
    rw [follow]
    split
    · exact ih hu.2 loc
    · rw [if_neg (Ne.symm hu.1)]
      exact (List.prefix_append loc [n]).trans (ih hu.2 _)

/-! ## Directories of paths -/

theorem Path.directory_cases (p : Path) : p.directory = here ∨ p.parent? = some p.directory := by
  unfold directory
  split
  · split
    · exact .inl rfl
    · exact .inr ‹_›
  · exact .inl rfl

theorem Path.not_up_directory {p : Path} (hu : ".." ∉ p.names) : ".." ∉ p.directory.names := by
  rcases p.directory_cases with h | h
  · rw [h]
    decide
  · exact fun hm => hu ((names_parent? h).2.subset hm)

/-- Dots at the end are dropped up to the first name. -/
theorem Path.dropDots_of_dot {names : List String} (h : (dropDots names).getLast? = some ".") :
    dropDots names = ["."] := by
  cases names with
  | nil => cases h
  | cons n rest =>
    have hd : dropDots (n :: rest) = n :: rest.rdropWhile (· == ".") := rfl
    rw [hd] at h ⊢
    cases hr : rest.rdropWhile (· == ".") with
    | nil =>
      rw [hr] at h
      exact congrArg (fun x => [x]) (Option.some.inj h)
    | cons m ms =>
      have hne : rest.rdropWhile (· == ".") ≠ [] := by rw [hr]; simp
      have hlast := List.rdropWhile_last_not (· == ".") rest hne
      rw [List.getLast?_cons, List.getLast?_eq_some_getLast hne] at h
      exact absurd (by simpa using h) hlast

/-- The directory of a path that names no file and does not go up has no name at all. -/
theorem Path.eq_dot_of_mem_directory {p : Path} (h : p.fileName? = none) (hu : ".." ∉ p.names)
    {n : String} (hn : n ∈ p.directory.names) : n = "." := by
  rcases p.directory_cases with hd | hd
  · rw [hd] at hn
    exact List.mem_singleton.1 hn
  · unfold parent? at hd
    split at hd
    · cases hd
    · rename_i m rest hm
      have hq : p.directory.names = (m :: rest).dropLast := by rw [← Option.some.inj hd]
      have hlast : (dropDots p.names).getLast? = some "." := by
        unfold fileName? at h
        split at h
        · rename_i hnone
          rw [hm] at hnone
          simp at hnone
        · assumption
        · rename_i hup
          exact absurd ((dropDots_isPrefix p.names).subset (List.mem_of_getLast? hup)) hu
        · cases h
      rw [hq, ← hm, dropDots_of_dot hlast] at hn
      cases hn

namespace FileSystem

variable {fs fs' fs'' : FileSystem} {loc l : Location} {p q : Path} {node : Node} {data : Bytes}
  {t : Timestamp} {made made' : Set Location}

/-! ## Trees -/

/-- Everything lies in a directory. -/
def IsTree (fs : FileSystem) : Prop :=
  ∀ l, fs.lookup l ≠ none → fs.lookup l.dropLast = some .directory

theorem IsTree.above (h : fs.IsTree) (hl : fs.lookup l ≠ none) (hp : loc <+: l) (hne : loc ≠ l) :
    fs.lookup loc = some .directory := by
  induction l using List.reverseRecOn with
  | nil => exact absurd (List.prefix_nil.1 hp) hne
  | append_singleton l n ih =>
    have hd : fs.lookup l = some .directory := by simpa using h _ hl
    rcases List.prefix_concat_iff.1 hp with rfl | hp
    · exact absurd rfl hne
    · by_cases he : loc = l
      · rwa [he]
      · exact ih (by rw [hd]; simp) hp he

/-- It is enough to look at what there is. -/
theorem isTree_of_nodes (h : ∀ e ∈ fs.nodes, fs.lookup e.1.dropLast = some .directory) :
    fs.IsTree := by
  intro l hl
  by_cases hne : l = []
  · rw [hne]
    rfl
  · obtain ⟨e, he, rfl⟩ := List.mem_map.1 (mem_nodes_of_lookup hne hl)
    exact h e he

/-- Between two file systems no directory went, those that appeared are at some locations, and what
is new lies in a directory. -/
structure Grown (made : Set Location) (fs fs' : FileSystem) : Prop where
  directories : ∀ l, fs.lookup l = some .directory → fs'.lookup l = some .directory
  made : ∀ l, fs'.lookup l = some .directory → fs.lookup l = some .directory ∨ l ∈ made
  rooted : ∀ l, fs'.lookup l ≠ none →
    fs.lookup l ≠ none ∨ fs'.lookup l.dropLast = some .directory

theorem IsTree.grown (h : fs.IsTree) (hg : Grown made fs fs') : fs'.IsTree := by
  intro l hl
  rcases hg.rooted l hl with ho | hr
  · exact hg.directories _ (h l ho)
  · exact hr

namespace Grown

theorem refl (made : Set Location) (fs : FileSystem) : Grown made fs fs :=
  ⟨fun _ h => h, fun _ h => .inl h, fun _ h => .inl h⟩

theorem tick (made : Set Location) (fs : FileSystem) : Grown made fs fs.tick :=
  ⟨fun _ h => h, fun _ h => .inl h, fun _ h => .inl h⟩

theorem mono (h : Grown made fs fs') (hs : made ⊆ made') : Grown made' fs fs' :=
  ⟨h.directories, fun l hl => (h.made l hl).imp_right fun hm => hs hm, h.rooted⟩

theorem of_empty (h : Grown ∅ fs fs') : Grown made fs fs' := h.mono (Set.empty_subset made)

theorem trans (h : Grown made fs fs') (h' : Grown made fs' fs'') : Grown made fs fs'' := by
  refine ⟨fun l hl => h'.directories l (h.directories l hl), fun l hl => ?_, fun l hl => ?_⟩
  · rcases h'.made l hl with ho | hm
    · exact h.made l ho
    · exact .inr hm
  · rcases h'.rooted l hl with ho | hr
    · exact (h.rooted l ho).imp_right fun hr => h'.directories _ hr
    · exact .inr hr

/-- A file that is put in a directory, or in the place of another file. -/
theorem insert_file (h : fs.lookup loc ≠ some .directory)
    (hr : fs.lookup loc ≠ none ∨ fs.lookup loc.dropLast = some .directory) (data : Bytes)
    (t : Timestamp) : Grown ∅ fs (fs.insert loc (.file data t)) := by
  have hl := lookup_insert fs (ne_nil_of_lookup h) (.file data t)
  have hd : ∀ l, fs.lookup l = some .directory →
      (fs.insert loc (.file data t)).lookup l = some .directory := by
    intro l hd
    rw [hl, if_neg (by rintro rfl; exact h hd), hd]
  refine ⟨hd, fun l hm => ?_, fun l hm => ?_⟩
  · rw [hl] at hm
    split at hm
    · cases hm
    · exact .inl hm
  · by_cases he : l = loc
    · rw [he]
      exact hr.imp_right (hd _)
    · rw [hl, if_neg he] at hm
      exact .inl hm

theorem insert_directory (h : fs.lookup loc = none)
    (hr : fs.lookup loc.dropLast = some .directory) : Grown {loc} fs (fs.insert loc .directory) := by
  have hl := lookup_insert fs (ne_nil_of_lookup (by rw [h]; simp)) .directory
  have hd : ∀ l, fs.lookup l = some .directory →
      (fs.insert loc .directory).lookup l = some .directory := by
    intro l hd
    rw [hl]
    split
    · rfl
    · exact hd
  refine ⟨hd, fun l hm => ?_, fun l hm => ?_⟩
  · by_cases he : l = loc
    · exact .inr he
    · rw [hl, if_neg he] at hm
      exact .inl hm
  · by_cases he : l = loc
    · rw [he]
      exact .inr (hd _ hr)
    · rw [hl, if_neg he] at hm
      exact .inl hm

theorem erase (h : fs.lookup loc ≠ some .directory) : Grown ∅ fs (fs.erase loc) := by
  have hl := lookup_erase fs (ne_nil_of_lookup h)
  refine ⟨fun l hd => ?_, fun l hm => ?_, fun l hm => ?_⟩
  · rw [hl, if_neg (by rintro rfl; exact h hd), hd]
  · rw [hl] at hm
    split at hm
    · cases hm
    · exact .inl hm
  · rw [hl] at hm
    split at hm
    · exact absurd rfl hm
    · exact .inl hm

end Grown

/-! ## Calls -/

theorem grown_change {α : Type} {act : FileSystem → Except IoError (α × FileSystem)}
    (h : ∀ a x, act fs.tick = .ok (a, x) → Grown made fs.tick x) :
    Grown made fs (fs.change act).2 := by
  rcases change_cases fs act with ⟨a, x, ha, hx⟩ | ⟨e, hx⟩
  · rw [hx]
    exact (Grown.tick made fs).trans (h a x ha)
  · rw [hx]
    exact .tick made fs

/-- A name that can be placed is in a directory. -/
theorem lookup_of_place {dir : Location} {n : String} (h : fs.place p = .ok (.entry dir n)) :
    fs.lookup (dir ++ [n]).dropLast = some .directory := by
  rw [List.dropLast_concat]
  exact (place_eq_entry_iff.1 h).2.2.1

theorem grown_setModified (fs : FileSystem) (p : Path) (t : Timestamp) :
    Grown ∅ fs (fs.setModified p t).2 := by
  refine grown_change fun a x ha => ?_
  split at ha
  · cases ha
  · cases ha
  · rename_i l old t' hr
    cases ha
    have hf := (resolve_eq_ok hr).2
    exact .insert_file (by rw [hf]; simp) (.inl (by rw [hf]; simp)) _ _

theorem grown_removeFile (fs : FileSystem) (p : Path) : Grown ∅ fs (fs.removeFile p).2 := by
  refine grown_change fun a x ha => ?_
  split at ha
  · cases ha
  · cases ha
  · split at ha
    · cases ha
    · cases ha
    · rename_i hf
      split at ha <;> cases ha
      exact .erase (by rw [hf]; simp)

theorem grown_renameFile (fs : FileSystem) (p q : Path) : Grown ∅ fs (fs.renameFile p q).2 := by
  refine grown_change fun a x ha => ?_
  split at ha
  · cases ha
  · cases ha
  · rename_i dir n dir' n' hp hq
    split at ha
    · cases ha
    · cases ha
    · rename_i data t hf
      split at ha
      · cases ha
      · split at ha
        · cases ha
        · rename_i hd
          cases ha
          have hf' : fs.tick.lookup (dir ++ [n]) ≠ some .directory := by rw [hf]; simp
          have he := Grown.erase hf'
          refine he.trans (.insert_file (fun h => ?_) (.inr ?_) _ _)
          · exact hd ((he.made _ h).resolve_right (Set.notMem_empty _))
          · exact he.directories _ (lookup_of_place hq)
  · cases ha

/-- Bytes were added to files, and what was there still is. -/
structure Filled (fs fs' : FileSystem) : Prop where
  grown : Grown ∅ fs fs'
  present : ∀ l, fs.lookup l ≠ none → fs'.lookup l ≠ none

namespace Filled

theorem refl (fs : FileSystem) : Filled fs fs := ⟨.refl _ _, fun _ h => h⟩

theorem trans (h : Filled fs fs') (h' : Filled fs' fs'') : Filled fs fs'' :=
  ⟨h.grown.trans h'.grown, fun l hl => h'.present l (h.present l hl)⟩

theorem fileAt (h : Filled fs fs') (hl : fs.fileAt l ≠ none) : fs'.fileAt l ≠ none := by
  have hn : fs.lookup l ≠ none := fun hn => hl (fileAt_of_none hn)
  have hd : fs'.lookup l ≠ some .directory := fun hd =>
    hl (fileAt_of_directory ((h.grown.made l hd).resolve_right (Set.notMem_empty l)))
  cases hf : fs'.lookup l with
  | none => exact absurd hf (h.present l hn)
  | some node =>
    cases node with
    | directory => exact absurd hf hd
    | file data t => rw [fileAt_eq_some_iff.2 hf]; simp

end Filled

theorem filled_append (fs : FileSystem) (loc : Location) (data : Bytes) :
    Filled fs (fs.append loc data).2 := by
  cases ho : (fs.append loc data).1 with
  | error e =>
    rw [show (fs.append loc data).2 = fs.tick from change_eq_error ho]
    exact ⟨.tick _ _, fun _ hl => hl⟩
  | ok n =>
    obtain ⟨x, ha, hx⟩ := change_eq_ok ho
    rw [show (fs.append loc data).2 = x from hx]
    split at ha
    · rename_i old t hf
      cases ha
      have hd : fs.tick.lookup loc ≠ some .directory := by rw [hf]; simp
      have hg := Grown.insert_file hd (.inl (by rw [hf]; simp))
        (old ++ data.take (fs.room data.length)) fs.tick.clock
      refine ⟨(Grown.tick _ fs).trans hg, fun l hl => ?_⟩
      rw [lookup_insert fs.tick (ne_nil_of_lookup hd)]
      split
      · simp
      · exact hl
    · cases ha
      exact ⟨.tick _ _, fun _ hl => hl⟩

theorem filled_appendAll (fs : FileSystem) (loc : Location) (data : Bytes) :
    Filled fs (fs.appendAll loc data).2.2 := by
  have step {fs fs' : FileSystem} {data : Bytes} {r : Except IoError Nat}
      (h : fs.append loc data = (r, fs')) : Filled fs fs' := by
    have hf := filled_append fs loc data
    rwa [h] at hf
  induction fs, data using appendAll_induction loc with
  | done fs => exact .refl fs
  | wrote fs data n fs' _ h ih => exact (step h).trans ih
  | again fs data e fs' _ h _ ih => exact (step h).trans ih
  | failed fs data e fs' _ h _ => exact step h

theorem grown_createFile (fs : FileSystem) (p : Path) : Grown ∅ fs (fs.createFile p).2 := by
  refine grown_change fun a x ha => ?_
  split at ha
  · cases ha
  · cases ha
  · rename_i dir n hp
    split at ha
    · cases ha
    · split at ha
      · cases ha
      · rename_i hd
        cases ha
        exact .insert_file hd (.inr (lookup_of_place hp)) _ _

theorem grown_writeFile (fs : FileSystem) (p : Path) (data : Bytes) :
    Grown ∅ fs (fs.writeFile p data).2 := by
  have hc := grown_createFile fs p
  unfold writeFile
  split <;> rename_i h <;> rw [h] at hc
  · exact hc
  · exact hc.trans (filled_appendAll _ _ data).grown

theorem grown_makeTemporary (fs : FileSystem) (p : Path) (reserved : Location) :
    Grown ∅ fs (fs.makeTemporary p reserved).2 := by
  refine grown_change fun a x ha => ?_
  split at ha
  · cases ha
  · cases ha
  · rename_i dir hr
    dsimp only at ha
    split at ha
    · cases ha
    · cases ha
      have hfree := (lookup_freeNumber fs.tick dir reserved).2
      have hd := (resolve_eq_ok hr).2
      have hi := Grown.insert_file (by rw [hfree]; simp)
        (.inr (by rw [List.dropLast_concat]; exact hd)) [] fs.tick.clock
      exact ⟨hi.directories, hi.made, hi.rooted⟩

/-! ## Making directories -/

/-- Where directories may be made for a path: wherever a name on it leads, dots left out. -/
def madeOn (fs : FileSystem) (p : Path) : Set Location :=
  {l | ∃ ns n, ns ++ [n] <+: p.names ∧ n ≠ "." ∧ n ≠ ".." ∧ l = follow (fs.start p) (ns ++ [n])}

theorem madeOn_congr (h : fs'.current = fs.current) (p : Path) : fs'.madeOn p = fs.madeOn p := by
  simp only [madeOn, start, h]

theorem madeOn_parent? (h : p.parent? = some q) : fs.madeOn q ⊆ fs.madeOn p := by
  obtain ⟨ha, hn⟩ := Path.names_parent? h
  have hs : fs.start q = fs.start p := by rw [start, ha, start]
  rintro l ⟨ns, n, hns, hd, hu, rfl⟩
  exact ⟨ns, n, hns.trans hn, hd, hu, by rw [hs]⟩

theorem grown_mkdir (fs : FileSystem) (p : Path) : Grown (fs.madeOn p) fs (fs.mkdir p).2 := by
  refine grown_change fun a x ha => ?_
  split at ha
  · cases ha
  · cases ha
  · rename_i dir n hp
    split at ha <;> cases ha
    have hl := place_eq_entry hp
    obtain ⟨-, -, -, hn, hd, hu, -⟩ := place_eq_entry_iff.1 hp
    have hnames := names_of_getLast? hn
    refine (Grown.insert_directory ‹_› (lookup_of_place hp)).mono ?_
    rintro l rfl
    refine ⟨p.names.dropLast, n, hnames ▸ List.prefix_refl _, hd, hu, ?_⟩
    rw [hl, locate_tick, locate, ← hnames]

theorem grown_mkdirAll (fs : FileSystem) (p : Path) : Grown (fs.madeOn p) fs (fs.mkdirAll p).2 := by
  induction hn : p.names.length using Nat.strong_induction_on generalizing fs p with
  | _ n ih =>
    have hm := grown_mkdir fs p
    have hc := (changed_mkdir fs p).current
    rw [mkdirAll]
    split
    · exact .refl _ fs
    · split
      · simpa [*] using hm
      · rename_i e fs' he
        rw [he] at hm hc
        split
        · split
          · exact hm
          · rename_i q hq
            have hq' := (ih q.names.length (hn ▸ Path.parent?_lt hq) fs' q rfl).mono
              (madeOn_parent? hq)
            have hc' := (changed_mkdirAll fs' q).current
            rw [madeOn_congr hc] at hq'
            dsimp only
            split
            · rename_i hq''
              rw [hq''] at hq'
              exact hm.trans hq'
            · rename_i fs'' hq''
              rw [hq''] at hq' hc'
              have hm' := grown_mkdir fs'' p
              rw [madeOn_congr (hc'.trans hc)] at hm'
              split
              · rename_i he'
                rw [he'] at hm'
                exact (hm.trans hq').trans hm'
              · rename_i he'
                rw [he'] at hm'
                split <;> exact (hm.trans hq').trans hm'
        · split <;> exact hm

/-- Where a directory stands none is made on its path. -/
theorem Stands.grown_mkdirAll (h : fs.Stands p) : Grown ∅ fs (fs.mkdirAll p).2 := by
  have ha : Agree Set.univ fs fs := ⟨rfl, rfl, rfl, rfl, fun _ _ => rfl⟩
  have ht := (ha.mkdirAll h fun _ _ => Set.mem_univ _).touched
  have hl (l : Location) : (fs.mkdirAll p).2.lookup l = fs.lookup l :=
    ht.elsewhere l (Set.notMem_empty l)
  exact ⟨ht.directories, fun l hm => .inl (by rwa [hl] at hm),
    fun l hm => .inl (by rwa [hl] at hm)⟩

theorem stands_of_isDirectory (h : fs.isDirectory p = true) : fs.Stands p := by
  unfold isDirectory at h
  split at h
  · exact stands_of_resolve ‹_›
  · cases h

/-- On a path that does not go up, all that is made lies above its end. -/
theorem prefix_of_madeOn (hu : ".." ∉ p.names) (h : l ∈ fs.madeOn p) : l <+: fs.locate p := by
  obtain ⟨ns, n, ⟨ms, hms⟩, -, -, rfl⟩ := h
  rw [locate, ← hms, follow_append _ (ns ++ [n])]
  refine prefix_follow (fun hm => hu ?_) _
  rw [← hms]
  exact List.mem_append_right _ hm

theorem madeOn_directory_of_not_fileName? (h : p.fileName? = none) (hu : ".." ∉ p.names) :
    fs.madeOn p.directory = ∅ := by
  refine Set.eq_empty_of_forall_notMem ?_
  rintro l ⟨ns, n, hns, hd, -, -⟩
  exact hd (Path.eq_dot_of_mem_directory h hu (hns.subset (by simp)))

/-! ## Paths that are resolved -/

/-- What it takes to resolve a path. -/
theorem resolve_eq_ok_iff : fs.resolve p = .ok (l, node) ↔
    textFault? p = none ∧ fs.walk (fs.start p) p.names = .ok l ∧ fs.lookup l = some node ∧
      (node = .directory ∨ p.slash = false ∧ p.names.getLast? ≠ some ".") := by
  unfold resolve
  constructor
  · intro h
    split at h
    · cases h
    · split at h
      · cases h
      · split at h
        · cases h
        · split at h <;> cases h
          refine ⟨‹_›, ‹_›, ‹_›, .inr ?_⟩
          simp_all
        · cases h
          exact ⟨‹_›, ‹_›, ‹_›, .inl rfl⟩
  · rintro ⟨ht, hw, hl, rfl | ⟨hs, hn⟩⟩
    · simp only [ht, hw, hl]
    · simp only [ht, hw, hl]
      cases node <;> simp [hs, hn]

/-- A path leads to its file, or to its directory, while these stay. -/
theorem resolve_mono (hc : fs'.current = fs.current)
    (hd : ∀ l, fs.lookup l = some .directory → fs'.lookup l = some .directory)
    (hf : fs'.fileAt (fs.locate p) = fs.fileAt (fs.locate p)) {x : Location × Node}
    (h : fs.resolve p = .ok x) : fs'.resolve p = .ok x := by
  obtain ⟨l, node⟩ := x
  obtain ⟨ht, hw, hl, hk⟩ := resolve_eq_ok_iff.1 h
  obtain rfl : l = fs.locate p := walk_eq_follow hw
  have hs : fs'.start p = fs.start p := by rw [start, hc, start]
  refine resolve_eq_ok_iff.2 ⟨ht, by rw [hs]; exact walk_mono hd hw, ?_, hk⟩
  cases node with
  | directory => exact hd _ hl
  | file data t => rw [← fileAt_eq_some_iff, hf, fileAt_eq_some_iff, hl]

theorem resolve_of_tick {x : Location × Node} (h : fs.tick.resolve p = .ok x) :
    fs.resolve p = .ok x :=
  @resolve_mono fs.tick fs p rfl (fun _ hl => hl) rfl x h

/-- A walk that does not go up needs the directories above its end alone. -/
theorem walk_of_above {names : List String} (hu : ".." ∉ names) (h : fs'.walk loc names = .ok l)
    (hd : ∀ l', l' <+: l → fs'.lookup l' = some .directory → fs.lookup l' = some .directory) :
    fs.walk loc names = .ok l := by
  induction names generalizing loc with
  | nil => exact h
  | cons n names ih =>
    have hp : loc <+: l := walk_eq_follow h ▸ prefix_follow hu loc
    rw [List.mem_cons, not_or] at hu
    rw [walk] at h ⊢
    split at h
    · cases h
    · cases h
    · rename_i hl
      rw [hd loc hp hl]
      dsimp only
      rw [if_neg (Ne.symm hu.1)] at h ⊢
      split at h
      · rw [if_pos ‹_›]
        exact ih hu.2 h
      · rw [if_neg ‹_›]
        split at h
        · cases h
        · rw [if_neg ‹_›]
          exact ih hu.2 h

/-- The first part of a walk ends where the second one begins. -/
theorem exists_walk_append {ns ms : List String} (h : fs.walk loc (ns ++ ms) = .ok l) :
    ∃ dir, fs.walk loc ns = .ok dir ∧ fs.walk dir ms = .ok l := by
  induction ns generalizing loc with
  | nil => exact ⟨loc, rfl, h⟩
  | cons n ns ih =>
    rw [List.cons_append, walk] at h
    rw [walk]
    split at h
    · cases h
    · cases h
    · split at h
      · rw [if_pos ‹_›]
        exact ih h
      · rw [if_neg ‹_›]
        split at h
        · rw [if_pos ‹_›]
          exact ih h
        · rw [if_neg ‹_›]
          split at h
          · cases h
          · rw [if_neg ‹_›]
            exact ih h

/-- The path can be placed as soon as its directory is there. -/
structure Nameable (p : Path) : Prop where
  text : textFault? p = none
  slash : p.slash = false
  last : ∃ n, p.names.getLast? = some n ∧ n ≠ "." ∧ n ≠ ".." ∧ nameSize n ≤ nameLimit

theorem Placed.nameable (h : fs.Placed p) : Nameable p := by
  obtain ⟨hs, dir, n, hp⟩ := h
  obtain ⟨ht, -, -, hn, hd, hu, hl⟩ := place_eq_entry_iff.1 hp
  exact ⟨ht, hs, n, hn, hd, hu, hl⟩

theorem Nameable.placed (h : Nameable p) (hw : fs.walk (fs.start p) p.names.dropLast = .ok loc)
    (hd : fs.lookup loc = some .directory) : fs.Placed p := by
  obtain ⟨n, hn, h1, h2, hl⟩ := h.last
  exact ⟨h.slash, loc, n, place_eq_entry_iff.2 ⟨h.text, hw, hd, hn, h1, h2, hl⟩⟩

/-- Two file systems resolve a path alike. Why it cannot be resolved may differ. -/
def SameAt (p : Path) (fs fs' : FileSystem) : Prop :=
  ∀ x, fs'.resolve p = .ok x ↔ fs.resolve p = .ok x

namespace SameAt

/-- **Where no directory was made**, a path leads where it led while its file stays. -/
theorem of_grown (hg : Grown ∅ fs fs') (hc : fs'.current = fs.current)
    (hf : fs'.fileAt (fs.locate p) = fs.fileAt (fs.locate p)) : SameAt p fs fs' := by
  intro x
  constructor
  · refine resolve_mono hc.symm (fun l hl => ?_) (by rw [locate_congr hc, hf])
    exact (hg.made l hl).resolve_right (Set.notMem_empty l)
  · exact resolve_mono hc hg.directories hf

/-- **Where directories were made** in a tree, a path that does not go up leads where it led, unless
one of them is what it leads to. -/
theorem of_made (ht : fs.IsTree) (hg : Grown made fs fs') (hc : fs'.current = fs.current)
    (hf : fs'.fileAt (fs.locate p) = fs.fileAt (fs.locate p)) (hu : ".." ∉ p.names)
    (hm : fs.locate p ∉ made) : SameAt p fs fs' := by
  rintro ⟨l, node⟩
  refine ⟨fun h => ?_, resolve_mono hc hg.directories hf⟩
  obtain ⟨htext, hw, hl, hk⟩ := resolve_eq_ok_iff.1 h
  have hs : fs'.start p = fs.start p := by rw [start, hc, start]
  rw [hs] at hw
  obtain rfl : l = fs.locate p := walk_eq_follow hw
  have hold : fs.lookup (fs.locate p) = some node := by
    cases node with
    | directory => exact (hg.made _ hl).resolve_right hm
    | file data t => rwa [← fileAt_eq_some_iff, ← hf, fileAt_eq_some_iff]
  refine resolve_eq_ok_iff.2 ⟨htext, walk_of_above hu hw fun l' hp hd => ?_, hold, hk⟩
  -- what is above the end is a directory, and the end is what it was
  by_cases he : l' = fs.locate p
  · rw [he] at hd ⊢
    rw [hold, ← hl, hd]
  · exact ht.above (by rw [hold]; simp) hp he

variable (h : SameAt p fs fs')
include h

theorem cases : (∃ x, fs.resolve p = .ok x ∧ fs'.resolve p = .ok x) ∨
    ∃ e e', fs.resolve p = .error e ∧ fs'.resolve p = .error e' := by
  rcases hr : fs.resolve p with e | x
  · rcases hr' : fs'.resolve p with e' | x'
    · exact .inr ⟨e, e', rfl, rfl⟩
    · rw [(h x').1 hr'] at hr
      cases hr
  · exact .inl ⟨x, rfl, (h x).2 hr⟩

theorem contains : fs'.contains p = fs.contains p := by
  unfold FileSystem.contains
  rcases h.cases with ⟨x, hr, hr'⟩ | ⟨e, e', hr, hr'⟩ <;> rw [hr, hr']

theorem readFile : (fs'.readFile p).toOption = (fs.readFile p).toOption := by
  unfold FileSystem.readFile
  rcases h.cases with ⟨x, hr, hr'⟩ | ⟨e, e', hr, hr'⟩ <;> rw [hr, hr']
  rfl

theorem readText? : fs'.readText? p = fs.readText? p := by
  unfold FileSystem.readText? FileSystem.readFile
  rcases h.cases with ⟨x, hr, hr'⟩ | ⟨e, e', hr, hr'⟩ <;> rw [hr, hr']

theorem modified? (hc : fs'.clock = fs.clock) : fs'.modified? p = fs.modified? p := by
  unfold FileSystem.modified?
  rcases h.cases with ⟨x, hr, hr'⟩ | ⟨e, e', hr, hr'⟩ <;> rw [hr, hr']
  rw [hc]

end SameAt

/-- The time of a file that was found can be set, and it is found with that time then. -/
theorem resolve_setModified (h : (fs.setModified p t).1 = .ok ()) :
    ∃ data t', fs.resolve p = .ok (fs.locate p, .file data t') ∧
      (fs.setModified p t).2.resolve p = .ok (fs.locate p, .file data t) := by
  obtain ⟨hc, data, t', ho, hn⟩ := changed_setModified h
  obtain ⟨x, ha, -⟩ := change_eq_ok h
  split at ha
  · cases ha
  · cases ha
  · rename_i l old t'' hr
    have hr := resolve_of_tick hr
    obtain ⟨ht, hw, hl, hk⟩ := resolve_eq_ok_iff.1 hr
    obtain rfl : l = fs.locate p := walk_eq_follow hw
    obtain ⟨rfl, rfl⟩ : old = data ∧ t'' = t' := by
      rw [fileAt_eq_some_iff, hl] at ho
      simpa using ho
    have hs : (fs.setModified p t).2.start p = fs.start p := by rw [start, hc.current, start]
    refine ⟨old, t'', hr, resolve_eq_ok_iff.2 ⟨ht, ?_, fileAt_eq_some_iff.1 hn, ?_⟩⟩
    · rw [hs]
      exact walk_mono hc.directories hw
    · exact .inr (hk.resolve_left (by simp))

/-- Nothing is changed for a path that leads nowhere. -/
theorem setModified_of_missing (h : fs.contains p = false) (t : Timestamp) :
    ∃ e, fs.setModified p t = (.error e, fs.tick) := by
  cases ho : (fs.setModified p t).1 with
  | error e => exact ⟨e, Prod.ext ho (change_eq_error ho)⟩
  | ok u =>
    obtain ⟨data, t', hr, -⟩ := resolve_setModified ho
    rw [contains, hr] at h
    cases h

end FileSystem

end Refetch.Storage
