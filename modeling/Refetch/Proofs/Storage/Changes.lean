import Refetch.Proofs.Storage.Locations
/-!
# What calls change

1. `Changed locs` bounds a change: files change at most at some locations, and directories stay.
   Changes one after the other add up.
2. Each call has two lemmas at most: where it changes files when it succeeds and what is there then,
   and that it changes none when it fails. A file that is written in more than one write may be left
   with some first bytes (`written_writeFile`).
3. A temporary file is made where nothing was (`lookup_freeNumber`), since a directory has fewer
   entries than there are names to try.
-/

namespace Refetch.Storage.FileSystem

variable {fs fs' fs'' : FileSystem} {loc l : Location} {p q : Path} {data : Bytes}
  {t : Timestamp} {e : IoError}

/-- Between two file systems no directory went, and files changed at most at some locations. -/
structure Changed (locs : Set Location) (fs fs' : FileSystem) : Prop where
  current : fs'.current = fs.current
  clock : fs'.clock = fs.clock
  directories : ∀ l, fs.lookup l = some .directory → fs'.lookup l = some .directory
  files : ∀ l ∉ locs, fs'.fileAt l = fs.fileAt l

namespace Changed

variable {locs locs' : Set Location}

theorem refl (locs : Set Location) (fs : FileSystem) : Changed locs fs fs :=
  ⟨rfl, rfl, fun _ h => h, fun _ _ => rfl⟩

theorem mono (h : Changed locs fs fs') (hs : locs ⊆ locs') : Changed locs' fs fs' :=
  ⟨h.current, h.clock, h.directories, fun l hl => h.files l fun hm => hl (hs hm)⟩

theorem of_empty (h : Changed ∅ fs fs') : Changed locs fs fs' := h.mono (Set.empty_subset locs)

theorem trans (h : Changed locs fs fs') (h' : Changed locs fs' fs'') : Changed locs fs fs'' :=
  ⟨h'.current.trans h.current, h'.clock.trans h.clock,
    fun l hl => h'.directories l (h.directories l hl),
    fun l hl => (h'.files l hl).trans (h.files l hl)⟩

theorem locate (h : Changed locs fs fs') (p : Path) : fs'.locate p = fs.locate p :=
  locate_congr h.current p

theorem placed (h : Changed locs fs fs') (hp : fs.Placed p) : fs'.Placed p := by
  obtain ⟨hs, dir, n, hp⟩ := hp
  exact ⟨hs, dir, n, place_mono h.directories h.current hp⟩

end Changed

/-! ## Nodes put and removed -/

theorem ne_nil_of_lookup (h : fs.lookup loc ≠ some .directory) : loc ≠ [] := by
  rintro rfl
  exact h rfl

theorem changed_insert_file (h : fs.lookup loc ≠ some .directory) (data : Bytes) (t : Timestamp) :
    Changed {loc} fs (fs.insert loc (.file data t)) ∧
      (fs.insert loc (.file data t)).fileAt loc = some (data, t) := by
  have hl := lookup_insert fs (ne_nil_of_lookup h) (.file data t)
  refine ⟨⟨rfl, rfl, fun l hd => ?_, fun l hn => ?_⟩, ?_⟩
  · rw [hl, if_neg (by rintro rfl; exact h hd), hd]
  · exact fileAt_of_lookup_eq (by rw [hl, if_neg (by simpa using hn)])
  · rw [fileAt_eq_some_iff, hl, if_pos rfl]

theorem changed_erase (h : fs.lookup loc ≠ some .directory) :
    Changed {loc} fs (fs.erase loc) ∧ (fs.erase loc).fileAt loc = none := by
  have hl := lookup_erase fs (ne_nil_of_lookup h)
  refine ⟨⟨rfl, rfl, fun l hd => ?_, fun l hn => ?_⟩, ?_⟩
  · rw [hl, if_neg (by rintro rfl; exact h hd), hd]
  · exact fileAt_of_lookup_eq (by rw [hl, if_neg (by simpa using hn)])
  · exact fileAt_of_none (by rw [hl, if_pos rfl])

theorem changed_insert_directory (h : fs.lookup loc = none) :
    Changed ∅ fs (fs.insert loc .directory) := by
  have hl := lookup_insert fs (ne_nil_of_lookup (by rw [h]; simp)) .directory
  refine ⟨rfl, rfl, fun l hd => ?_, fun l _ => ?_⟩
  · rw [hl]
    split
    · rfl
    · exact hd
  · by_cases hl' : l = loc
    · subst hl'
      rw [fileAt_of_none h, fileAt_of_directory (by rw [hl, if_pos rfl])]
    · exact fileAt_of_lookup_eq (by rw [hl, if_neg hl'])

/-! ## Single changes -/

/-- The file system after a call that changes nothing. -/
def tick (fs : FileSystem) : FileSystem := { fs with verdicts := fs.verdicts.tail }

theorem changed_tick (fs : FileSystem) : Changed ∅ fs fs.tick :=
  ⟨rfl, rfl, fun _ h => h, fun _ _ => rfl⟩

theorem locate_tick (fs : FileSystem) (p : Path) : fs.tick.locate p = fs.locate p := rfl

theorem place_of_tick {x : Place} (h : fs.tick.place p = .ok x) : fs.place p = .ok x :=
  place_mono (show ∀ l, fs.tick.lookup l = _ → fs.lookup l = _ from fun _ h => h) rfl h

section Change

variable {α : Type} {act : FileSystem → Except IoError (α × FileSystem)} {a : α}

theorem change_cases (fs : FileSystem) (act : FileSystem → Except IoError (α × FileSystem)) :
    (∃ a x, act fs.tick = .ok (a, x) ∧ fs.change act = (.ok a, x)) ∨
      ∃ e, fs.change act = (.error e, fs.tick) := by
  unfold change
  dsimp only
  split
  · exact .inr ⟨_, rfl⟩
  · split
    · exact .inl ⟨_, _, ‹_›, rfl⟩
    · exact .inr ⟨_, rfl⟩

theorem change_eq_ok (h : (fs.change act).1 = .ok a) :
    ∃ x, act fs.tick = .ok (a, x) ∧ (fs.change act).2 = x := by
  rcases change_cases fs act with ⟨b, x, ha, hx⟩ | ⟨f, hx⟩
  · rw [hx] at h ⊢
    cases h
    exact ⟨x, ha, rfl⟩
  · rw [hx] at h
    cases h

theorem change_eq_error (h : (fs.change act).1 = .error e) : (fs.change act).2 = fs.tick := by
  rcases change_cases fs act with ⟨b, x, -, hx⟩ | ⟨f, hx⟩
  · rw [hx] at h
    cases h
  · rw [hx]

theorem changed_of_error (h : (fs.change act).1 = .error e) : Changed ∅ fs (fs.change act).2 := by
  rw [change_eq_error h]
  exact changed_tick fs

end Change

/-! ## Directories -/

theorem changed_mkdir (fs : FileSystem) (p : Path) : Changed ∅ fs (fs.mkdir p).2 := by
  cases h : (fs.mkdir p).1 with
  | error e => exact changed_of_error h
  | ok u =>
    obtain ⟨x, ha, hx⟩ := change_eq_ok h
    show Changed ∅ fs (fs.change _).2
    rw [hx]
    split at ha
    · cases ha
    · cases ha
    · split at ha <;> cases ha
      exact (changed_tick fs).trans (changed_insert_directory ‹_›)

theorem changed_mkdirAll (fs : FileSystem) (p : Path) : Changed ∅ fs (fs.mkdirAll p).2 := by
  induction hn : p.names.length using Nat.strong_induction_on generalizing fs p with
  | _ n ih =>
    have hm := changed_mkdir fs p
    rw [mkdirAll]
    split
    · exact Changed.refl ∅ fs
    · split
      · simpa [*] using hm
      · rename_i e fs' he
        rw [he] at hm
        split
        · split
          · exact hm
          · rename_i q hq
            have hq' := ih q.names.length (hn ▸ Path.parent?_lt hq) fs' q rfl
            dsimp only
            split
            · rename_i hq''
              rw [hq''] at hq'
              exact hm.trans hq'
            · rename_i fs'' hq''
              rw [hq''] at hq'
              have hm' := changed_mkdir fs'' p
              split
              · rename_i he'
                rw [he'] at hm'
                exact (hm.trans hq').trans hm'
              · rename_i he'
                rw [he'] at hm'
                split <;> exact (hm.trans hq').trans hm'
        · split <;> exact hm

/-! ## Files -/

/-- Bytes were added to an open file that was written just now, and no other file changed. -/
structure Appended (fs : FileSystem) (loc : Location) (bs : Bytes) (fs' : FileSystem) : Prop where
  changed : Changed {loc} fs fs'
  added : ∀ old, fs.fileAt loc = some (old, fs.clock) → fs'.fileAt loc = some (old ++ bs, fs'.clock)

namespace Appended

variable {bs bs' : Bytes}

theorem of_unchanged (h : Changed ∅ fs fs') : Appended fs loc [] fs' := by
  refine ⟨h.of_empty, fun old hf => ?_⟩
  rw [h.files loc (Set.notMem_empty loc), hf, h.clock, List.append_nil]

theorem trans (h : Appended fs loc bs fs') (h' : Appended fs' loc bs' fs'') :
    Appended fs loc (bs ++ bs') fs'' := by
  refine ⟨h.changed.trans h'.changed, fun old hf => ?_⟩
  rw [h'.added _ (h.added old hf), List.append_assoc]

end Appended

theorem appended_append {n : Nat} (h : fs.append loc data = (.ok n, fs')) :
    Appended fs loc (data.take n) fs' := by
  obtain ⟨x, ha, hx⟩ := change_eq_ok (congrArg Prod.fst h)
  obtain rfl : fs' = x := (congrArg Prod.snd h).symm.trans hx
  split at ha <;> cases ha
  · rename_i old t hf
    have hd : fs.tick.lookup loc ≠ some .directory := by
      rw [hf]
      simp
    obtain ⟨hc, hn⟩ := changed_insert_file hd
      (old ++ data.take (fs.room data.length)) fs.tick.clock
    refine ⟨(changed_tick fs).of_empty.trans hc, fun old' hf' => ?_⟩
    have hf : fs.fileAt loc = some (old, t) := fileAt_eq_some_iff.2 hf
    obtain ⟨rfl, -⟩ : old = old' ∧ t = fs.clock := by simpa [hf] using hf'
    exact hn
  · rename_i hf
    refine ⟨(changed_tick fs).of_empty, fun old hf' => ?_⟩
    exact absurd (fileAt_eq_some_iff.1 hf') (hf old _)

/-- **Writing until it is done** adds what is not given back, and gives back nothing on success. -/
theorem appended_appendAll (fs : FileSystem) (loc : Location) (data : Bytes) :
    let r := fs.appendAll loc data
    ∃ front, front ++ r.2.1 = data ∧ Appended fs loc front r.2.2 ∧ (r.1 = .ok () ↔ r.2.1 = []) := by
  induction fs, data using appendAll_induction loc with
  | done fs => exact ⟨[], rfl, .of_unchanged (.refl _ _), by simp⟩
  | wrote fs data n fs' _ h ih =>
    obtain ⟨front, hd, ha, ho⟩ := ih
    refine ⟨data.take n ++ front, ?_, (appended_append h).trans ha, ho⟩
    rw [List.append_assoc, hd, List.take_append_drop]
  | again fs data e fs' _ h _ ih =>
    obtain ⟨front, hd, ha, ho⟩ := ih
    have hc : Changed ∅ fs (fs.append loc data).2 := changed_of_error (congrArg Prod.fst h)
    rw [h] at hc
    exact ⟨front, hd, (Appended.of_unchanged hc).trans ha, ho⟩
  | failed fs data e fs' hd h _ =>
    have hc : Changed ∅ fs (fs.append loc data).2 := changed_of_error (congrArg Prod.fst h)
    rw [h] at hc
    exact ⟨[], rfl, .of_unchanged hc, by simp [hd]⟩

theorem changed_removeFile (h : (fs.removeFile p).1 = .ok ()) :
    Changed {fs.locate p} fs (fs.removeFile p).2 ∧
      (fs.removeFile p).2.fileAt (fs.locate p) = none := by
  obtain ⟨x, ha, hx⟩ := change_eq_ok h
  show Changed _ fs (fs.change _).2 ∧ (fs.change _).2.fileAt _ = _
  rw [hx]
  split at ha
  · cases ha
  · cases ha
  · rename_i dir n hp
    have hl := place_eq_entry hp
    rw [locate_tick] at hl
    rw [hl] at ha
    split at ha
    · cases ha
    · cases ha
    · split at ha <;> cases ha
      have hd : fs.tick.lookup (fs.locate p) ≠ some .directory := by simp [*]
      have hc := changed_erase hd
      exact ⟨(changed_tick fs).of_empty.trans hc.1, hc.2⟩

/-- **Renaming** takes a file's content along; what had the name is gone. -/
theorem changed_renameFile (h : (fs.renameFile p q).1 = .ok ()) :
    Changed {fs.locate p, fs.locate q} fs (fs.renameFile p q).2 ∧
      (fs.renameFile p q).2.fileAt (fs.locate q) = fs.fileAt (fs.locate p) ∧
      (fs.locate p ≠ fs.locate q → (fs.renameFile p q).2.fileAt (fs.locate p) = none) ∧
      fs.Placed q := by
  obtain ⟨x, ha, hx⟩ := change_eq_ok h
  have hx : (fs.renameFile p q).2 = x := hx
  rw [hx]
  split at ha
  · cases ha
  · cases ha
  · rename_i dir n dir' n' hp hq
    have hlp := place_eq_entry hp
    have hlq := place_eq_entry hq
    rw [locate_tick] at hlp hlq
    rw [hlp, hlq] at ha
    split at ha
    · cases ha
    · cases ha
    · rename_i data t hf
      split at ha
      · cases ha
      · rename_i hs
        split at ha
        · cases ha
        · rename_i hd
          cases ha
          have hf' : fs.fileAt (fs.locate p) = some (data, t) := fileAt_eq_some_iff.2 hf
          have hd' : fs.tick.lookup (fs.locate p) ≠ some .directory := by rw [hf]; simp
          have he := changed_erase hd'
          have hl : (fs.tick.erase (fs.locate p)).lookup (fs.locate q) ≠ some .directory := by
            rw [lookup_erase fs.tick (ne_nil_of_lookup hd')]
            split <;> simp_all
          have hi := changed_insert_file hl data t
          refine ⟨(changed_tick fs).of_empty.trans ?_, hi.2.trans hf'.symm, fun hne => ?_,
            by simpa using hs, dir', n', place_of_tick hq⟩
          · exact (he.1.mono (by simp)).trans (hi.1.mono (by simp))
          · rw [hi.1.files _ (by simpa using hne), he.2]
  · cases ha

theorem changed_createFile (h : fs.createFile p = (.ok loc, fs')) :
    loc = fs.locate p ∧ Changed {loc} fs fs' ∧ fs'.fileAt loc = some ([], fs.clock) ∧
      fs.Placed p := by
  obtain ⟨x, ha, hx⟩ := change_eq_ok (congrArg Prod.fst h)
  obtain rfl : fs' = x := (congrArg Prod.snd h).symm.trans hx
  split at ha
  · cases ha
  · cases ha
  · rename_i dir n hp
    have hl := place_eq_entry hp
    rw [locate_tick] at hl
    rw [hl] at ha
    split at ha
    · cases ha
    · rename_i hs
      split at ha
      · cases ha
      · cases ha
        rename_i hd
        have hi := changed_insert_file hd [] fs.tick.clock
        exact ⟨rfl, (changed_tick fs).of_empty.trans hi.1, hi.2, by simpa using hs, dir, n,
          place_of_tick hp⟩

/-- A call has opened a file and written first bytes of the data to it, all of them if it
succeeded. -/
structure Written (fs : FileSystem) (p : Path) (data : Bytes)
    (r : Except IoError Unit × FileSystem) : Prop where
  changed : Changed {fs.locate p} fs r.2
  content : ∃ front left, front ++ left = data ∧ (r.1 = .ok () ↔ left = []) ∧
    r.2.fileAt (fs.locate p) = some (front, fs.clock)
  placed : fs.Placed p

theorem written_writeFile (fs : FileSystem) (p : Path) (data : Bytes) :
    Changed ∅ fs (fs.writeFile p data).2 ∧ (fs.writeFile p data).1 ≠ .ok () ∨
      Written fs p data (fs.writeFile p data) := by
  unfold writeFile
  split
  · rename_i e fs' h
    have hc : Changed ∅ fs (fs.createFile p).2 := changed_of_error (congrArg Prod.fst h)
    rw [h] at hc
    exact .inl ⟨hc, nofun⟩
  · rename_i loc fs' h
    obtain ⟨rfl, hc, hf, hp⟩ := changed_createFile h
    obtain ⟨front, hd, ha, ho⟩ := appended_appendAll fs' (fs.locate p) data
    refine .inr ⟨hc.trans ha.changed, ⟨front, _, hd, ho, ?_⟩, hp⟩
    rw [ha.added [] (by rw [hf, hc.clock]), ha.changed.clock, hc.clock, List.nil_append]

theorem changed_setModified (h : (fs.setModified p t).1 = .ok ()) :
    Changed {fs.locate p} fs (fs.setModified p t).2 ∧
      ∃ old t', fs.fileAt (fs.locate p) = some (old, t') ∧
        (fs.setModified p t).2.fileAt (fs.locate p) = some (old, t) := by
  obtain ⟨x, ha, hx⟩ := change_eq_ok h
  show Changed _ fs (fs.change _).2 ∧ ∃ old t', _ ∧ (fs.change _).2.fileAt _ = _
  rw [hx]
  split at ha
  · cases ha
  · cases ha
  · rename_i l old t' hr
    obtain ⟨hl, hf⟩ := resolve_eq_ok hr
    rw [locate_tick] at hl
    subst hl
    cases ha
    have hd : fs.tick.lookup (fs.locate p) ≠ some .directory := by rw [hf]; simp
    have hi := changed_insert_file hd old t
    exact ⟨(changed_tick fs).of_empty.trans hi.1, old, t', fileAt_eq_some_iff.2 hf, hi.2⟩

/-! ## Temporary files -/

theorem toList_temporaryName (n : Nat) : (temporaryName n).toList =
    ".tmp".toList ++
      (List.replicate (6 - (Nat.toDigits 10 n).length) '0' ++ Nat.toDigits 10 n) := by
  rw [← List.append_assoc]
  exact String.toList_ofList

theorem temporaryName_injective : Function.Injective temporaryName := by
  intro n m h
  have digits (k : Nat) : Nat.ofDigitChars 10 ((temporaryName k).toList.drop 4) 0 = k := by
    have hl : ".tmp".toList.length = 4 := by decide
    rw [toList_temporaryName, ← hl, List.drop_left, Nat.ofDigitChars_append,
      Nat.ofDigitChars_replicate_zero, Nat.mul_zero, Nat.ofDigitChars_ten_toDigits]
  rw [← digits n, h, digits m]

theorem mem_nodes_of_lookup (hl : loc ≠ []) (h : fs.lookup loc ≠ none) :
    loc ∈ fs.nodes.map (·.1) := by
  rw [lookup, if_neg hl, ← Option.isSome_iff_ne_none, List.lookup_isSome_iff] at h
  obtain ⟨x, hx, he⟩ := h
  exact List.mem_map.2 ⟨x, hx, (beq_iff_eq.1 he).symm⟩

/-- **The name of a temporary file** is free: there are more numbers to try than names taken. -/
theorem lookup_freeNumber (fs : FileSystem) (dir reserved : Location) :
    dir ++ [temporaryName (fs.freeNumber dir reserved)] ≠ reserved ∧
      fs.lookup (dir ++ [temporaryName (fs.freeNumber dir reserved)]) = none := by
  unfold freeNumber
  cases h : (List.range' fs.issued (fs.nodes.length + 2)).find? fun n =>
      dir ++ [temporaryName n] != reserved && (fs.lookup (dir ++ [temporaryName n])).isNone with
  | some n => simpa using List.find?_some h
  | none =>
    -- every name is taken, so the entries and the reserved one are at least as many as the names
    have taken : (List.range' fs.issued (fs.nodes.length + 2)).map
        (fun n => dir ++ [temporaryName n]) ⊆ reserved :: fs.nodes.map (·.1) := by
      intro l hl
      obtain ⟨n, hn, rfl⟩ := List.mem_map.1 hl
      have hn := List.find?_eq_none.1 h n hn
      by_cases hr : dir ++ [temporaryName n] = reserved
      · exact List.mem_cons.2 (.inl hr)
      · exact List.mem_cons.2 (.inr (mem_nodes_of_lookup (by simp) (by simpa [hr] using hn)))
    have distinct : ((List.range' fs.issued (fs.nodes.length + 2)).map
        (fun n => dir ++ [temporaryName n])).Nodup :=
      List.Nodup.map (fun n m hnm => temporaryName_injective (by simpa using hnm))
        List.nodup_range'
    have := distinct.length_le_of_subset taken
    simp only [List.length_map, List.length_range', List.length_cons] at this
    omega

theorem temporaryName_ne_dots (n : Nat) : temporaryName n ≠ "." ∧ temporaryName n ≠ ".." := by
  have h (s : String) (hs : s.toList.length < 4) : temporaryName n ≠ s := fun he => by
    have hl := congrArg (fun s => s.toList.length) he
    have ht : ".tmp".toList.length = 4 := by decide
    simp only [toList_temporaryName, List.length_append, ht] at hl
    omega
  exact ⟨h _ (by decide), h _ (by decide)⟩

/-- A temporary file is empty, has a name of its kind in the directory, and is where nothing was. -/
theorem changed_makeTemporary {reserved : Location}
    (h : (fs.makeTemporary p reserved).1 = .ok loc) :
    Changed {loc} fs (fs.makeTemporary p reserved).2 ∧
      (fs.makeTemporary p reserved).2.fileAt loc = some ([], fs.clock) ∧
      fs.lookup loc = none ∧ loc ≠ reserved ∧
      ∃ n, loc = fs.locate p ++ [temporaryName n] := by
  obtain ⟨x, ha, hx⟩ := change_eq_ok h
  have hx : (fs.makeTemporary p reserved).2 = x := hx
  rw [hx]
  split at ha
  · cases ha
  · cases ha
  · rename_i dir hr
    obtain ⟨hd, -⟩ := resolve_eq_ok hr
    dsimp only at ha
    split at ha
    · cases ha
    · cases ha
      obtain ⟨hne, hfree⟩ := lookup_freeNumber fs.tick dir reserved
      obtain ⟨hc, hf⟩ := changed_insert_file (by rw [hfree]; simp) [] fs.tick.clock
      exact ⟨(changed_tick fs).of_empty.trans ⟨hc.current, hc.clock, hc.directories, hc.files⟩,
        hf, hfree, hne, _, by rw [hd, locate_tick]⟩

end Refetch.Storage.FileSystem
