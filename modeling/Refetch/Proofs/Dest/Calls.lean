import Refetch.Proofs.Dest.Places
/-!
# Calls of file destinations

Each call has a lemma that says at which locations it may change files, what is there then and whether
a temporary file is left.

1. Opening the sink makes a new temporary file (`Begun`) and drops that of an earlier transfer.
2. The temporary file and the buffer before it hold together what the open sink has accepted
   (`Gained`). When the sink is let go, the file holds it alone, or the last bytes of it are lost
   (`moved_closeSink`).
3. A completion puts the temporary file in the target's place or drops it. A temporary file that
   cannot be removed stays.
4. A tag that cannot be set leaves the sidecar alone or leaves first bytes of the tag in it
   (`setEtag_cases`).
-/

namespace Refetch.OnDisk

open Storage

variable {d y : OnDisk}

/-! ## Opening the sink -/

theorem openSink_eq (d : OnDisk) :
    Dest.openSink d =
      match d.dest.prepare d.disk with
      | (.error e, fs) => (.error e, { d with disk := fs })
      | (.ok loc, fs) =>
        (.ok (), ⟨{ d.dest with pending := some loc, buffer := [] }, (d.dest.discard fs).2⟩) := by
  simp only [Dest.openSink, FileDest.openSink]
  rcases d.dest.prepare d.disk with ⟨_ | _, fs⟩ <;> rfl

theorem prepare_error {e : IoError} {fs : FileSystem}
    (h : d.dest.prepare d.disk = (.error e, fs)) : FileSystem.Changed ∅ d.disk fs := by
  have hm := FileSystem.changed_mkdirAll d.disk d.dest.target.directory
  unfold FileDest.prepare at h
  split at h <;> rename_i hf <;> rw [hf] at hm
  · cases h
    exact hm
  · have ht := FileSystem.changed_of_error (e := e) (congrArg Prod.fst h)
    rw [← FileSystem.makeTemporary, h] at ht
    exact hm.trans ht

theorem openSink_error {e : IoError} (he : (Dest.openSink d).1 = .error e) :
    Moved ∅ d (Dest.openSink d).2 ∧ (Dest.openSink d).2.dest = d.dest := by
  rw [openSink_eq] at he ⊢
  split at he
  · rename_i f fs hf
    exact ⟨⟨rfl, prepare_error hf⟩, rfl⟩
  · cases he

/-- Nothing but the temporary file goes, and it goes if it can be removed. -/
theorem changed_discard {dest : FileDest} (fs : FileSystem) (hp : ∀ loc ∈ dest.pending, Plain loc) :
    FileSystem.Changed {l | l ∈ dest.pending} fs (dest.discard fs).2 ∧
      ((dest.discard fs).1 = .ok () → ∀ loc ∈ dest.pending,
        (dest.discard fs).2.fileAt loc = none) := by
  unfold FileDest.discard
  split
  · rename_i loc hd
    have hl : fs.locate (.ofLocation loc) = loc := FileSystem.locate_ofLocation (hp loc hd)
    have hs : ({l | l ∈ dest.pending} : Set Location) = {loc} := by
      ext l
      simp [hd, eq_comm]
    rw [hs]
    cases hr : (fs.removeFile (.ofLocation loc)).1 with
    | error e => exact ⟨(FileSystem.changed_of_error hr).of_empty, nofun⟩
    | ok u =>
      obtain ⟨hc, hg⟩ := FileSystem.changed_removeFile hr
      rw [hl] at hc hg
      refine ⟨hc, fun _ l hm => ?_⟩
      obtain rfl : loc = l := by simpa [hd] using hm
      exact hg
  · rename_i hd
    simp [hd, FileSystem.Changed.refl]

/-- A temporary file lies in the target's directory, under another name. -/
structure Temporary (d : OnDisk) (loc : Location) : Prop where
  name : ∃ n, loc = d.directory ++ [FileSystem.temporaryName n]
  ne_target : loc ≠ d.target

namespace Temporary

variable {loc : Location}

theorem plain (h : d.Temporary loc) : Plain loc := by
  obtain ⟨n, rfl⟩ := h.name
  exact plain_concat (FileSystem.plain_locate _ _) (FileSystem.temporaryName_ne_dots n).1
    (FileSystem.temporaryName_ne_dots n).2

theorem ne_sidecar (h : d.Temporary loc) : loc ≠ d.sidecar := by
  rintro rfl
  obtain ⟨n, hn⟩ := h.name
  exact d.getLast?_sidecar n (by rw [hn, List.getLast?_concat])

theorem of_moved {locs : Set Location} (h : d.Temporary loc) (hm : Moved locs d y) :
    y.Temporary loc :=
  ⟨by simpa [hm.directory] using h.name, by simpa [hm.target] using h.ne_target⟩

end Temporary

/-- A transfer that has just begun writes to a new temporary file. -/
structure Begun (d : OnDisk) (loc : Location) (y : OnDisk) : Prop where
  moved : Moved (insert loc {l | l ∈ d.dest.pending}) d y
  pending : y.dest.pending = some loc
  buffer : y.dest.buffer = []
  temporary : d.Temporary loc
  /-- Nothing was there before. -/
  free : d.disk.fileAt loc = none
  content : y.disk.fileAt loc = some ([], d.disk.clock)
  /-- The earlier temporary file is gone if it could be removed. -/
  dropped : ∃ fs, d.dest.prepare d.disk = (.ok loc, fs) ∧
    ((d.dest.discard fs).1 = .ok () → ∀ old ∈ d.dest.pending, y.disk.fileAt old = none)

theorem Sound.openSink_ok (h : d.Sound) (ho : (Dest.openSink d).1 = .ok ()) :
    ∃ loc, d.Begun loc (Dest.openSink d).2 := by
  have hm := FileSystem.changed_mkdirAll d.disk d.dest.target.directory
  rw [openSink_eq] at ho ⊢
  split at ho
  · cases ho
  · rename_i loc fs hprep
    have hprep' := hprep
    unfold FileDest.prepare at hprep'
    split at hprep'
    · cases hprep'
    · rename_i fs' hf
      rw [hf] at hm
      obtain ⟨hc, hcont, hfree, hne, n, hn⟩ := FileSystem.changed_makeTemporary
        (congrArg Prod.fst hprep')
      rw [hprep'] at hc hcont
      rw [hm.locate] at hn hne
      dsimp only at hc hcont hm ⊢
      have hfree : d.disk.fileAt loc = none := by
        rw [← hm.files loc (by simp), FileSystem.fileAt_of_none hfree]
      have hold : ∀ old ∈ d.dest.pending, loc ≠ old := by
        rintro old hp rfl
        exact (h.pending _ hp).2.2.2 hfree
      have hplain : ∀ old ∈ d.dest.pending, Plain old := fun old hp => (h.pending old hp).1
      obtain ⟨hr, hgone⟩ := changed_discard fs hplain
      refine ⟨loc, ⟨rfl, ?_⟩, rfl, rfl, ⟨⟨n, hn⟩, hne⟩, hfree, ?_, fs, hprep, hgone⟩
      · exact (hm.of_empty.trans (hc.mono (by simp))).trans (hr.mono (Set.subset_insert _ _))
      · rw [hr.files loc fun hl => hold loc hl rfl, hcont, hm.clock]

/-! ## The open sink -/

/-- The temporary file at a location and the buffer before it hold some bytes together. -/
def Holds (d : OnDisk) (loc : Location) (bs : Bytes) : Prop :=
  ∃ data, d.disk.fileAt loc = some (data, d.disk.clock) ∧ data ++ d.dest.buffer = bs

/-- An open sink has accepted some bytes, and at most its temporary file has changed. -/
structure Gained (loc : Location) (bs : Bytes) (d y : OnDisk) : Prop where
  moved : Moved {loc} d y
  pending : y.dest.pending = d.dest.pending
  holds : ∀ cs, d.Holds loc cs → y.Holds loc (cs ++ bs)

namespace Gained

variable {loc : Location} {bs cs : Bytes} {z : OnDisk}

theorem nothing (hm : Moved ∅ d y) (hd : y.dest = d.dest) : Gained loc [] d y := by
  refine ⟨hm.of_empty, congrArg _ hd, fun cs ⟨data, hf, hb⟩ => ⟨data, ?_, ?_⟩⟩
  · rw [hm.disk.files loc (by simp), hm.disk.clock, hf]
  · rw [hd, hb, List.append_nil]

theorem trans (h : Gained loc bs d y) (h' : Gained loc cs y z) : Gained loc (bs ++ cs) d z :=
  ⟨h.moved.trans h'.moved, h'.pending.trans h.pending,
    fun _ hx => List.append_assoc .. ▸ h'.holds _ (h.holds _ hx)⟩

/-- Bytes that were added to the file, of which some may come out of the buffer. -/
theorem of_appended {fs : FileSystem} {data buffer : Bytes}
    (ha : FileSystem.Appended d.disk loc data fs) (hb : d.dest.buffer ++ bs = data ++ buffer) :
    Gained loc bs d ⟨{ d.dest with buffer := buffer }, fs⟩ := by
  refine ⟨⟨rfl, ha.changed⟩, rfl, fun cs ⟨old, hf, hc⟩ => ⟨old ++ data, ha.added old hf, ?_⟩⟩
  rw [← hc, List.append_assoc, List.append_assoc, hb]

end Gained

theorem flush_of_not_pending (h : d.dest.pending = none) : Dest.flush d = (.ok (), d) := by
  show OnDisk.flush d = _
  simp [OnDisk.flush, FileDest.flush, h]

theorem flush_of_empty (hb : d.dest.buffer = []) : Dest.flush d = (.ok (), d) := by
  show OnDisk.flush d = _
  simp only [OnDisk.flush, FileDest.flush]
  split
  · rfl
  · rw [hb, FileSystem.appendAll_nil]
    simp only [← hb]

section OpenSink

variable {loc : Location} (hp : d.dest.pending = some loc)
include hp

theorem flush_eq : Dest.flush d =
    ((d.disk.appendAll loc d.dest.buffer).1,
      ⟨{ d.dest with buffer := (d.disk.appendAll loc d.dest.buffer).2.1 },
        (d.disk.appendAll loc d.dest.buffer).2.2⟩) := by
  show OnDisk.flush d = _
  simp only [OnDisk.flush, FileDest.flush, hp]

/-- **Flushing** moves bytes from the buffer to the file. -/
theorem gained_flush : Gained loc [] d (Dest.flush d).2 := by
  obtain ⟨front, hb, ha, -⟩ := FileSystem.appended_appendAll d.disk loc d.dest.buffer
  rw [flush_eq hp]
  exact .of_appended ha (by rw [hb, List.append_nil])

/-- It moves all of them if it succeeds. -/
theorem flush_ok_iff : (Dest.flush d).1 = .ok () ↔ (Dest.flush d).2.dest.buffer = [] := by
  obtain ⟨-, -, -, ho⟩ := FileSystem.appended_appendAll d.disk loc d.dest.buffer
  rw [flush_eq hp]
  exact ho

/-- Room is made by writing out, and for as much as the buffer takes only by writing out all. -/
theorem makeRoom_spec (n : Nat) : let r := d.dest.makeRoom d.disk n
    Gained loc [] d ⟨r.2.1, r.2.2⟩ ∧
      (r.1 = .ok () → FileDest.capacity ≤ n → r.2.1.buffer = []) := by
  unfold FileDest.makeRoom
  split
  · exact ⟨gained_flush hp, fun ho _ => (flush_ok_iff hp).1 ho⟩
  · exact ⟨.nothing (.refl d) rfl, fun _ _ => List.length_eq_zero_iff.1 (by dsimp only; omega)⟩

/-- What is accepted is in the file or in the buffer. -/
theorem gained_write (chunk : Bytes) : Gained loc
    (chunk.take (Sink.taken (Sink.write d chunk).1)) d (Sink.write d chunk).2 := by
  show Gained loc (chunk.take (Sink.taken (OnDisk.write d chunk).1)) d (OnDisk.write d chunk).2
  obtain ⟨hm, hb⟩ := makeRoom_spec hp chunk.length
  simp only [OnDisk.write, FileDest.write, hp]
  generalize d.dest.makeRoom d.disk chunk.length = m at hm hb ⊢
  obtain ⟨_ | _, dest, fs⟩ := m
  · exact hm
  · dsimp only at hm hb ⊢
    split
    · -- the buffer is empty, so that what is added to the file comes after all that was accepted
      rename_i hc
      rcases hr : fs.append loc chunk with ⟨e | n, fs'⟩
      · have hu : FileSystem.Changed ∅ fs (fs.append loc chunk).2 :=
          FileSystem.changed_of_error (congrArg Prod.fst hr)
        rw [hr] at hu
        exact hm.trans (.nothing ⟨rfl, hu⟩ rfl)
      · refine hm.trans (.of_appended (FileSystem.appended_append hr) ?_)
        simp [hb rfl hc, Sink.taken]
    · refine hm.trans ⟨⟨rfl, .refl _ _⟩, rfl, ?_⟩
      rintro cs ⟨data, hf, rfl⟩
      exact ⟨data, hf, by simp [Sink.taken]⟩

end OpenSink

theorem write_of_not_pending (h : d.dest.pending = none) (chunk : Bytes) :
    Sink.write d chunk = (.ok chunk.length, d) := by
  show OnDisk.write d chunk = _
  simp only [OnDisk.write, FileDest.write, h]

/-! ## The sink let go -/

/-- The destination without what its sink held back. -/
def emptied (d : OnDisk) : OnDisk := { d with dest := { d.dest with buffer := [] } }

theorem closeSink_eq (d : OnDisk) :
    Dest.closeSink d = ((Dest.flush d).1, (Dest.flush d).2.emptied) := rfl

theorem closeSink_of_empty (hb : d.dest.buffer = []) : Dest.closeSink d = (.ok (), d) := by
  rw [closeSink_eq, flush_of_empty hb]
  simp only [emptied, ← hb]

/-- What is lost if the sink is let go: what it holds back and cannot write. -/
def lost (d : OnDisk) : Bytes := (Dest.flush d).2.dest.buffer

theorem closeSink_ok_iff {loc : Location} (hp : d.dest.pending = some loc) :
    (Dest.closeSink d).1 = .ok () ↔ d.lost = [] := flush_ok_iff hp

/-- What the sink held back is in the temporary file, but for what is lost. -/
theorem moved_closeSink {loc : Location} (hp : d.dest.pending = some loc) :
    Moved {loc} d (Dest.closeSink d).2 ∧ (Dest.closeSink d).2.dest.pending = some loc ∧
      ∀ bs, d.Holds loc bs → ∃ data, (Dest.closeSink d).2.disk.fileAt loc =
        some (data, (Dest.closeSink d).2.disk.clock) ∧ data ++ d.lost = bs := by
  have hg := gained_flush hp
  refine ⟨⟨hg.moved.path, hg.moved.disk⟩, hg.pending.trans hp, fun bs hb => ?_⟩
  obtain ⟨data, hf, hd⟩ := hg.holds bs hb
  exact ⟨data, hf, hd.trans (List.append_nil bs)⟩

/-! ## Completions -/

theorem complete_of_not_pending (h : d.dest.pending = none) (success : Bool) :
    Dest.complete d success = (.ok (), d) := by
  simp [Dest.complete, FileDest.complete, h]

section Completion

variable {loc : Location} (hp : d.dest.pending = some loc)
include hp

theorem plain_pending (hl : Plain loc) : ∀ l ∈ d.dest.pending, Plain l := by
  intro l hm
  obtain rfl : loc = l := by simpa [hp] using hm
  exact hl

theorem complete_true_eq : Dest.complete d true =
    match d.disk.renameFile (.ofLocation loc) d.dest.target with
    | (.ok (), fs) => (.ok (), ⟨{ d.dest with pending := none }, fs⟩)
    | (.error e, fs) => (.error e, ⟨{ d.dest with pending := none }, (d.dest.discard fs).2⟩) := by
  simp only [Dest.complete, FileDest.complete, hp]
  rcases d.disk.renameFile (.ofLocation loc) d.dest.target with ⟨_ | _, fs⟩ <;> rfl

theorem complete_false_eq : Dest.complete d false =
    match d.dest.discard d.disk with
    | (.ok (), fs) => (.ok (), ⟨{ d.dest with pending := none }, fs⟩)
    | (.error e, fs) =>
      (.error (FileSystem.faultAt loc e), ⟨{ d.dest with pending := none }, fs⟩) := by
  simp only [Dest.complete, FileDest.complete, hp]
  rcases d.dest.discard d.disk with ⟨_ | _, fs⟩ <;> rfl

/-- No completion leaves a transfer under way, and none touches the buffer. -/
theorem pending_complete (success : Bool) : (Dest.complete d success).2.dest.pending = none ∧
    (Dest.complete d success).2.dest.buffer = d.dest.buffer := by
  cases success
  · rw [complete_false_eq hp]
    split <;> exact ⟨rfl, rfl⟩
  · rw [complete_true_eq hp]
    split <;> exact ⟨rfl, rfl⟩

/-- The temporary file takes the place of the target. -/
theorem complete_true_ok (hl : Plain loc) (ho : (Dest.complete d true).1 = .ok ()) :
    Moved {loc, d.target} d (Dest.complete d true).2 ∧
      (Dest.complete d true).2.disk.fileAt d.target = d.disk.fileAt loc ∧
      (loc ≠ d.target → (Dest.complete d true).2.disk.fileAt loc = none) ∧
      (Dest.complete d true).2.Placed := by
  rw [complete_true_eq hp] at ho ⊢
  split at ho
  · rename_i fs h
    obtain ⟨hc, hf, hg, hq⟩ := FileSystem.changed_renameFile (congrArg Prod.fst h)
    rw [FileSystem.locate_ofLocation hl, h] at hc hf hg
    exact ⟨⟨rfl, hc⟩, hf, hg, hc.placed hq⟩
  · cases ho

/-- The temporary file is removed if it can be. -/
theorem complete_true_error (hl : Plain loc) {e : IoError}
    (he : (Dest.complete d true).1 = .error e) :
    Moved {loc} d (Dest.complete d true).2 ∧
      ∃ fs, d.disk.renameFile (.ofLocation loc) d.dest.target = (.error e, fs) ∧
        ((d.dest.discard fs).1 = .ok () → (Dest.complete d true).2.disk.fileAt loc = none) := by
  rw [complete_true_eq hp] at he ⊢
  split at he
  · cases he
  · rename_i f fs h
    cases he
    have hc := FileSystem.changed_of_error (congrArg Prod.fst h)
    rw [← FileSystem.renameFile, h] at hc
    obtain ⟨hd, hg⟩ := changed_discard fs (plain_pending hp hl)
    exact ⟨⟨rfl, hc.of_empty.trans (hd.mono (by simp [hp]))⟩, fs, h, fun ho => hg ho loc hp⟩

theorem complete_false (hl : Plain loc) :
    Moved {loc} d (Dest.complete d false).2 ∧
      ((Dest.complete d false).1 = .ok () ↔ (d.dest.discard d.disk).1 = .ok ()) ∧
      ((Dest.complete d false).1 = .ok () →
        (Dest.complete d false).2.disk.fileAt loc = none) := by
  obtain ⟨hc, hg⟩ := changed_discard d.disk (plain_pending hp hl)
  rw [complete_false_eq hp]
  split <;> rename_i fs h <;> rw [h] at hc hg
  · exact ⟨⟨rfl, hc.mono (by simp [hp])⟩, by simp [h], fun _ => hg rfl loc hp⟩
  · exact ⟨⟨rfl, hc.mono (by simp [hp])⟩, by simp [h], fun hok => by cases hok⟩

end Completion

/-! ## Validators -/

theorem setLastModified_ok {t : Timestamp} (ho : (Dest.setLastModified d t).1 = .ok ()) :
    Moved {d.target} d (Dest.setLastModified d t).2 ∧
      ∃ data t', d.disk.fileAt d.target = some (data, t') ∧
        (Dest.setLastModified d t).2.disk.fileAt d.target = some (data, t) := by
  have ho : (d.disk.setModified d.dest.target t).1 = .ok () := ho
  obtain ⟨hc, hf⟩ := FileSystem.changed_setModified ho
  exact ⟨⟨rfl, hc⟩, hf⟩

theorem setLastModified_error {t : Timestamp} {e : IoError}
    (he : (Dest.setLastModified d t).1 = .error e) : Moved ∅ d (Dest.setLastModified d t).2 :=
  ⟨rfl, FileSystem.changed_of_error he⟩

/-- Setting a tag has opened the sidecar and written first bytes of the tag to it, all of them if it
succeeded. -/
structure Tagged (d : OnDisk) (tag : String) (r : Except IoError Unit × OnDisk) : Prop where
  moved : Moved {d.sidecar} d r.2
  content : ∃ front left, front ++ left = Text.Utf8.encode tag ∧ (r.1 = .ok () ↔ left = []) ∧
    r.2.disk.fileAt d.sidecar = some (front, d.disk.clock)
  placed : r.2.TagPlaced

/-- **Setting a tag** changes nothing and fails, or it writes to the sidecar. -/
theorem setEtag_cases (d : OnDisk) (tag : String) :
    Moved ∅ d (Dest.setEtag d tag).2 ∧ (Dest.setEtag d tag).1 ≠ .ok () ∨
      Tagged d tag (Dest.setEtag d tag) := by
  rcases FileSystem.written_writeFile d.disk (Path.ofText d.dest.etagPath)
    (Text.Utf8.encode tag) with ⟨hc, ho⟩ | hw
  · exact .inl ⟨⟨rfl, hc⟩, ho⟩
  · exact .inr ⟨⟨rfl, hw.changed⟩, hw.content, hw.changed.placed hw.placed⟩

theorem moved_setEtag (d : OnDisk) (tag : String) : Moved {d.sidecar} d (Dest.setEtag d tag).2 := by
  rcases d.setEtag_cases tag with ⟨hm, -⟩ | ht
  · exact hm.of_empty
  · exact ht.moved

end Refetch.OnDisk
