import Refetch.Proofs.Dest.Commits
import Refetch.Proofs.Storage.Trees
/-!
# Steps aside of what is seen

1. `seen` is what a destination in a file shows: the target's content, the tag and the time.
2. Most steps are made aside of target and sidecar (`Aside`): they grow the tree of files and change
   files elsewhere. If they make no directory, what is seen stays (`Aside.seen`).
3. Opening the sink makes directories on the target's path. What is seen stays if the directory is
   there already or the path does not go up (`Sound.seen_openSink`).
-/

namespace Refetch.OnDisk

open Storage
open Storage.FileSystem (Grown IsTree SameAt Filled)

variable {d y z : OnDisk} {made : Set Location} {loc : Location} {fs : FileSystem}

/-! ## What is seen -/

def seen (d : OnDisk) : Kept String where
  data := (d.disk.readFile d.dest.target).toOption
  tag := Dest.etag d
  time := Dest.lastModified d

theorem etag_eq (d : OnDisk) : Dest.etag d =
    if d.disk.contains d.dest.target then d.disk.readText? (Path.ofText d.dest.etagPath)
    else none := rfl

/-- What is seen depends on where the two paths lead, and on the clock. -/
theorem seen_congr (hp : y.dest.path = d.dest.path) (hc : y.disk.clock = d.disk.clock)
    (ht : SameAt d.dest.target d.disk y.disk)
    (hs : SameAt (Path.ofText d.dest.etagPath) d.disk y.disk) : y.seen = d.seen := by
  have htarget : y.dest.target = d.dest.target := by rw [FileDest.target, hp, FileDest.target]
  have hsidecar : y.dest.etagPath = d.dest.etagPath := by
    rw [FileDest.etagPath, hp, FileDest.etagPath]
  refine Kept.ext ?_ ?_ ?_
  · show (y.disk.readFile y.dest.target).toOption = _
    rw [htarget, ht.readFile]
    rfl
  · show Dest.etag y = Dest.etag d
    rw [etag_eq, etag_eq, htarget, hsidecar, ht.contains, hs.readText?]
  · show y.disk.modified? y.dest.target = d.disk.modified? d.dest.target
    rw [htarget, ht.modified? hc]

/-! ## Steps aside -/

/-- A step changed neither target nor sidecar, and made directories at some places at most. -/
structure Aside (made : Set Location) (d y : OnDisk) : Prop where
  moved : Moved {d.target, d.sidecar}ᶜ d y
  grown : Grown made d.disk y.disk
  sound : y.Sound

namespace Aside

theorem of_moved {locs : Set Location} (hm : Moved locs d y) (ht : d.target ∉ locs)
    (hs : d.sidecar ∉ locs) (hg : Grown made d.disk y.disk) (hy : y.Sound) : Aside made d y := by
  refine ⟨hm.mono fun l hl => ?_, hg, hy⟩
  rintro (rfl | rfl)
  · exact ht hl
  · exact hs hl

variable (h : Aside made d y)
include h

theorem fileAt_target : y.disk.fileAt d.target = d.disk.fileAt d.target :=
  h.moved.disk.files _ (by simp)

theorem fileAt_sidecar : y.disk.fileAt d.sidecar = d.disk.fileAt d.sidecar :=
  h.moved.disk.files _ (by simp)

end Aside

/-- **Where no directory is made** nothing that is seen changes. -/
theorem Aside.seen (h : Aside ∅ d y) : y.seen = d.seen :=
  seen_congr h.moved.path h.moved.disk.clock
    (.of_grown h.grown h.moved.disk.current h.fileAt_target)
    (.of_grown h.grown h.moved.disk.current h.fileAt_sidecar)

/-- A change of a file that is neither of the two is a step aside if the file is still there or the
transfer has ended. -/
theorem Sound.aside (h : d.Sound) (hp : d.dest.pending = some loc) (hm : Moved {loc} d y)
    (hg : Grown ∅ d.disk y.disk)
    (hy : y.dest.pending = none ∨ y.dest.pending = some loc ∧ y.disk.fileAt loc ≠ none) :
    Aside ∅ d y := by
  obtain ⟨hl, ht, hs, -⟩ := h.pending loc hp
  refine .of_moved hm (Ne.symm ht) (Ne.symm hs) hg ?_
  rcases hy with hy | ⟨hy, hf⟩
  · exact .of_not_pending hy
  · refine ⟨fun l hl' => ?_⟩
    obtain rfl : loc = l := by simpa [hy] using hl'
    rw [hm.target, hm.sidecar]
    exact ⟨hl, ht, hs, hf⟩

theorem Sound.aside_refl (h : d.Sound) : Aside ∅ d d :=
  .of_moved (.refl d) (Set.notMem_empty _) (Set.notMem_empty _) (.refl _ _) h

/-- A call that fails without any change. -/
theorem Sound.aside_of_unchanged (h : d.Sound) (hm : Moved ∅ d y) (hg : Grown ∅ d.disk y.disk)
    (hy : y.dest = d.dest) : Aside ∅ d y :=
  .of_moved hm (Set.notMem_empty _) (Set.notMem_empty _) hg
    (hm.sound h fun _ hl => ⟨by rwa [hy] at hl, Set.notMem_empty _⟩)

/-! ## The calls -/

theorem filled_flush (d : OnDisk) : Filled d.disk (Dest.flush d).2.disk := by
  cases hp : d.dest.pending with
  | none =>
    rw [flush_of_not_pending hp]
    exact .refl _
  | some loc =>
    rw [flush_eq hp]
    exact FileSystem.filled_appendAll d.disk loc d.dest.buffer

theorem filled_write (d : OnDisk) (chunk : Bytes) : Filled d.disk (Sink.write d chunk).2.disk := by
  cases hp : d.dest.pending with
  | none =>
    rw [write_of_not_pending hp]
    exact .refl _
  | some loc =>
    have hm : Filled d.disk (d.dest.makeRoom d.disk chunk.length).2.2 := by
      unfold FileDest.makeRoom
      split
      · exact filled_flush d
      · exact .refl _
    show Filled d.disk (OnDisk.write d chunk).2.disk
    simp only [OnDisk.write, FileDest.write, hp]
    generalize d.dest.makeRoom d.disk chunk.length = m at hm ⊢
    obtain ⟨_ | _, dest, fs⟩ := m
    · exact hm
    · dsimp only at hm ⊢
      split
      · exact hm.trans (FileSystem.filled_append fs loc chunk)
      · exact hm

theorem grown_discard (dest : FileDest) (fs : FileSystem) : Grown ∅ fs (dest.discard fs).2 := by
  unfold FileDest.discard
  split
  · exact FileSystem.grown_removeFile fs _
  · exact .refl _ _

theorem grown_complete (d : OnDisk) (success : Bool) :
    Grown ∅ d.disk (Dest.complete d success).2.disk := by
  cases hp : d.dest.pending with
  | none =>
    rw [complete_of_not_pending hp]
    exact .refl _ _
  | some loc =>
    cases success with
    | true =>
      have hr := FileSystem.grown_renameFile d.disk (.ofLocation loc) d.dest.target
      rw [complete_true_eq hp]
      split
      · simpa [*] using hr
      · rename_i e fs he
        rw [he] at hr
        exact hr.trans (grown_discard d.dest fs)
    | false =>
      have hr := grown_discard d.dest d.disk
      rw [complete_false_eq hp]
      split <;> simpa [*] using hr

theorem grown_setEtag (d : OnDisk) (tag : String) : Grown ∅ d.disk (Dest.setEtag d tag).2.disk :=
  FileSystem.grown_writeFile d.disk _ _

theorem grown_setLastModified (d : OnDisk) (t : Timestamp) :
    Grown ∅ d.disk (Dest.setLastModified d t).2.disk :=
  FileSystem.grown_setModified d.disk _ _

/-- Opening the sink makes the directories that `mkdirAll` makes. -/
theorem grown_prepare {dest : FileDest} {fs : FileSystem}
    (hm : Grown made fs (fs.mkdirAll dest.target.directory).2) :
    Grown made fs (dest.prepare fs).2 := by
  unfold FileDest.prepare
  split <;> rename_i hf <;> rw [hf] at hm
  · exact hm
  · exact hm.trans (FileSystem.grown_makeTemporary _ _ _).of_empty

theorem grown_openSink (hm : Grown made d.disk (d.disk.mkdirAll d.dest.target.directory).2) :
    Grown made d.disk (Dest.openSink d).2.disk := by
  have hp := grown_prepare hm
  rw [openSink_eq]
  split <;> rename_i hf <;> rw [hf] at hp
  · exact hp
  · exact hp.trans (grown_discard d.dest _).of_empty

namespace Sound

variable (h : d.Sound)
include h

theorem aside_openSink (hm : Grown made d.disk (d.disk.mkdirAll d.dest.target.directory).2) :
    Aside made d (Dest.openSink d).2 := by
  have hg := grown_openSink hm
  cases hr : (Dest.openSink d).1 with
  | ok u =>
    obtain ⟨loc, hb⟩ := h.openSink_ok hr
    refine .of_moved hb.moved ?_ ?_ hg hb.sound
    · simpa using ⟨hb.temporary.ne_target.symm, h.apart.1⟩
    · simpa using ⟨hb.temporary.ne_sidecar.symm, h.apart.2⟩
  | error e =>
    obtain ⟨hm, hd⟩ := openSink_error hr
    exact .of_moved hm (Set.notMem_empty _) (Set.notMem_empty _) hg
      (hm.sound h fun _ hl => ⟨by rwa [hd] at hl, Set.notMem_empty _⟩)

theorem aside_write (chunk : Bytes) : Aside ∅ d (Sink.write d chunk).2 := by
  cases hp : d.dest.pending with
  | none =>
    rw [write_of_not_pending hp]
    exact h.aside_refl
  | some loc =>
    have hg := gained_write hp chunk
    have hf := filled_write d chunk
    exact h.aside hp hg.moved hf.grown
      (.inr ⟨hg.pending.trans hp, hf.fileAt (h.pending loc hp).2.2.2⟩)

theorem aside_flush : Aside ∅ d (Dest.flush d).2 := by
  cases hp : d.dest.pending with
  | none =>
    rw [flush_of_not_pending hp]
    exact h.aside_refl
  | some loc =>
    have hg := gained_flush hp
    have hf := filled_flush d
    exact h.aside hp hg.moved hf.grown
      (.inr ⟨hg.pending.trans hp, hf.fileAt (h.pending loc hp).2.2.2⟩)

theorem aside_closeSink : Aside ∅ d (Dest.closeSink d).2 := by
  obtain ⟨hm, hg, hs⟩ := h.aside_flush
  rw [closeSink_eq]
  exact ⟨⟨hm.path, hm.disk⟩, hg, ⟨hs.pending⟩⟩

theorem aside_complete_false : Aside ∅ d (Dest.complete d false).2 := by
  cases hp : d.dest.pending with
  | none =>
    rw [complete_of_not_pending hp]
    exact h.aside_refl
  | some loc =>
    exact h.aside hp (complete_false hp (h.pending loc hp).1).1 (grown_complete d false)
      (.inl (pending_complete hp false).1)

theorem aside_complete_error {e : IoError} (he : (Dest.complete d true).1 = .error e) :
    Aside ∅ d (Dest.complete d true).2 := by
  cases hp : d.dest.pending with
  | none =>
    rw [complete_of_not_pending hp] at he
    cases he
  | some loc =>
    exact h.aside hp (complete_true_error hp (h.pending loc hp).1 he).1 (grown_complete d true)
      (.inl (pending_complete hp true).1)

end Sound

/-! ## Opening the sink -/

/-- What a path that does not go up leads to is not made with its directory. -/
theorem target_notMem_madeOn (hu : ".." ∉ d.dest.target.names) :
    d.target ∉ d.disk.madeOn d.dest.target.directory ∧
      d.sidecar ∉ d.disk.madeOn d.dest.target.directory := by
  cases hn : d.dest.target.fileName? with
  | none =>
    rw [FileSystem.madeOn_directory_of_not_fileName? hn hu]
    exact ⟨Set.notMem_empty _, Set.notMem_empty _⟩
  | some n =>
    -- all that is made lies above the directory, and the two files lie below it
    have hbelow (ns : List String) (hne : ns ≠ []) :
        d.directory ++ ns ∉ d.disk.madeOn d.dest.target.directory := fun hm => by
      have hl := (FileSystem.prefix_of_madeOn (Path.not_up_directory hu) hm).length_le
      have hpos := List.length_pos_iff.2 hne
      rw [List.length_append, directory] at hl
      omega
    have ht : d.target = d.directory ++ [n] := FileSystem.locate_of_fileName? hn
    refine ⟨by rw [ht]; exact hbelow _ (by simp), ?_⟩
    rcases sidecar_of_fileName? hn with hs | ⟨x, hs⟩
    · rw [hs]
      exact hbelow _ (by simp)
    · rw [hs]
      exact hbelow _ (by simp)

theorem not_up_sidecar (hu : ".." ∉ d.dest.target.names) :
    ".." ∉ (Path.ofText d.dest.etagPath).names := by
  obtain ⟨names, last, ht, hs, -⟩ := d.sidecar_names
  rw [hs, List.mem_append, not_or]
  refine ⟨fun hm => hu (by rw [ht]; exact List.mem_append_left _ hm), fun hm => ?_⟩
  have hl := congrArg (fun s => s.toList.length) (List.mem_singleton.1 hm)
  simp at hl

/-- **Opening the sink** changes nothing that is seen if the directory is there already or the path
of the target does not go up. -/
theorem Sound.seen_openSink (h : d.Sound) (ht : d.disk.IsTree)
    (hd : d.disk.isDirectory d.dest.target.directory = true ∨ ".." ∉ d.dest.target.names) :
    (Dest.openSink d).2.seen = d.seen := by
  rcases hd with hd | hu
  · exact (h.aside_openSink (FileSystem.stands_of_isDirectory hd).grown_mkdirAll).seen
  · have ha := h.aside_openSink (FileSystem.grown_mkdirAll d.disk d.dest.target.directory)
    obtain ⟨htarget, hsidecar⟩ := target_notMem_madeOn hu
    exact seen_congr ha.moved.path ha.moved.disk.clock
      (.of_made ht ha.grown ha.moved.disk.current ha.fileAt_target hu htarget)
      (.of_made ht ha.grown ha.moved.disk.current ha.fileAt_sidecar (not_up_sidecar hu) hsidecar)

end Refetch.OnDisk
