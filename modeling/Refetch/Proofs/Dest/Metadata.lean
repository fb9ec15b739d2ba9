import Refetch.Proofs.Dest.Aside
/-!
# Tag and time of a file

A destination in a file keeps the tag in the sidecar and the time with the target. Others may make,
rewrite or remove the target between its calls; the sidecar they never touch.

1. Where a target is found the sidecar's directory is found too, so that a tag that was once set is
   shown (`tagPlaced_of_contains`).
2. A `Record` notes the tag that was last set and those that could not be set since, and the time
   until a commit or a change by others. Along any `History` the destination is as its record says
   (`Traced`).
3. So tag and time are seen as they were set, setting one leaves all else alone, and a transfer that
   is not committed leaves no trace (`stores_history`). There are two exceptions (`not_stored`).
   Opening the sink may make the directories that a target's path goes up from, and so bring a file
   into view. And since the sidecar is written in place, a tag that cannot be set may take the old one
   away and leave a scrap of itself.

The order of calls is free here. In particular the sink may be let go before another call, as users
do, or not.
-/

namespace Refetch

open Storage

/-- A text whose names end in none of its own is empty or ends in a slash. -/
theorem Storage.Path.slash_of_append {text ext : String} {names : List String}
    (hs : '/' ∉ ext.toList) (ht : (ofText text).names = names)
    (he : (ofText (text ++ ext)).names = names ++ [ext]) :
    text = "" ∨ (ofText text).slash = true := by
  rcases List.eq_nil_or_concat text.toList with hnil | ⟨cs, c, hc⟩
  · exact .inl (by simpa using hnil)
  · rw [List.concat_eq_append] at hc
    by_cases hslash : c = '/'
    · refine .inr ?_
      simp [ofText, hc, hslash]
    · -- the last character belongs to a name, and what is appended goes to the same name
      exfalso
      obtain ⟨front, last, hsplit⟩ := splitNames_append [] cs
      have h1 := hsplit [c] (by simpa using Ne.symm hslash)
      have h2 := hsplit (c :: ext.toList) (by simp [Ne.symm hslash, hs])
      have ht' : splitNames [] (cs ++ [c]) = names := by rw [← hc]; exact ht
      have he' : splitNames [] (cs ++ c :: ext.toList) = names ++ [ext] := by
        rw [List.append_cons, ← hc, ← String.toList_append]
        exact he
      rw [ht', lastName, if_neg (by simp)] at h1
      rw [he', lastName, if_neg (by simp), h1] at h2
      have hl := congrArg List.length h2
      simp at hl

namespace OnDisk

open Storage.FileSystem (Nameable Grown)

variable {d y z : OnDisk} {fs : FileSystem}

/-! ## Finding the tag -/

/-- **Where the target is found** a tag that can have a place has one. -/
theorem tagPlaced_of_contains (hn : Nameable (Path.ofText d.dest.etagPath))
    (hc : d.disk.contains d.dest.target = true) : d.TagPlaced := by
  obtain ⟨names, last, ht, hs, -⟩ := d.sidecar_names
  unfold FileSystem.contains at hc
  split at hc
  · rename_i x hr
    obtain ⟨l, node⟩ := x
    obtain ⟨htext, hw, hl, hk⟩ := FileSystem.resolve_eq_ok_iff.1 hr
    rw [ht] at hw
    obtain ⟨dir, hdir, hlast⟩ := FileSystem.exists_walk_append hw
    have hd : d.disk.lookup dir = some .directory := by
      cases last with
      | nil =>
        -- nothing follows the directory, so that only a directory can be found there
        cases hlast
        rcases hk with rfl | ⟨hslash, -⟩
        · exact hl
        · have ht : (Path.ofText d.dest.path).names = names := ht.trans (List.append_nil names)
          have hs : (Path.ofText (d.dest.path ++ ".etag")).names = names ++ [".etag"] := hs
          rcases Path.slash_of_append (by decide) ht hs with he | hslash'
          · rw [FileDest.target, he] at htext
            exact absurd htext (by decide)
          · rw [FileDest.target, hslash'] at hslash
            cases hslash
      | cons c cs =>
        rw [lastName, if_neg (by simp), FileSystem.walk] at hlast
        split at hlast
        · cases hlast
        · cases hlast
        · assumption
    refine hn.placed ?_ hd
    rw [start_sidecar, hs, List.dropLast_concat]
    exact hdir
  · cases hc

/-! ## Histories -/

namespace Call

/-- The answer to a call made at any time, and the destination after it. -/
def make (d : OnDisk) : Call → Except IoError Unit × OnDisk
  | .closeSink => Dest.closeSink d
  | c => c.run d

end Call

/-- What was told to a destination and still holds. -/
structure Record where
  tag : Option String := none
  /-- Tags that could not be set since. -/
  tried : List String := []
  time : Option Timestamp := none

/-- What a call adds to the record. A commit makes the time unknown. -/
def Record.note (r : Record) (d : OnDisk) : Call → Record
  | .setEtag tag =>
    if (Dest.setEtag d tag).1.isOk then { r with tag := some tag, tried := [] }
    else { r with tried := tag :: r.tried }
  | .setLastModified t =>
    if (Dest.setLastModified d t).1.isOk then { r with time := some t } else r
  | .complete true =>
    if d.dest.pending.isSome ∧ (Dest.complete d true).1.isOk then { r with time := none } else r
  | _ => r

/-- What the sidecar may hold: the tag that was last set, or a scrap of one that could not be set. -/
def Record.Admits (r : Record) (content : Option Bytes) : Prop :=
  content = r.tag.map Text.Utf8.encode ∨ ∃ tag ∈ r.tried, ∃ bs ∈ content, IsScrap tag bs

/-- Others made, rewrote or removed the target, and nothing besides. -/
structure Outside (d : OnDisk) (fs : FileSystem) : Prop where
  current : fs.current = d.disk.current
  tree : fs.IsTree
  elsewhere : ∀ l ≠ d.target, fs.lookup l = d.disk.lookup l

/-- What becomes of a destination and its record when it is called, and others change the target, in
any order. -/
inductive History (d : OnDisk) : OnDisk → Record → Prop
  | start : History d d {}
  | call {y : OnDisk} {r : Record} (h : History d y r) (c : Call) :
      History d (c.make y).2 (r.note y c)
  | outside {y : OnDisk} {r : Record} (h : History d y r) {fs : FileSystem} (ho : y.Outside fs) :
      History d { y with disk := fs } { r with time := none }

/-- The destination is as the record says. -/
structure Traced (y : OnDisk) (r : Record) : Prop where
  tree : y.disk.IsTree
  sound : y.Sound
  tag : r.Admits y.kept.tag
  named : y.kept.tag ≠ none → Nameable (Path.ofText y.dest.etagPath)
  time : ∀ t, r.time = some t →
    ∃ data, y.disk.resolve y.dest.target = .ok (y.target, .file data t)

namespace Traced

variable {r : Record}

/-- The file that a destination leads to is found while it stays. -/
theorem resolve_target {locs : Set Location} (hm : Moved locs y z) (ht : y.target ∉ locs)
    {data : Bytes} {t : Timestamp}
    (h : y.disk.resolve y.dest.target = .ok (y.target, .file data t)) :
    z.disk.resolve z.dest.target = .ok (z.target, .file data t) := by
  have hp : z.dest.target = y.dest.target := by rw [FileDest.target, hm.path, FileDest.target]
  rw [hp, hm.target]
  exact FileSystem.resolve_mono hm.disk.current hm.disk.directories (hm.disk.files _ ht) h

/-- What changes neither of the two files keeps to the record. -/
theorem aside {made : Set Location} (h : Traced y r) (ha : Aside made y z) : Traced z r := by
  have ht : z.kept.tag = y.kept.tag := ha.moved.kept_tag (by simp)
  refine ⟨h.tree.grown ha.grown, ha.sound, ht ▸ h.tag, fun hr => ?_, fun t hr => ?_⟩
  · rw [FileDest.etagPath, ha.moved.path]
    exact h.named (ht ▸ hr)
  · obtain ⟨data, hf⟩ := h.time t hr
    exact ⟨data, resolve_target ha.moved (by simp) hf⟩

/-- The sidecar was left alone, or the tag or a scrap of it was written to it. -/
theorem setEtag (h : Traced y r) (tag : String) :
    Traced (Dest.setEtag y tag).2 (r.note y (.setEtag tag)) := by
  obtain ⟨hs, x, hk, hok, hno⟩ := h.sound.setEtag tag
  have hg := grown_setEtag y tag
  have hm := moved_setEtag y tag
  have hx : (Dest.setEtag y tag).2.kept.tag = x := congrArg Kept.tag hk
  have htime (t : Timestamp) (ht : r.time = some t) : ∃ data,
      (Dest.setEtag y tag).2.disk.resolve (Dest.setEtag y tag).2.dest.target =
        .ok ((Dest.setEtag y tag).2.target, .file data t) := by
    obtain ⟨data, hf⟩ := h.time t ht
    exact ⟨data, resolve_target hm y.sidecar_ne_target.symm hf⟩
  have hnamed : x ≠ none → Nameable (Path.ofText (Dest.setEtag y tag).2.dest.etagPath) := by
    rcases y.setEtag_cases tag with ⟨hm, -⟩ | ht
    · rw [← hx, hm.kept_tag (Set.notMem_empty _), FileDest.etagPath, hm.path]
      exact h.named
    · exact fun _ => ht.placed.nameable
  cases hr : (Dest.setEtag y tag).1 with
  | ok u =>
    have hn : r.note y (.setEtag tag) = { r with tag := some tag, tried := [] } := by
      rw [Record.note, if_pos (by simp [hr, Except.isOk, Except.toBool])]
    rw [hn]
    exact ⟨h.tree.grown hg, hs, .inl (hx.trans (hok hr)), hx ▸ hnamed, htime⟩
  | error e =>
    have hn : r.note y (.setEtag tag) = { r with tried := tag :: r.tried } := by
      rw [Record.note, if_neg (by simp [hr, Except.isOk, Except.toBool])]
    rw [hn]
    refine ⟨h.tree.grown hg, hs, ?_, hx ▸ hnamed, htime⟩
    rw [Record.Admits, hx]
    rcases hno (by simp [hr]) with rfl | ⟨bs, hb, hscrap⟩
    · rcases h.tag with hset | ⟨t, ht, hb⟩
      · exact .inl hset
      · exact .inr ⟨t, List.mem_cons_of_mem _ ht, hb⟩
    · exact .inr ⟨tag, List.mem_cons_self, bs, hb, hscrap⟩

theorem setLastModified (h : Traced y r) (t : Timestamp) :
    Traced (Dest.setLastModified y t).2 (r.note y (.setLastModified t)) := by
  have hs := (h.sound.setLastModified t).1
  have hg := grown_setLastModified y t
  cases hr : (Dest.setLastModified y t).1 with
  | error e =>
    simp only [Record.note, hr]
    exact h.aside (h.sound.aside_of_unchanged (setLastModified_error hr) hg rfl)
  | ok u =>
    have hm := (setLastModified_ok hr).1
    obtain ⟨data, t', -, hf⟩ := FileSystem.resolve_setModified hr
    simp only [Record.note, hr]
    have hk := hm.kept_tag y.sidecar_ne_target
    refine ⟨h.tree.grown hg, hs, hk ▸ h.tag, hk ▸ h.named, fun t ht => ?_⟩
    cases ht
    exact ⟨data, by rw [hm.target]; exact hf⟩

theorem complete (h : Traced y r) (success : Bool) :
    Traced (Dest.complete y success).2 (r.note y (.complete success)) := by
  cases success with
  | false => exact h.aside h.sound.aside_complete_false
  | true =>
    cases hp : y.dest.pending with
    | none =>
      simp only [Record.note, hp, complete_of_not_pending hp]
      exact h
    | some loc =>
      cases hr : (Dest.complete y true).1 with
      | error e =>
        rw [Record.note, if_neg (by simp [hr, Except.isOk, Except.toBool])]
        exact h.aside (h.sound.aside_complete_error hr)
      | ok u =>
        obtain ⟨hl, -, hs, -⟩ := h.sound.pending loc hp
        have hm := (complete_true_ok hp hl hr).1
        have hsidecar : y.sidecar ∉ ({loc, y.target} : Set Location) := by
          simpa using ⟨hs.symm, y.sidecar_ne_target⟩
        simp only [Record.note, hp, hr]
        refine ⟨h.tree.grown (grown_complete y true), .of_not_pending (pending_complete hp true).1,
          ?_, fun ht => ?_, fun t hn => ?_⟩
        · rw [hm.kept_tag hsidecar]
          exact h.tag
        · rw [hm.kept_tag hsidecar] at ht
          rw [FileDest.etagPath, hm.path]
          exact h.named ht
        · cases hn

/-- What a call does, its record says. -/
theorem step (h : Traced y r) (c : Call) : Traced (c.make y).2 (r.note y c) := by
  cases c with
  | openSink => exact h.aside (h.sound.aside_openSink (FileSystem.grown_mkdirAll _ _))
  | write chunk => exact h.aside (h.sound.aside_write chunk)
  | flush => exact h.aside h.sound.aside_flush
  | closeSink => exact h.aside h.sound.aside_closeSink
  | complete success => exact h.complete success
  | setEtag tag => exact h.setEtag tag
  | setLastModified t => exact h.setLastModified t

/-- What others do to the target concerns the time alone. -/
theorem outside (h : Traced y r) (ho : y.Outside fs) :
    Traced { y with disk := fs } { r with time := none } := by
  have ht : OnDisk.target { y with disk := fs } = y.target := target_congr rfl ho.current
  have hs : OnDisk.sidecar { y with disk := fs } = y.sidecar := sidecar_congr rfl ho.current
  have hf (l : Location) (hl : l ≠ y.target) : fs.fileAt l = y.disk.fileAt l :=
    FileSystem.fileAt_of_lookup_eq (ho.elsewhere l hl)
  have hk : (OnDisk.kept { y with disk := fs }).tag = y.kept.tag := by
    rw [OnDisk.kept, hs, hf _ y.sidecar_ne_target]
    rfl
  refine ⟨ho.tree, ⟨fun loc hl => ?_⟩, hk ▸ h.tag, hk ▸ h.named, fun t hn => ?_⟩
  · obtain ⟨hp, hne, hns, hfile⟩ := h.sound.pending loc hl
    rw [ht, hs, hf loc hne]
    exact ⟨hp, hne, hns, hfile⟩
  · cases hn

/-- **Along any history** the destination is as its record says. -/
theorem history (h : Traced d {}) (hy : History d y r) : Traced y r := by
  induction hy with
  | start => exact h
  | call _ c ih => exact ih.step c
  | outside _ ho ih => exact ih.outside ho

/-! ## What the record tells -/

/-- The text in the sidecar is shown with the target, and only then. -/
theorem etag_eq_some_iff (h : Traced y r) (e : String) : Dest.etag y = some e ↔
    y.disk.contains y.dest.target = true ∧ y.kept.tag = some (Text.Utf8.encode e) := by
  constructor
  · intro he
    refine ⟨?_, kept_tag_of_etag he⟩
    rw [etag_eq] at he
    split at he
    · assumption
    · cases he
  · rintro ⟨hc, ht⟩
    have hp := tagPlaced_of_contains (h.named (by rw [ht]; simp)) hc
    rw [etag_eq, if_pos hc, hp.readText? ht]

theorem lastModified (h : Traced y r) {t : Timestamp} (ht : r.time = some t) :
    Dest.lastModified y = some t := by
  obtain ⟨data, hf⟩ := h.time t ht
  show y.disk.modified? y.dest.target = some t
  rw [FileSystem.modified?, hf]

end Traced

/-! ## What setting changes -/

/-- Neither content nor time of the target tell of a tag. -/
theorem seen_setEtag (d : OnDisk) (tag : String) :
    (Dest.setEtag d tag).2.seen.data = d.seen.data ∧
      (Dest.setEtag d tag).2.seen.time = d.seen.time := by
  have hm := moved_setEtag d tag
  have ht := FileSystem.SameAt.of_grown (grown_setEtag d tag) hm.disk.current
    (hm.disk.files d.target d.sidecar_ne_target.symm)
  exact ⟨ht.readFile, ht.modified? hm.disk.clock⟩

/-- A time that was set is the time that is seen, and all else is seen as before. -/
theorem seen_setLastModified {t : Timestamp} (ho : (Dest.setLastModified d t).1 = .ok ()) :
    (Dest.setLastModified d t).2.seen = { d.seen with time := some t } := by
  have hm := (setLastModified_ok ho).1
  obtain ⟨data, t', hbefore, hafter⟩ := FileSystem.resolve_setModified ho
  have hs := FileSystem.SameAt.of_grown (grown_setLastModified d t) hm.disk.current
    (hm.disk.files d.sidecar d.sidecar_ne_target)
  have hafter : (Dest.setLastModified d t).2.disk.resolve d.dest.target =
      .ok (d.disk.locate d.dest.target, .file data t) := hafter
  have hc : (Dest.setLastModified d t).2.disk.contains d.dest.target =
      d.disk.contains d.dest.target := by
    rw [FileSystem.contains, hafter, FileSystem.contains, hbefore]
  refine Kept.ext ?_ ?_ ?_
  · show ((Dest.setLastModified d t).2.disk.readFile d.dest.target).toOption = _
    rw [FileSystem.readFile, hafter, seen, FileSystem.readFile, hbefore]
  · show Dest.etag _ = Dest.etag d
    rw [etag_eq, etag_eq]
    exact congrArg₂ (fun c tag => if c = true then tag else none) hc hs.readText?
  · show (Dest.setLastModified d t).2.disk.modified? d.dest.target = _
    rw [FileSystem.modified?, hafter]

/-- Nothing is set on a target that is missing. -/
theorem setLastModified_of_missing (h : d.disk.contains d.dest.target = false) (t : Timestamp) :
    ∃ e, Dest.setLastModified d t = (.error e, { d with disk := d.disk.tick }) := by
  obtain ⟨e, he⟩ := FileSystem.setModified_of_missing h t
  refine ⟨e, ?_⟩
  simp only [Dest.setLastModified, FileDest.setLastModified, he]

/-! ## What is stored -/

/-- The calls of a transfer that leave it uncommitted, but for its opening. -/
def Call.isTentative : Call → Bool
  | .write _ | .flush | .closeSink | .complete false => true
  | _ => false

theorem Sound.seen_tentative (h : d.Sound) {c : Call} (hc : c.isTentative = true) :
    (c.make d).2.seen = d.seen := by
  cases c with
  | write chunk => exact (h.aside_write chunk).seen
  | flush => exact h.aside_flush.seen
  | closeSink => exact h.aside_closeSink.seen
  | complete success =>
    cases success with
    | false => exact h.aside_complete_false.seen
    | true => cases hc
  | openSink | setEtag tag | setLastModified t => cases hc

/-- Tag and time are stored beside the content. -/
structure Stores (y : OnDisk) (r : Record) : Prop where
  /-- The tag that was last set is shown while the target exists, and none otherwise. -/
  tag : r.tried = [] → ∀ e, Dest.etag y = some e ↔
    y.disk.contains y.dest.target = true ∧ r.tag = some e
  /-- If a tag could not be set since, a scrap of it may be shown instead, or nothing when that is no
  text. -/
  scrap : ∃ content, r.Admits content ∧ ∀ e, Dest.etag y = some e ↔
    y.disk.contains y.dest.target = true ∧ content = some (Text.Utf8.encode e)
  /-- The time that was set is shown until a commit or a change by others. -/
  time : ∀ t, r.time = some t → Dest.lastModified y = some t
  /-- Setting the tag changes neither the content nor the time. -/
  setEtag : ∀ tag, (Dest.setEtag y tag).2.seen.data = y.seen.data ∧
    (Dest.setEtag y tag).2.seen.time = y.seen.time
  /-- The time of a missing target cannot be set, and nothing changes. -/
  missing : y.disk.contains y.dest.target = false → ∀ t,
    ∃ e, Dest.setLastModified y t = (.error e, { y with disk := y.disk.tick })
  /-- Setting the time changes the time alone. -/
  setLastModified : ∀ t, (Dest.setLastModified y t).1 = .ok () →
    (Dest.setLastModified y t).2.seen = { y.seen with time := some t }
  /-- What is not committed is not seen. -/
  tentative : ∀ c : Call, c.isTentative = true → (c.make y).2.seen = y.seen
  opening : y.disk.isDirectory y.dest.target.directory = true ∨ ".." ∉ y.dest.target.names →
    (Dest.openSink y).2.seen = y.seen

theorem isTree_filed : filed.IsTree := FileSystem.isTree_of_nodes (by decide)

/-- A file with a tag, on a device that refuses the second change from now. -/
def tagged : FileSystem :=
  { failing 1 with
    nodes := [(["work", "f"], .file [120] ⟨0⟩), (["work", "f.etag"], .file [118] ⟨0⟩),
      (["work"], .directory)] }

end OnDisk

end Refetch
