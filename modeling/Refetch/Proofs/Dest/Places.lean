import Refetch.Dest.File
import Refetch.Proofs.Dest.Keeping
import Refetch.Proofs.Storage.Changes
import Refetch.Proofs.Text.RoundTrip
/-!
# Places of file destinations

A file destination keeps what is at two locations: data and time in the target, the tag in the
sidecar beside it. The temporary file of a transfer is a third location.

1. The three are different: a temporary file keeps away from the target, and the sidecar's name is
   longer than the target's and does not end in a digit.
2. From state to state files change at some locations at most (`Moved`). What is kept is the same
   after changes elsewhere.
3. A destination is `Sound` if its temporary file is there and apart from the two other files.

What is kept is read off the locations, not asked for by path, since a path to a location is of no
use while a directory on it is missing.
-/

namespace Refetch.OnDisk

open Storage

variable {d y : OnDisk}

/-! ## Locations -/

/-- Where the data is kept. -/
def target (d : OnDisk) : Location := d.disk.locate d.dest.target

/-- Where the tag is kept. -/
def sidecar (d : OnDisk) : Location := d.disk.locate (Path.ofText d.dest.etagPath)

/-- Where temporary files are made. -/
def directory (d : OnDisk) : Location := d.disk.locate d.dest.target.directory

theorem target_congr (hp : y.dest.path = d.dest.path) (hc : y.disk.current = d.disk.current) :
    y.target = d.target := by
  rw [target, target, FileDest.target, FileDest.target, hp, FileSystem.locate_congr hc]

theorem sidecar_congr (hp : y.dest.path = d.dest.path) (hc : y.disk.current = d.disk.current) :
    y.sidecar = d.sidecar := by
  rw [sidecar, sidecar, FileDest.etagPath, FileDest.etagPath, hp, FileSystem.locate_congr hc]

theorem start_sidecar (d : OnDisk) :
    d.disk.start (Path.ofText d.dest.etagPath) = d.disk.start d.dest.target := by
  obtain ⟨-, -, -, -, ha⟩ := Path.ofText_append d.dest.path ".etag" (by decide) (by decide)
  rw [FileSystem.start, FileDest.etagPath, ha]
  rfl

/-- The names that lead to the sidecar in terms of those that lead to the target. -/
theorem sidecar_names (d : OnDisk) : ∃ names last, d.dest.target.names = names ++ lastName last ∧
    (Path.ofText d.dest.etagPath).names = names ++ [String.ofList (last ++ ".etag".toList)] ∧
    d.target = follow (follow (d.disk.start d.dest.target) names) (lastName last) ∧
    d.sidecar = follow (d.disk.start d.dest.target) names ++
      [String.ofList (last ++ ".etag".toList)] := by
  obtain ⟨names, last, ht, hs, -⟩ :=
    Path.ofText_append d.dest.path ".etag" (by decide) (by decide)
  have hne (s : String) (hl : s.toList.length < 5) :
      String.ofList (last ++ ".etag".toList) ≠ s := fun he => by
    have := congrArg (fun s => s.toList.length) he
    simp at this
    omega
  refine ⟨names, last, ht, hs, ?_, ?_⟩
  · rw [target, FileSystem.locate, ← follow_append]
    exact congrArg _ ht
  · rw [sidecar, FileSystem.locate, start_sidecar, FileDest.etagPath, hs, follow_append,
      follow_singleton (hne _ (by decide)) (hne _ (by decide))]

/-- The locations of the target and of the sidecar in terms of the target's last name. -/
theorem locations (d : OnDisk) : ∃ (dir : Location) (last : List Char),
    d.target = follow dir (lastName last) ∧
      d.sidecar = dir ++ [String.ofList (last ++ ".etag".toList)] := by
  obtain ⟨names, last, -, -, ht, hs⟩ := d.sidecar_names
  exact ⟨_, last, ht, hs⟩

theorem sidecar_ne_target (d : OnDisk) : d.sidecar ≠ d.target := by
  obtain ⟨dir, last, ht, hs⟩ := d.locations
  rw [ht, hs, lastName]
  -- a location without the last name is too short
  have short {l : Location} (hl : l.length ≤ dir.length) (n : String) : dir ++ [n] ≠ l := by
    rintro rfl
    simp at hl
  split
  · exact short le_rfl _
  · rw [follow, follow, follow, follow]
    split
    · exact short le_rfl _
    · split
      · exact short (by simp) _
      · intro h
        have := String.ofList_inj.1 (List.singleton_inj.1 (List.append_cancel_left h))
        simp at this

/-- The sidecar does not have the name of a temporary file. -/
theorem getLast?_sidecar (d : OnDisk) (n : Nat) :
    d.sidecar.getLast? ≠ some (FileSystem.temporaryName n) := by
  obtain ⟨dir, last, -, hs⟩ := d.locations
  rw [hs, List.getLast?_concat]
  intro h
  have hl := congrArg (fun s => s.toList.getLast?) (Option.some.inj h)
  have hd : Nat.toDigits 10 n ≠ [] := Nat.toDigits_ne_nil
  simp only [FileSystem.toList_temporaryName, String.toList_ofList,
    List.getLast?_append_of_ne_nil _ hd,
    List.getLast?_append_of_ne_nil last (show ".etag".toList ≠ [] by decide),
    List.getLast?_append_of_ne_nil _ (List.append_ne_nil_of_right_ne_nil _ hd)] at hl
  have hg : 'g' ∈ Nat.toDigits 10 n := List.mem_of_getLast? hl.symm
  have := Nat.isDigit_of_mem_toDigits (by decide) (by decide) hg
  simp at this

/-! ## Moves -/

/-- A target with a name of its own is in the directory where temporary files are made. -/
theorem target_eq_concat {n : String} (hn : d.dest.target.names.getLast? = some n) (h1 : n ≠ ".")
    (h2 : n ≠ "..") : d.target = d.directory ++ [n] :=
  FileSystem.locate_of_fileName? (Path.fileName?_of_getLast? hn h1 h2)

/-- The sidecar is beside the target, or in the place of a directory that the path names. -/
theorem sidecar_of_fileName? {n : String} (hn : d.dest.target.fileName? = some n) :
    d.sidecar = d.directory ++ [n ++ ".etag"] ∨ ∃ x, d.sidecar = d.directory ++ [n, x] := by
  obtain ⟨names, last, hnames, -, ht, hs⟩ := d.sidecar_names
  have htarget : d.target = d.directory ++ [n] := FileSystem.locate_of_fileName? hn
  rw [ht] at htarget
  rw [hs]
  unfold lastName at hnames htarget
  split at hnames
  · rw [if_pos (by assumption)] at htarget
    refine .inr ⟨String.ofList (last ++ ".etag".toList), ?_⟩
    rw [show follow _ names = _ from htarget, List.append_assoc]
    rfl
  · rw [if_neg (by assumption)] at htarget
    by_cases hdot : String.ofList last = "."
    · refine .inr ⟨String.ofList (last ++ ".etag".toList), ?_⟩
      rw [follow, if_pos hdot] at htarget
      rw [show follow _ names = _ from htarget, List.append_assoc]
      rfl
    · by_cases hup : String.ofList last = ".."
      · -- a path that ends in two dots has no file name
        have hlast : d.dest.target.names.getLast? = some ".." := by
          rw [hnames, List.getLast?_concat, hup]
        have hn := (Path.fileName?_eq_some hn).2
        rw [Path.dropDots_of_getLast? hlast (by decide), hlast] at hn
        exact absurd (Option.some.inj hn.2).symm hn.1
      · rw [follow_singleton hdot hup] at htarget
        obtain ⟨hdir, hn⟩ := List.append_inj' htarget rfl
        obtain rfl := List.singleton_inj.1 hn
        refine .inl ?_
        rw [hdir, String.ofList_append, String.ofList_toList]

/-- From one state to a later one files changed at most at some locations. -/
structure Moved (locs : Set Location) (d y : OnDisk) : Prop where
  path : y.dest.path = d.dest.path
  disk : FileSystem.Changed locs d.disk y.disk

namespace Moved

variable {z : OnDisk} {locs locs' : Set Location}

theorem refl (d : OnDisk) : Moved ∅ d d := ⟨rfl, .refl _ _⟩

theorem mono (h : Moved locs d y) (hs : locs ⊆ locs') : Moved locs' d y := ⟨h.path, h.disk.mono hs⟩

theorem of_empty (h : Moved ∅ d y) : Moved locs d y := h.mono (Set.empty_subset locs)

theorem trans (h : Moved locs d y) (h' : Moved locs y z) : Moved locs d z :=
  ⟨h'.path.trans h.path, h.disk.trans h'.disk⟩

theorem union (h : Moved locs d y) (h' : Moved locs' y z) : Moved (locs ∪ locs') d z :=
  (h.mono Set.subset_union_left).trans (h'.mono Set.subset_union_right)

/-- Of the changed files some may have become again what they were. -/
theorem settle (h : Moved locs d y)
    (hs : ∀ l ∈ locs, l ∉ locs' → y.disk.fileAt l = d.disk.fileAt l) : Moved locs' d y := by
  refine ⟨h.path, h.disk.current, h.disk.clock, h.disk.directories, fun l hl => ?_⟩
  by_cases hm : l ∈ locs
  · exact hs l hm hl
  · exact h.disk.files l hm

theorem target (h : Moved locs d y) : y.target = d.target := target_congr h.path h.disk.current

theorem sidecar (h : Moved locs d y) : y.sidecar = d.sidecar := sidecar_congr h.path h.disk.current

theorem directory (h : Moved locs d y) : y.directory = d.directory := by
  rw [OnDisk.directory, OnDisk.directory, FileDest.target, FileDest.target, h.path, h.disk.locate]

end Moved

/-- The target's path leads to its location. -/
def Placed (d : OnDisk) : Prop := d.disk.Placed d.dest.target

theorem Placed.of_moved {locs : Set Location} (h : d.Placed) (hm : Moved locs d y) : y.Placed := by
  rw [Placed, FileDest.target, hm.path]
  exact hm.disk.placed h

/-- The sidecar's path leads to its location. -/
def TagPlaced (d : OnDisk) : Prop := d.disk.Placed (Path.ofText d.dest.etagPath)

/-! ## States -/

/-- The temporary file of an earlier transfer, if there is one, is there and is neither of the two
files. -/
structure Sound (d : OnDisk) : Prop where
  pending : ∀ loc ∈ d.dest.pending,
    Plain loc ∧ loc ≠ d.target ∧ loc ≠ d.sidecar ∧ d.disk.fileAt loc ≠ none

/-- Without an earlier transfer a destination is sound. -/
theorem Sound.of_not_pending (h : d.dest.pending = none) : d.Sound := ⟨by simp [h]⟩

/-- A destination on a file system of its own. -/
def fresh (path : String) : OnDisk := ⟨.new path, .fresh ⟨0⟩⟩

theorem sound_fresh (path : String) : (fresh path).Sound := .of_not_pending rfl

/-- What is at the two locations. -/
def kept (d : OnDisk) : Kept Bytes where
  data := (d.disk.fileAt d.target).map (·.1)
  tag := (d.disk.fileAt d.sidecar).map (·.1)
  time := (d.disk.fileAt d.target).map (·.2)

/-! What is kept is shown, if the paths of the destination lead to it. -/

theorem Placed.readFile (h : d.Placed) {data : Bytes} (hk : d.kept.data = some data) :
    d.disk.readFile d.dest.target = .ok data := by
  obtain ⟨⟨data', t⟩, hf, rfl⟩ := Option.map_eq_some_iff.1 hk
  rw [FileSystem.readFile, FileSystem.Placed.resolve h hf]

theorem Placed.lastModified (h : d.Placed) {t : Timestamp} (hk : d.kept.time = some t) :
    Dest.lastModified d = some t := by
  obtain ⟨⟨data, t'⟩, hf, rfl⟩ := Option.map_eq_some_iff.1 hk
  show d.disk.modified? d.dest.target = _
  rw [FileSystem.modified?, FileSystem.Placed.resolve h hf]

theorem TagPlaced.readText? (ht : d.TagPlaced) {tag : String}
    (hk : d.kept.tag = some (Text.Utf8.encode tag)) :
    d.disk.readText? (Path.ofText d.dest.etagPath) = some tag := by
  obtain ⟨⟨bs, t⟩, hs, rfl⟩ := Option.map_eq_some_iff.1 hk
  rw [FileSystem.readText?, FileSystem.readFile, FileSystem.Placed.resolve ht hs]
  show (Text.Utf8.decode (Text.Utf8.encode tag)).toOption = _
  rw [Text.Utf8.decode_encode]
  rfl

theorem Placed.etag (h : d.Placed) (ht : d.TagPlaced) {data : Bytes} {tag : String}
    (hd : d.kept.data = some data) (hk : d.kept.tag = some (Text.Utf8.encode tag)) :
    Dest.etag d = some tag := by
  obtain ⟨⟨data, t⟩, hf, -⟩ := Option.map_eq_some_iff.1 hd
  show (if d.disk.contains d.dest.target then d.disk.readText? (Path.ofText d.dest.etagPath)
    else none) = _
  have hc : d.disk.contains d.dest.target = true := by
    rw [FileSystem.contains, FileSystem.Placed.resolve h hf]
  rw [if_pos hc, ht.readText? hk]

namespace Moved

variable {locs : Set Location}

theorem kept_data (h : Moved locs d y) (ht : d.target ∉ locs) : y.kept.data = d.kept.data := by
  rw [kept, kept, h.target, h.disk.files _ ht]

theorem kept_time (h : Moved locs d y) (ht : d.target ∉ locs) : y.kept.time = d.kept.time := by
  rw [kept, kept, h.target, h.disk.files _ ht]

theorem kept_tag (h : Moved locs d y) (hs : d.sidecar ∉ locs) : y.kept.tag = d.kept.tag := by
  rw [kept, kept, h.sidecar, h.disk.files _ hs]

/-- Nothing is kept differently after changes elsewhere. -/
theorem kept (h : Moved locs d y) (ht : d.target ∉ locs) (hs : d.sidecar ∉ locs) :
    y.kept = d.kept := Kept.ext (h.kept_data ht) (h.kept_tag hs) (h.kept_time ht)

/-- A destination that was sound still is if its temporary file was left alone. -/
theorem sound (h : Moved locs d y) (hd : d.Sound)
    (hn : ∀ loc ∈ y.dest.pending, loc ∈ d.dest.pending ∧ loc ∉ locs) : y.Sound := by
  refine ⟨fun loc hl => ?_⟩
  obtain ⟨hl, hx⟩ := hn loc hl
  rw [h.target, h.sidecar, h.disk.files loc hx]
  exact hd.pending loc hl

end Moved

end Refetch.OnDisk
