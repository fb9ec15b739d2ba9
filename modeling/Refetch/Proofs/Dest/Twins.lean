import Refetch.Proofs.Dest.Commits
import Refetch.Proofs.Storage.Agreeing
/-!
# One destination on two disks

1. A destination is `InView` of a set of locations if its calls look at no others: those on the way
   of its paths, its temporary file and the names that a temporary file can still get.
2. On two disks that agree there every demand has the same answer and effect (`Twin`).
3. It changes nothing but the destination's own files (`Own`): target, sidecar, the temporary file
   and names that were given to temporary files meanwhile.
-/

namespace Refetch.OnDisk

open Storage
open Storage.FileSystem (Agree Alike Touched given)

variable {d y z : OnDisk} {K : Set Location} {fs : FileSystem} {loc : Location}

/-! ## Own files -/

/-- What belongs to a destination up to a later state. -/
def own (d y : OnDisk) : Set Location :=
  {l | l = d.target ∨ l = d.sidecar ∨ l ∈ d.dest.pending ∨
    l ∈ given d.directory d.disk.issued y.disk.issued}

/-- From one state to a later one a destination changed nothing but its own files. -/
structure Own (d y : OnDisk) : Prop where
  path : y.dest.path = d.dest.path
  disk : Touched (d.own y) d.disk y.disk
  pending : ∀ loc ∈ y.dest.pending, loc ∈ d.dest.pending ∨
    loc ∈ given d.directory d.disk.issued y.disk.issued

theorem directory_congr (hp : y.dest.path = d.dest.path) (hc : y.disk.current = d.disk.current) :
    y.directory = d.directory := by
  rw [directory, directory, FileDest.target, FileDest.target, hp, FileSystem.locate_congr hc]

namespace Own

theorem refl (d : OnDisk) : Own d d := ⟨rfl, .refl _ _, fun _ h => .inl h⟩

theorem target (h : Own d y) : y.target = d.target := target_congr h.path h.disk.current

theorem sidecar (h : Own d y) : y.sidecar = d.sidecar := sidecar_congr h.path h.disk.current

theorem directory (h : Own d y) : y.directory = d.directory := directory_congr h.path h.disk.current

/-- A change of own files that leaves the temporary file or gives it up. -/
theorem of_touched {W : Set Location} (hp : y.dest.path = d.dest.path)
    (hd : Touched W d.disk y.disk) (hw : ∀ l ∈ W, l = d.target ∨ l = d.sidecar ∨ l ∈ d.dest.pending)
    (hn : ∀ loc ∈ y.dest.pending, loc ∈ d.dest.pending) : Own d y :=
  ⟨hp, hd.mono fun l hl => (hw l hl).imp_right (Or.imp_right .inl), fun loc hl => .inl (hn loc hl)⟩

theorem trans (h : Own d y) (h' : Own y z) : Own d z := by
  have hle := h.disk.issued
  have hle' := h'.disk.issued
  have hearly : given d.directory d.disk.issued y.disk.issued ⊆
      given d.directory d.disk.issued z.disk.issued := FileSystem.given_mono _ le_rfl hle'
  have hlate : given y.directory y.disk.issued z.disk.issued ⊆
      given d.directory d.disk.issued z.disk.issued :=
    h.directory ▸ FileSystem.given_mono _ hle le_rfl
  refine ⟨h'.path.trans h.path, (h.disk.mono ?_).trans (h'.disk.mono ?_), fun loc hl => ?_⟩
  · rintro l (hl | hl | hl | hl)
    · exact .inl hl
    · exact .inr (.inl hl)
    · exact .inr (.inr (.inl hl))
    · exact .inr (.inr (.inr (hearly hl)))
  · rintro l (hl | hl | hl | hl)
    · exact .inl (hl.trans h.target)
    · exact .inr (.inl (hl.trans h.sidecar))
    · exact .inr (.inr ((h.pending l hl).imp_right fun hg => hearly hg))
    · exact .inr (.inr (.inr (hlate hl)))
  · rcases h'.pending loc hl with hl | hl
    · exact (h.pending loc hl).imp_right fun hg => hearly hg
    · exact .inr (hlate hl)

end Own

/-! ## Sight -/

/-- What the calls of a destination look at is in a set of locations. Where it makes temporary files
stands a directory. -/
structure InView (K : Set Location) (d : OnDisk) : Prop where
  stands : d.disk.Stands d.dest.target.directory
  directory : ∀ l ∈ d.disk.trail d.dest.target.directory, l ∈ K
  above : ∀ l, l <+: d.directory → l ∈ K
  target : ∀ l ∈ d.disk.trail d.dest.target, l ∈ K
  sidecar : ∀ l ∈ d.disk.trail (Path.ofText d.dest.etagPath), l ∈ K
  pending : ∀ loc ∈ d.dest.pending, loc ∈ K ∧ ∃ n, loc = d.directory ++ [FileSystem.temporaryName n]
  free : ∀ n, d.disk.issued ≤ n → d.directory ++ [FileSystem.temporaryName n] ∈ K

namespace InView

theorem plain (v : d.InView K) (hp : d.dest.pending = some loc) : Plain loc := by
  obtain ⟨-, n, rfl⟩ := v.pending loc hp
  have hdots := FileSystem.temporaryName_ne_dots n
  exact plain_concat (FileSystem.plain_locate _ _) hdots.1 hdots.2

/-- The temporary file is found from the root. -/
theorem trail_pending (v : d.InView K) (hp : d.dest.pending = some loc) :
    ∀ l ∈ d.disk.trail (.ofLocation loc), l ∈ K := by
  intro l hl
  have hl := above_of_mem_trail (v.plain hp) hl
  obtain ⟨hk, n, rfl⟩ := v.pending loc hp
  rcases List.prefix_concat_iff.1 hl with rfl | hl
  · exact hk
  · exact v.above l hl

theorem of_own (v : d.InView K) (h : Own d y) : y.InView K := by
  have ht : y.dest.target = d.dest.target := by rw [FileDest.target, h.path, FileDest.target]
  have he : y.dest.etagPath = d.dest.etagPath := by rw [FileDest.etagPath, h.path, FileDest.etagPath]
  have htrail := FileSystem.trail_congr h.disk.current
  refine ⟨?_, ?_, ?_, ?_, ?_, fun loc hl => ?_, fun n hn => ?_⟩
  · rw [ht]
    exact v.stands.of_touched h.disk
  · rw [ht, htrail]
    exact v.directory
  · rw [h.directory]
    exact v.above
  · rw [ht, htrail]
    exact v.target
  · rw [he, htrail]
    exact v.sidecar
  · rw [h.directory]
    rcases h.pending loc hl with hl | ⟨n, hn, -, rfl⟩
    · exact v.pending loc hl
    · exact ⟨v.free n hn, n, rfl⟩
  · rw [h.directory]
    exact v.free n (h.disk.issued.trans hn)

end InView

/-- The way of the sidecar's path is that of the target's, and the sidecar. -/
theorem mem_trail_sidecar (d : OnDisk) {l : Location}
    (hl : l ∈ d.disk.trail (Path.ofText d.dest.etagPath)) :
    l ∈ d.disk.trail d.dest.target ∨ l = d.sidecar := by
  obtain ⟨names, last, ht, hs, -⟩ := d.sidecar_names
  rw [FileSystem.trail, start_sidecar, hs, mem_trail_concat] at hl
  refine hl.imp (fun hl => ?_) fun hl => ?_
  · rw [FileSystem.trail, ht]
    exact mem_trail_append.2 (.inl hl)
  · rw [sidecar, FileSystem.locate, start_sidecar, hs, hl]

/-! ## Calls on two disks -/

/-- The outcomes of a call of one destination on two disks: one answer, the same destination after
it, disks that agree, and on the first no change but of own files. -/
structure Twin {α : Type} (K : Set Location) (d : OnDisk) (r r' : α × OnDisk) : Prop where
  answer : r'.1 = r.1
  dest : r'.2.dest = r.2.dest
  disk : Agree K r.2.disk r'.2.disk
  own : Own d r.2

/-- The destination on another disk. -/
def on (d : OnDisk) (fs : FileSystem) : OnDisk := ⟨d.dest, fs⟩

/-- What opening the sink does in a directory that is there. -/
def begin (d : OnDisk) : Except IoError Unit × OnDisk :=
  match d.disk.makeTemporary d.dest.target.directory (d.disk.locate d.dest.target) with
  | (.error e, fs) => (.error e, d.on fs)
  | (.ok loc, fs) =>
    (.ok (), ⟨{ d.dest with pending := some loc, buffer := [] }, (d.dest.discard fs).2⟩)

theorem openSink_begin (d : OnDisk) : Dest.openSink d =
    match d.disk.mkdirAll d.dest.target.directory with
    | (.error e, fs) => (.error e, d.on fs)
    | (.ok (), fs) => (d.on fs).begin := by
  rw [openSink_eq, FileDest.prepare]
  rcases d.disk.mkdirAll d.dest.target.directory with ⟨_ | _, fs⟩
  · rfl
  · rfl

namespace Twin

variable {α β : Type} {r r' : α × OnDisk}

/-- The destination after a call is still in view. -/
theorem view (h : Twin K d r r') (v : d.InView K) : r.2.InView K := v.of_own h.own

theorem trans {s s' : β × OnDisk} (h : Twin K d r r') (h' : Twin K r.2 s s') : Twin K d s s' :=
  ⟨h'.answer, h'.dest, h'.disk, h.own.trans h'.own⟩

end Twin

section Calls

variable (v : d.InView K) (h : Agree K d.disk fs)
include h

theorem twin_nothing {α : Type} (a : α) : Twin K d (a, d) (a, d.on fs) := ⟨rfl, rfl, h, .refl d⟩

include v

omit h in
/-- The temporary file goes on both disks, or stays on both. -/
theorem alike_discard {x x' : FileSystem} (hc : x.current = d.disk.current) (h : Agree K x x') :
    Alike K {l | l ∈ d.dest.pending} x (d.dest.discard x) (d.dest.discard x') := by
  unfold FileDest.discard
  cases hp : d.dest.pending with
  | none => exact ⟨rfl, h, .refl _ x⟩
  | some loc =>
    have ht : ∀ l ∈ x.trail (.ofLocation loc), l ∈ K := by
      rw [FileSystem.trail_congr hc]
      exact v.trail_pending hp
    refine (h.removeFile ht).mono ?_
    rw [FileSystem.locate_ofLocation (v.plain hp)]
    simp

theorem twin_begin : Twin K d d.begin (d.on fs).begin := by
  have hm := h.makeTemporary (d.disk.locate d.dest.target) v.directory v.above v.free
  unfold begin
  dsimp only [on]
  rw [h.locate]
  obtain ⟨x, x', hagree, ht, ⟨e, hr, hr'⟩ | ⟨loc, hr, hr'⟩⟩ := hm.outcomes <;> rw [hr] at ht <;>
    rw [hr, hr']
  · refine ⟨rfl, rfl, hagree, rfl, ht.mono ?_, fun loc hl => .inl hl⟩
    exact fun l hl => .inr (.inr (.inr hl))
  · have hrel := alike_discard v ht.current hagree
    have hgone := hrel.touched
    have hgiven := FileSystem.given_mono d.directory (le_refl d.disk.issued) hgone.issued
    refine ⟨rfl, rfl, hrel.agree, rfl, (ht.mono ?_).trans (hgone.mono ?_), fun loc' hl => ?_⟩
    · exact fun l hl => .inr (.inr (.inr (hgiven hl)))
    · exact fun l hl => .inr (.inr (.inl hl))
    · obtain rfl : loc = loc' := by simpa using hl
      exact .inr (hgiven (FileSystem.mem_given_of_makeTemporary hr))

theorem twin_openSink : Twin K d (Dest.openSink d) (Dest.openSink (d.on fs)) := by
  obtain ⟨x, x', hagree, ht, hm⟩ := (h.mkdirAll v.stands v.directory).outcomes
  have ho : Own d (d.on x) := .of_touched rfl ht (by simp) fun _ hl => hl
  rw [openSink_begin, openSink_begin]
  dsimp only [on]
  obtain ⟨e, hr, hr'⟩ | ⟨u, hr, hr'⟩ := hm <;> rw [hr, hr']
  · exact ⟨rfl, rfl, hagree, ho⟩
  · have hb := twin_begin (v.of_own ho) (show Agree K (d.on x).disk x' from hagree)
    exact ⟨hb.answer, hb.dest, hb.disk, ho.trans hb.own⟩

theorem twin_flush : Twin K d (Dest.flush d) (Dest.flush (d.on fs)) := by
  cases hp : d.dest.pending with
  | none =>
    rw [flush_of_not_pending hp, flush_of_not_pending (d := d.on fs) hp]
    exact twin_nothing h _
  | some loc =>
    obtain ⟨hanswer, hleft, hagree, ht⟩ := h.appendAll (v.pending loc hp).1 d.dest.buffer
    rw [flush_eq hp, flush_eq (d := d.on fs) hp]
    dsimp only [on]
    rw [hanswer, hleft]
    exact ⟨rfl, rfl, hagree, .of_touched rfl ht (by simp [hp]) fun _ hl => hl⟩

theorem twin_closeSink : Twin K d (Dest.closeSink d) (Dest.closeSink (d.on fs)) := by
  have hf := twin_flush v h
  rw [closeSink_eq, closeSink_eq]
  exact ⟨hf.answer, by rw [emptied, emptied, hf.dest], hf.disk, hf.own.path, hf.own.disk,
    hf.own.pending⟩

/-- What is there after room was made. -/
def roomed (d : OnDisk) (n : Nat) : Except IoError Unit × OnDisk :=
  if FileDest.capacity < d.dest.buffer.length + n then Dest.flush d else (.ok (), d)

omit v h in
theorem makeRoom_eq (d : OnDisk) (n : Nat) : d.dest.makeRoom d.disk n =
    ((d.roomed n).1, (d.roomed n).2.dest, (d.roomed n).2.disk) := by
  unfold FileDest.makeRoom roomed
  split <;> rfl

omit v h in
theorem pending_roomed (d : OnDisk) (n : Nat) :
    (d.roomed n).2.dest.pending = d.dest.pending := by
  unfold roomed
  split
  · cases hp : d.dest.pending with
    | none => rw [flush_of_not_pending hp, hp]
    | some loc => exact (gained_flush hp).pending.trans hp
  · rfl

theorem twin_roomed (n : Nat) : Twin K d (d.roomed n) ((d.on fs).roomed n) := by
  unfold roomed
  split
  · rw [if_pos (by assumption)]
    exact twin_flush v h
  · rw [if_neg (by assumption)]
    exact twin_nothing h _

theorem twin_write (chunk : Bytes) :
    Twin K d (Sink.write d chunk) (Sink.write (d.on fs) chunk) := by
  cases hp : d.dest.pending with
  | none =>
    rw [write_of_not_pending hp, write_of_not_pending (d := d.on fs) hp]
    exact twin_nothing h _
  | some loc =>
    have hr := twin_roomed v h chunk.length
    have hk := (v.pending loc hp).1
    show Twin K d (OnDisk.write d chunk) (OnDisk.write (d.on fs) chunk)
    have hp' : (d.on fs).dest.pending = some loc := hp
    simp only [OnDisk.write, FileDest.write, hp, hp', makeRoom_eq]
    rw [hr.answer, hr.dest]
    cases (d.roomed chunk.length).1 with
    | error e => exact ⟨rfl, rfl, hr.disk, hr.own⟩
    | ok u =>
      dsimp only
      split
      · have ha := hr.disk.append hk chunk
        rw [ha.answer]
        refine ⟨rfl, rfl, ha.agree, hr.own.trans (.of_touched rfl ha.touched ?_ fun _ hl => hl)⟩
        rintro l rfl
        exact .inr (.inr ((pending_roomed d chunk.length).trans hp))
      · exact ⟨rfl, rfl, hr.disk, hr.own.path, hr.own.disk, hr.own.pending⟩

theorem twin_complete (success : Bool) :
    Twin K d (Dest.complete d success) (Dest.complete (d.on fs) success) := by
  cases hp : d.dest.pending with
  | none =>
    rw [complete_of_not_pending hp, complete_of_not_pending (d := d.on fs) hp]
    exact twin_nothing h _
  | some loc =>
    have hl : d.disk.locate (.ofLocation loc) = loc := FileSystem.locate_ofLocation (v.plain hp)
    have hown {x : FileSystem} (ht : Touched {loc, d.target} d.disk x) :
        Own d ⟨{ d.dest with pending := none }, x⟩ :=
      .of_touched rfl ht (by rintro l (rfl | rfl) <;> simp [hp]) (by simp)
    cases success with
    | true =>
      obtain ⟨x, x', hagree, ht, hm⟩ := (h.renameFile (v.trail_pending hp) v.target).outcomes
      rw [hl] at ht
      rw [complete_true_eq hp, complete_true_eq (d := d.on fs) hp]
      dsimp only [on]
      obtain ⟨e, hr, hr'⟩ | ⟨u, hr, hr'⟩ := hm <;> rw [hr, hr']
      · have hrel := alike_discard v ht.current hagree
        exact ⟨rfl, rfl, hrel.agree, hown (ht.trans (hrel.touched.mono (by simp [hp])))⟩
      · exact ⟨rfl, rfl, hagree, hown ht⟩
    | false =>
      obtain ⟨x, x', hagree, ht, hm⟩ := (alike_discard v rfl h).outcomes
      rw [complete_false_eq hp, complete_false_eq (d := d.on fs) hp]
      dsimp only [on]
      obtain ⟨e, hr, hr'⟩ | ⟨u, hr, hr'⟩ := hm <;> rw [hr, hr'] <;>
        exact ⟨rfl, rfl, hagree, hown (ht.mono (by simp [hp]))⟩

theorem twin_setEtag (tag : String) :
    Twin K d (Dest.setEtag d tag) (Dest.setEtag (d.on fs) tag) := by
  have hw := h.writeFile v.sidecar (Text.Utf8.encode tag)
  exact ⟨hw.answer, rfl, hw.agree, .of_touched rfl hw.touched
    (by rintro l rfl; exact .inr (.inl rfl)) fun _ hl => hl⟩

theorem twin_setLastModified (t : Timestamp) :
    Twin K d (Dest.setLastModified d t) (Dest.setLastModified (d.on fs) t) := by
  have hm := h.setModified v.target t
  exact ⟨hm.answer, rfl, hm.agree, .of_touched rfl hm.touched
    (by rintro l rfl; exact .inl rfl) fun _ hl => hl⟩

/-- **Every call** has one answer and one effect. -/
theorem twin_run (c : Call) : Twin K d (c.run d) (c.run (d.on fs)) := by
  cases c with
  | openSink => exact twin_openSink v h
  | write chunk =>
    have hw := twin_write v h chunk
    exact ⟨congrArg (Except.map fun _ => ()) hw.answer, hw.dest, hw.disk, hw.own⟩
  | flush => exact twin_flush v h
  | closeSink => exact twin_nothing h _
  | complete success => exact twin_complete v h success
  | setEtag tag => exact twin_setEtag v h tag
  | setLastModified t => exact twin_setLastModified v h t

end Calls

/-! ## Demands -/

/-- What is seen of a destination. -/
structure Shown where
  content : Except IoError Bytes
  tag : Option String
  time : Option Timestamp
  deriving DecidableEq

def shown (d : OnDisk) : Shown where
  content := d.disk.readFile d.dest.target
  tag := Dest.etag d
  time := Dest.lastModified d

/-- What is shown depends on target and sidecar alone. -/
theorem shown_on (htarget : ∀ l ∈ d.disk.trail d.dest.target, l ∈ K)
    (hsidecar : ∀ l ∈ d.disk.trail (Path.ofText d.dest.etagPath), l ∈ K)
    (h : Agree K d.disk fs) : (d.on fs).shown = d.shown := by
  have ht : fs.resolve d.dest.target = d.disk.resolve d.dest.target := h.resolve htarget
  have hs := h.resolve hsidecar
  have hc : fs.contains d.dest.target = d.disk.contains d.dest.target := by
    rw [FileSystem.contains, ht, FileSystem.contains]
  have hr : fs.readText? (Path.ofText d.dest.etagPath) =
      d.disk.readText? (Path.ofText d.dest.etagPath) := by
    rw [FileSystem.readText?, FileSystem.readFile, hs, FileSystem.readText?, FileSystem.readFile]
  refine Shown.mk.injEq .. ▸ ⟨?_, ?_, ?_⟩
  · show fs.readFile d.dest.target = d.disk.readFile d.dest.target
    rw [FileSystem.readFile, ht, FileSystem.readFile]
  · show (if fs.contains d.dest.target then fs.readText? (Path.ofText d.dest.etagPath) else none) =
      if d.disk.contains d.dest.target then d.disk.readText? (Path.ofText d.dest.etagPath) else none
    rw [hc, hr]
  · show fs.modified? d.dest.target = d.disk.modified? d.dest.target
    rw [FileSystem.modified?, ht, h.clock, FileSystem.modified?]

/-- What a user asks of a destination: a call, or to show what is there. -/
inductive Demand
  | call (c : Call)
  | look
  deriving DecidableEq

inductive Answer
  | done (result : Except IoError Unit)
  | looked (shown : Shown)
  deriving DecidableEq

namespace Demand

/-- With any demand but those of an open sink the sink was let go. -/
def ofSink : Demand → Bool
  | call c => c.ofSink
  | look => false

/-- The answer to a demand and the destination after it. -/
def run (d : OnDisk) (r : Demand) : Answer × OnDisk :=
  let d := if r.ofSink then d else (Dest.closeSink d).2
  match r with
  | call c => (.done (c.run d).1, (c.run d).2)
  | look => (.looked d.shown, d)

end Demand

/-- **Every demand** has one answer and one effect. -/
theorem twin_demand (v : d.InView K) (h : Agree K d.disk fs) (r : Demand) :
    Twin K d (r.run d) (r.run (d.on fs)) := by
  have hbefore : Twin K d ((), if r.ofSink then d else (Dest.closeSink d).2)
      ((), if r.ofSink then d.on fs else (Dest.closeSink (d.on fs)).2) := by
    split
    · exact twin_nothing h ()
    · have hc := twin_closeSink v h
      exact ⟨rfl, hc.dest, hc.disk, hc.own⟩
  unfold Demand.run
  generalize (if r.ofSink then d else (Dest.closeSink d).2) = y at hbefore ⊢
  generalize (if r.ofSink then d.on fs else (Dest.closeSink (d.on fs)).2) = y' at hbefore ⊢
  obtain ⟨dest', x'⟩ := y'
  obtain rfl : dest' = y.dest := hbefore.dest
  have hv := hbefore.view v
  refine hbefore.trans ?_
  cases r with
  | call c =>
    have hr := twin_run hv hbefore.disk c
    exact ⟨congrArg Answer.done hr.answer, hr.dest, hr.disk, hr.own⟩
  | look =>
    have hl := shown_on hv.target hv.sidecar hbefore.disk
    exact ⟨congrArg Answer.looked hl, rfl, hbefore.disk, .refl y⟩

end Refetch.OnDisk
