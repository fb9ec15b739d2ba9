import Refetch.Proofs.Dest.Calls
import Refetch.Proofs.Text.Decoding
/-!
# Destinations in files keep

A transfer from a file destination is `UnderWay` when its temporary file has some bytes and nothing
that is kept has changed. With the open sink's buffer they are what is staged; when the sink was let
go, they are what a completion with success commits.

The tag is what is in the sidecar. When it cannot be set, a scrap of it may be there (`IsScrap`).
-/

namespace Refetch.OnDisk

open Storage

variable {d y x : OnDisk} {bs : Bytes}

theorem Begun.sound {loc : Location} (h : d.Begun loc y) : y.Sound := by
  refine ⟨fun l hl => ?_⟩
  obtain rfl : loc = l := by simpa [h.pending] using hl
  have ht := h.temporary.of_moved h.moved
  exact ⟨ht.plain, ht.ne_target, ht.ne_sidecar, by simp [h.content]⟩

/-- A transfer from a destination has bytes in a temporary file and changed nothing that is kept. -/
structure UnderWay (d : OnDisk) (loc : Location) (data : Bytes) (x : OnDisk) : Prop where
  sound : x.Sound
  path : x.dest.path = d.dest.path
  kept : x.kept = d.kept
  clock : x.disk.clock = d.disk.clock
  pending : x.dest.pending = some loc
  content : x.disk.fileAt loc = some (data, x.disk.clock)

/-- With the sink open, the buffer belongs to what is staged. -/
def Staged (d : OnDisk) (bs : Bytes) (x : OnDisk) : Prop :=
  ∃ loc data, d.UnderWay loc data x ∧ data ++ x.dest.buffer = bs

def Sealed (d : OnDisk) (bs : Bytes) (x : OnDisk) : Prop := ∃ loc, d.UnderWay loc bs x

/-- Some first bytes of a tag, but not all of them. -/
def IsScrap (tag : String) (bs : Bytes) : Prop :=
  bs <+: Text.Utf8.encode tag ∧ bs ≠ Text.Utf8.encode tag

namespace Sound

theorem apart (h : d.Sound) : d.target ∉ {l | l ∈ d.dest.pending} ∧
    d.sidecar ∉ {l | l ∈ d.dest.pending} :=
  ⟨fun hl => (h.pending _ hl).2.1 rfl, fun hl => (h.pending _ hl).2.2.1 rfl⟩

theorem open_ok (h : d.Sound) (ho : (Dest.openSink d).1 = .ok ()) :
    d.Staged [] (Dest.openSink d).2 := by
  obtain ⟨loc, hb⟩ := h.openSink_ok ho
  refine ⟨loc, [], ⟨hb.sound, hb.moved.path, hb.moved.kept ?_ ?_, hb.moved.disk.clock, hb.pending,
    ?_⟩, by rw [hb.buffer, List.append_nil]⟩
  · simpa using ⟨hb.temporary.ne_target.symm, h.apart.1⟩
  · simpa using ⟨hb.temporary.ne_sidecar.symm, h.apart.2⟩
  · rw [hb.content, hb.moved.disk.clock]

theorem open_error (h : d.Sound) {e : IoError} (he : (Dest.openSink d).1 = .error e) :
    (Dest.openSink d).2.Sound ∧ (Dest.openSink d).2.kept = d.kept := by
  obtain ⟨hm, hd⟩ := openSink_error he
  exact ⟨hm.sound h (by simp [hd]), hm.kept (by simp) (by simp)⟩

/-- A destination without a transfer under way, all else unchanged but a temporary file. -/
theorem ended (h : d.Sound) {loc : Location} (hp : d.dest.pending = some loc)
    (hm : Moved {loc} d y) (hy : y.dest.pending = none) : y.Sound ∧ y.kept = d.kept := by
  obtain ⟨-, ht, hs, -⟩ := h.pending loc hp
  exact ⟨.of_not_pending hy, hm.kept ht.symm hs.symm⟩

theorem drop (h : d.Sound) :
    (Dest.complete d false).2.Sound ∧ (Dest.complete d false).2.kept = d.kept := by
  cases hp : d.dest.pending with
  | none =>
    rw [complete_of_not_pending hp]
    exact ⟨h, rfl⟩
  | some loc => exact h.ended hp (complete_false hp (h.pending loc hp).1).1 (pending_complete hp _).1

theorem setLastModified (h : d.Sound) (t : Timestamp) :
    (Dest.setLastModified d t).2.Sound ∧ (Dest.setLastModified d t).2.kept =
      if (Dest.setLastModified d t).1.isOk then { d.kept with time := some t } else d.kept := by
  cases hr : (Dest.setLastModified d t).1 with
  | error e =>
    have hm := setLastModified_error hr
    exact ⟨hm.sound h fun _ hl => ⟨hl, by simp⟩, hm.kept (by simp) (by simp)⟩
  | ok u =>
    obtain ⟨hm, data, t', ho, hn⟩ := setLastModified_ok hr
    refine ⟨hm.sound h fun loc hl => ⟨hl, (h.pending loc hl).2.1⟩,
      Kept.ext ?_ (hm.kept_tag d.sidecar_ne_target) ?_⟩
    · simp [OnDisk.kept, hm.target, ho, hn, Except.isOk, Except.toBool]
    · simp [OnDisk.kept, hm.target, hn, Except.isOk, Except.toBool]

theorem setEtag (h : d.Sound) (tag : String) : (Dest.setEtag d tag).2.Sound ∧
    ∃ x, (Dest.setEtag d tag).2.kept = { d.kept with tag := x } ∧
      ((Dest.setEtag d tag).1 = .ok () → x = some (Text.Utf8.encode tag)) ∧
      ((Dest.setEtag d tag).1 ≠ .ok () → x = d.kept.tag ∨ ∃ bs ∈ x, IsScrap tag bs) := by
  rcases d.setEtag_cases tag with ⟨hm, ho⟩ | ht
  · refine ⟨hm.sound h fun _ hl => ⟨hl, by simp⟩, d.kept.tag, hm.kept (by simp) (by simp), ?_, ?_⟩
    · exact fun hok => absurd hok ho
    · exact fun _ => .inl rfl
  · obtain ⟨front, left, hd, ho, hf⟩ := ht.content
    have hn : d.target ∉ ({d.sidecar} : Set Location) := d.sidecar_ne_target.symm
    refine ⟨ht.moved.sound h fun loc hl => ⟨hl, (h.pending loc hl).2.2.1⟩, some front,
      Kept.ext (ht.moved.kept_data hn) ?_ (ht.moved.kept_time hn), fun hok => ?_, fun hno => ?_⟩
    · simp [OnDisk.kept, ht.moved.sidecar, hf]
    · rw [← hd, ho.1 hok, List.append_nil]
    · refine .inr ⟨front, rfl, ⟨left, hd⟩, fun he => hno (ho.2 ?_)⟩
      rw [he] at hd
      simpa using hd

end Sound

namespace UnderWay

variable {loc : Location} {data data' : Bytes}

theorem of_moved (h : d.UnderWay loc data x) (hm : Moved {loc} x y)
    (hp : y.dest.pending = some loc) (hc : y.disk.fileAt loc = some (data', y.disk.clock)) :
    d.UnderWay loc data' y := by
  obtain ⟨hl, ht, hs, -⟩ := h.sound.pending loc h.pending
  refine ⟨⟨fun l hl' => ?_⟩, hm.path.trans h.path, (hm.kept ht.symm hs.symm).trans h.kept,
    hm.disk.clock.trans h.clock, hp, hc⟩
  obtain rfl : loc = l := by simpa [hp] using hl'
  rw [hm.target, hm.sidecar, hc]
  exact ⟨hl, ht, hs, by simp⟩

theorem gained (h : d.UnderWay loc data x) (hg : Gained loc bs x y) :
    d.Staged (data ++ x.dest.buffer ++ bs) y := by
  obtain ⟨data', hf, hb⟩ := hg.holds _ ⟨data, h.content, rfl⟩
  exact ⟨loc, data', h.of_moved hg.moved (hg.pending.trans h.pending) hf, hb⟩

/-- The file of a sink that is let go has all that was staged but for what is lost. -/
theorem closeSink (h : d.UnderWay loc data x) : ∃ data',
    d.UnderWay loc data' (Dest.closeSink x).2 ∧ data' ++ x.lost = data ++ x.dest.buffer := by
  obtain ⟨hm, hp, hc⟩ := moved_closeSink h.pending
  obtain ⟨data', hf, hd⟩ := hc _ ⟨data, h.content, rfl⟩
  exact ⟨data', h.of_moved hm hp hf, hd⟩

theorem commit_error (h : d.UnderWay loc data x) {e : IoError}
    (he : (Dest.complete x true).1 = .error e) :
    (Dest.complete x true).2.Sound ∧ (Dest.complete x true).2.kept = d.kept := by
  rw [← h.kept]
  exact h.sound.ended h.pending
    (complete_true_error h.pending (h.sound.pending loc h.pending).1 he).1
    (pending_complete h.pending _).1

theorem commit_ok (h : d.UnderWay loc data x) (ho : (Dest.complete x true).1 = .ok ()) :
    (Dest.complete x true).2.Sound ∧
      (Dest.complete x true).2.kept = ⟨some data, d.kept.tag, some d.disk.clock⟩ := by
  obtain ⟨hl, ht, hs, -⟩ := h.sound.pending loc h.pending
  obtain ⟨hm, hf, -⟩ := complete_true_ok h.pending hl ho
  rw [h.content, h.clock] at hf
  refine ⟨.of_not_pending (pending_complete h.pending _).1, Kept.ext ?_ ?_ ?_⟩
  · simp [OnDisk.kept, hm.target, hf]
  · rw [hm.kept_tag (by simpa using ⟨hs.symm, x.sidecar_ne_target⟩), h.kept]
  · simp [OnDisk.kept, hm.target, hf]

end UnderWay

/-- The tag that is shown is the text in the sidecar. -/
theorem kept_tag_of_etag {tag : String} (h : Dest.etag d = some tag) :
    d.kept.tag = some (Text.Utf8.encode tag) := by
  have h : (if d.disk.contains d.dest.target then d.disk.readText? (Path.ofText d.dest.etagPath)
    else none) = some tag := h
  split at h
  · unfold FileSystem.readText? FileSystem.readFile at h
    split at h
    · rename_i data hf
      split at hf <;> cases hf
      rename_i l t hr
      obtain ⟨hl, hn⟩ := FileSystem.resolve_eq_ok hr
      have hd : data = Text.Utf8.encode tag := by
        rw [← Text.Utf8.decode_eq_ok_iff]
        cases hd : Text.Utf8.decode data with
        | error f => simp [hd, Except.toOption] at h
        | ok s => simpa [hd, Except.toOption] using h
      show (d.disk.fileAt d.sidecar).map _ = _
      rw [sidecar, ← hl, FileSystem.fileAt_eq_some_iff.2 hn, hd]
      rfl
    · cases h
  · cases h

instance : Keeper OnDisk Bytes where
  kept := kept
  Idle := Sound
  Staged := Staged
  Sealed := Sealed
  tagForm := Text.Utf8.encode
  Scrap := IsScrap
  commitTime d := some d.disk.clock
  open_ok h ho := h.open_ok ho
  open_error h he := h.open_error he
  write := by
    rintro d bs x chunk ⟨loc, data, h, rfl⟩
    exact h.gained (gained_write h.pending chunk)
  flush := by
    rintro d bs x ⟨loc, data, h, rfl⟩
    simpa using h.gained (gained_flush h.pending)
  flush_ok := by
    rintro d bs x ⟨loc, data, h, -⟩ ho
    rw [closeSink_of_empty ((flush_ok_iff h.pending).1 ho)]
  close_ok := by
    rintro d bs x ⟨loc, data, h, rfl⟩ ho
    obtain ⟨data', hu, hd⟩ := h.closeSink
    rw [(closeSink_ok_iff h.pending).1 ho, List.append_nil] at hd
    exact ⟨loc, hd ▸ hu⟩
  close_error := by
    rintro d bs x e ⟨loc, data, h, -⟩ -
    obtain ⟨data', hu, -⟩ := h.closeSink
    exact ⟨data', loc, hu⟩
  drop_idle h := h.drop
  sealed_idle := fun ⟨_, h⟩ => ⟨h.sound, h.kept⟩
  commit_ok := fun ⟨_, h⟩ ho => h.commit_ok ho
  commit_error := fun ⟨_, h⟩ he => h.commit_error he
  setLastModified t h := h.setLastModified t
  setEtag tag h := h.setEtag tag
  etag h := kept_tag_of_etag h
  tagForm_injective _ _ h := Text.Utf8.encode_injective h

end Refetch.OnDisk
