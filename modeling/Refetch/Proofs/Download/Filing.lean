import Refetch.Proofs.Download.PostState
/-!
# Downloads into files

A download leaves a file that its path leads to: the directory of the target is there once the
transfer is completed, and keeping validators removes no directory.
-/

namespace Refetch.Download

variable {ρ ε : Type} [Source ρ] [Engine ε ρ]
variable {c : Config} {d : OnDisk} {e : ε} {a : Answer ρ} {body : ReaderBody ρ} {n : Nat}

/-! ## Keeping validators -/

theorem moved_keepTime (d : OnDisk) (time : Option Timestamp) :
    ∃ locs, OnDisk.Moved locs d (keepTime d time).dest := by
  cases time with
  | none => exact ⟨∅, rfl, .refl _ _⟩
  | some t =>
    cases hr : (Dest.setLastModified d t).1 with
    | ok u => exact ⟨_, (OnDisk.setLastModified_ok hr).1⟩
    | error i => exact ⟨_, OnDisk.setLastModified_error hr⟩

theorem moved_keepTag (d : OnDisk) (tag : Option String) :
    ∃ locs, OnDisk.Moved locs d (keepTag d tag).dest := by
  cases tag with
  | none => exact ⟨∅, rfl, .refl _ _⟩
  | some t => exact ⟨_, OnDisk.moved_setEtag d t⟩

theorem moved_persist (d : OnDisk) (time : Option Timestamp) (tag : Option String) :
    ∃ locs, OnDisk.Moved locs d (persist time tag d).dest := by
  obtain ⟨locs, ht⟩ := moved_keepTime d time
  cases ho : (keepTime d time).outcome with
  | error i =>
    rw [persist_of_error ho]
    exact ⟨locs, ht⟩
  | ok u =>
    obtain ⟨locs', hs⟩ := moved_keepTag (keepTime d time).dest tag
    rw [persist_of_ok ho]
    exact ⟨_, ht.union hs⟩

/-- A tag that was kept can be read. -/
theorem tagPlaced_of_persist {time : Option Timestamp} {tag : String}
    (h : (persist time (some tag) d).outcome = .ok ()) :
    (persist time (some tag) d).dest.TagPlaced := by
  cases ho : (keepTime d time).outcome with
  | error i =>
    rw [persist_of_error ho] at h
    cases h
  | ok u =>
    rw [persist_of_ok ho] at h ⊢
    rcases OnDisk.setEtag_cases (keepTime d time).dest tag with ⟨-, hn⟩ | ht
    · exact absurd h hn
    · exact ht.placed

/-! ## Downloads -/

/-- The path of a completed destination leads to its target. -/
theorem placed_of_stored (h : d.Sound) (hn : (attemptedCopy c a body d).outcome = .ok n)
    (hs : (attemptedCompletion c a body d).1 = .ok ()) :
    (attemptedCompletion c a body d).2.Placed ∧
      (attemptedCompletion c a body d).2.dest.path = d.dest.path := by
  have hok : (attemptedCopy c a body d).outcome.isOk = true := by rw [hn]; rfl
  rw [attemptedCompletion, hok] at hs ⊢
  rcases sealed_attemptedCopy (d := d) c a body h with ⟨-, -, hf⟩ | ⟨bs, ⟨loc, hst⟩, -⟩
  · rw [hok] at hf
    cases hf
  · obtain ⟨hm, -, -, hp⟩ := OnDisk.complete_true_ok hst.pending
      (hst.sound.pending loc hst.pending).1 hs
    exact ⟨hp, hm.path.trans hst.path⟩

/-- **A download** leaves the whole body in the file that the path names. -/
theorem file_of_downloaded {s : Summary} (h : d.Sound) (hs : (run c (some d) e).outcome = .ok s)
    (hd : s.status = .downloaded) :
    ∃ a body r d', c.attempt? d e = some (a, body) ∧ body.source = some r ∧
      Passes c.checksum (Source.readToEnd r).data ∧ (run c (some d) e).dest = some d' ∧
      d'.Sound ∧ d'.Placed ∧ d'.dest.path = d.dest.path ∧
      d'.disk.readFile d.dest.target = .ok (Source.readToEnd r).data := by
  obtain ⟨a, body, n, ht, hn, hst, -, -⟩ := stored_of_downloaded hs hd
  obtain ⟨hp, hpath⟩ := placed_of_stored h hn hst
  obtain ⟨r, hr, -, harr, -⟩ := outcome_copyBody hn
  obtain ⟨hi, r', hr', -, -, hk⟩ := kept_of_stored (ρ := ρ) h hn hst
  obtain rfl : r = r' := Option.some.inj (hr.symm.trans hr')
  obtain ⟨locs, hm⟩ := moved_persist (attemptedCompletion c a body d).2
    (c.remoteTime a.response.headers) (c.remoteTag a.response.headers)
  obtain ⟨hpi, hpd, -⟩ := kept_persist hi (c.remoteTime a.response.headers)
    (c.remoteTag a.response.headers)
  have hpl := hp.of_moved hm
  refine ⟨a, body, r, _, ht, hr, harr.passes, (run_of_stored ht hn hst).1, hpi, hpl,
    hm.path.trans hpath, ?_⟩
  have hdata : (persist (c.remoteTime a.response.headers) (c.remoteTag a.response.headers)
      (attemptedCompletion c a body d).2).dest.kept.data = some (Source.readToEnd r).data :=
    hpd.trans (congrArg Kept.data hk)
  rw [FileDest.target, ← hm.path.trans hpath]
  exact hpl.readFile hdata

end Refetch.Download
