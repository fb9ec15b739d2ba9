import Refetch.Engine.Scripted
import Refetch.Proofs.Dest.Commits
import Refetch.Proofs.Download.Course
/-!
# What a run leaves

1. While a body is copied, what the sink accepted is staged and what is kept stays. When the sink is
   let go after a copy that went well, all of the body is there (`sealed_attemptedCopy`).
2. An attempt either leaves what is kept alone or stores the whole body; keeping the validators then
   changes what it says it changes (`kept_completion`, `kept_persist`).
3. A run that does not commit therefore leaves everything as it was. One that commits replaces the
   data, and the validators if it ends well (`postState_run`).
-/

namespace Refetch.Download

variable {ρ σ ε τ : Type} [Source ρ] [Dest σ] [Keeper σ τ] [Engine ε ρ]
variable {c : Config} {d x : σ} {e : ε} {a : Answer ρ} {body : ReaderBody ρ} {n : Nat}

open Keeper (kept Idle Staged Sealed tagForm Scrap commitTime)

/-! ## Attempts -/

/-- Some bytes are there when the sink is let go: all of the source if the sink was filled well. -/
theorem sealed_fill (url : Url) (checksum : Option Digest.Checksum) (r : ρ) (h : Staged d [] x) :
    ∃ bs, Sealed d bs (fill url checksum r x).dest ∧
      ((fill url checksum r x).outcome.isOk → bs = (Source.readToEnd r).data) := by
  have hc := Keeper.write.copyFrom h 0 r
  rw [List.nil_append] at hc
  cases ho : (fill url checksum r x).outcome with
  | error f =>
    have hd : ∃ bs, Sealed d bs (fill url checksum r x).dest := by
      rcases dest_fill url checksum r x with hd | hd <;> rw [hd]
      · exact Keeper.close hc
      · exact Keeper.close (Keeper.flush hc)
    obtain ⟨bs, hs⟩ := hd
    exact ⟨bs, hs, by simp [Except.isOk, Except.toBool]⟩
  | ok n =>
    have ha := (outcome_fill_eq_ok_iff.1 ho).1
    refine ⟨_, dest_fill_of_ok ho ▸ Keeper.close_ok (Keeper.flush hc) (Keeper.flush_ok hc ha.flushed),
      fun _ => ?_⟩
    have hw : Traffic.accepted (copyFrom 0 r x).traffic = _ := ha.written
    rw [hw, List.take_length]

/-- After the copy of an attempt either no transfer is under way, and then the copy failed, or some
bytes are there: those of the body if the copy went well. -/
theorem sealed_attemptedCopy (c : Config) (a : Answer ρ) (body : ReaderBody ρ) (h : Idle d) :
    (Idle (attemptedCopy c a body d).dest ∧ kept (attemptedCopy c a body d).dest = kept d ∧
        (attemptedCopy c a body d).outcome.isOk = false) ∨
      ∃ bs, Sealed d bs (attemptedCopy c a body d).dest ∧
        ∀ n, (attemptedCopy c a body d).outcome = .ok n → bs.length = n ∧
          ∃ r, body.source = some r ∧ (Source.readToEnd r).failure = none ∧
            bs = (Source.readToEnd r).data := by
  unfold attemptedCopy
  cases hb : body.source with
  | none =>
    rw [copyBody_of_unreadable hb]
    exact .inl ⟨h, rfl, rfl⟩
  | some r =>
    cases ho : (Dest.openSink d).1 with
    | error f =>
      obtain ⟨hi, hk⟩ := Keeper.open_error h ho
      rw [copyBody_of_unopened hb ho]
      exact .inl ⟨hi, hk, rfl⟩
    | ok u =>
      rw [copyBody_of_opened hb ho]
      obtain ⟨bs, hs, hd⟩ := sealed_fill a.url c.checksum r (Keeper.open_ok h ho)
      refine .inr ⟨bs, hs, fun n hn => ?_⟩
      obtain ⟨ha, rfl⟩ := outcome_fill_eq_ok_iff.1 hn
      obtain rfl := hd (by rw [hn]; rfl)
      exact ⟨rfl, r, rfl, ha.read, rfl⟩

/-- An attempt that is not stored leaves what is kept alone. -/
theorem kept_of_failed (h : Idle d)
    (hf : ¬ ((attemptedCopy c a body d).outcome.isOk ∧
      (attemptedCompletion c a body d).1 = .ok ())) :
    Idle (attemptedCompletion c a body d).2 ∧
      kept (attemptedCompletion c a body d).2 = kept d := by
  unfold attemptedCompletion at hf ⊢
  cases hok : (attemptedCopy c a body d).outcome.isOk with
  | false =>
    rcases sealed_attemptedCopy c a body h with
      ⟨hi, hk, -⟩ | ⟨bs, hs, -⟩
    · obtain ⟨hi', hk'⟩ := Keeper.drop_idle hi
      exact ⟨hi', hk'.trans hk⟩
    · exact Keeper.drop_sealed hs
  | true =>
    rcases sealed_attemptedCopy c a body h with
      ⟨-, -, hn⟩ | ⟨bs, hs, -⟩
    · rw [hok] at hn
      cases hn
    · rw [hok] at hf
      cases hc : (Dest.complete (attemptedCopy c a body d).dest true).1 with
      | ok u => exact absurd ⟨rfl, hc⟩ hf
      | error i => exact Keeper.commit_error hs hc

/-- An attempt that is stored replaces the data by the body. -/
theorem kept_of_stored (h : Idle d) (hn : (attemptedCopy c a body d).outcome = .ok n)
    (hs : (attemptedCompletion c a body d).1 = .ok ()) :
    Idle (attemptedCompletion c a body d).2 ∧
      ∃ r, body.source = some r ∧ (Source.readToEnd r).failure = none ∧
        (Source.readToEnd r).data.length = n ∧
        kept (attemptedCompletion c a body d).2 =
          ⟨some (Source.readToEnd r).data, (kept d).tag, commitTime d⟩ := by
  have hok : (attemptedCopy c a body d).outcome.isOk = true := by rw [hn]; rfl
  unfold attemptedCompletion at hs ⊢
  rw [hok] at hs ⊢
  rcases sealed_attemptedCopy c a body h with
    ⟨-, -, hf⟩ | ⟨bs, hst, hb⟩
  · rw [hok] at hf
    cases hf
  · obtain ⟨hl, r, hr, hfail, rfl⟩ := hb n hn
    obtain ⟨hi, hk⟩ := Keeper.commit_ok hst hs
    exact ⟨hi, r, hr, hfail, hl, hk⟩

/-! ## Validators -/

theorem persist_of_error {time : Option Timestamp} {tag : Option String} {i : IoError}
    (h : (keepTime d time).outcome = .error i) :
    persist time tag d = ⟨(keepTime d time).events, .error i, (keepTime d time).dest⟩ := by
  simp only [persist, h]

theorem persist_of_ok {time : Option Timestamp} {tag : Option String}
    (h : (keepTime d time).outcome = .ok ()) :
    persist time tag d =
      { keepTag (keepTime d time).dest tag with
        events := (keepTime d time).events ++ (keepTag (keepTime d time).dest tag).events } := by
  simp only [persist, h]

theorem kept_keepTime (h : Idle d) (time : Option Timestamp) : Idle (keepTime d time).dest ∧
    kept (keepTime d time).dest = if (keepTime d time).outcome.isOk then
      { kept d with time := time.or (kept d).time } else kept d := by
  cases time with
  | none => exact ⟨h, rfl⟩
  | some t => exact Keeper.setLastModified t h

theorem kept_keepTag (h : Idle d) (tag : Option String) : Idle (keepTag d tag).dest ∧
    ∃ x, kept (keepTag d tag).dest = { kept d with tag := x } ∧
      ((keepTag d tag).outcome = .ok () → x = (tag.map (tagForm σ)).or (kept d).tag) ∧
      ((keepTag d tag).outcome ≠ .ok () →
        x = (kept d).tag ∨ ∃ t ∈ tag, ∃ s ∈ x, Scrap σ t s) := by
  cases tag with
  | none => exact ⟨h, (kept d).tag, rfl, fun _ => rfl, fun hn => absurd rfl hn⟩
  | some t =>
    obtain ⟨hi, x, hk, ho, hn⟩ := Keeper.setEtag t h
    exact ⟨hi, x, hk, ho, fun hf => (hn hf).imp_right fun hs => ⟨t, rfl, hs⟩⟩

/-- The tag of a persist that failed: the old one, or a scrap of the new one if it was tried. -/
def Unpersisted (old new : Option τ) (tag : Option String) (events : List Event) : Prop :=
  new = old ∨ ∃ t ∈ tag, .etagSet t ∈ events ∧ ∃ s ∈ new, Scrap σ t s

/-- Keeping validators replaces those that are new, or stops with the old tag or a scrap. -/
theorem kept_persist (h : Idle d) (time : Option Timestamp) (tag : Option String) :
    Idle (persist time tag d).dest ∧ (kept (persist time tag d).dest).data = (kept d).data ∧
      ((persist time tag d).outcome = .ok () → kept (persist time tag d).dest =
        ⟨(kept d).data, (tag.map (tagForm σ)).or (kept d).tag, time.or (kept d).time⟩) ∧
      ((persist time tag d).outcome ≠ .ok () → Unpersisted (σ := σ) (kept d).tag
        (kept (persist time tag d).dest).tag tag (persist time tag d).events) := by
  obtain ⟨ht, hk⟩ := kept_keepTime h time
  cases hto : (keepTime d time).outcome with
  | error i =>
    replace hk : kept (keepTime d time).dest = kept d := by rw [hk, hto]; rfl
    rw [persist_of_error hto]
    exact ⟨ht, congrArg Kept.data hk, by simp, fun _ => .inl (congrArg Kept.tag hk)⟩
  | ok u =>
    replace hk : kept (keepTime d time).dest = { kept d with time := time.or (kept d).time } := by
      rw [hk, hto]; rfl
    obtain ⟨hi, x, hk', ho, hn⟩ := kept_keepTag ht tag
    rw [persist_of_ok hto]
    dsimp only
    rw [hk] at hk' ho hn
    rw [hk']
    refine ⟨hi, rfl, fun hok => by rw [ho hok], fun hf => (hn hf).imp_right ?_⟩
    rintro ⟨t, rfl, hs⟩
    exact ⟨t, rfl, List.mem_append_right _ List.mem_cons_self, hs⟩

/-! ## Runs -/

/-- The run put its body in the place of the data that was kept: it ended well after a transfer, or
with the failure to keep a validator. -/
def Run.commits (r : Run σ ε) : Bool :=
  match r.outcome with
  | .ok s => s.status == .downloaded
  | .error (.io _) => r.events.any Event.keepsValidator
  | _ => false

variable (c d e) in
/-- The source of the body that a run is answered with, if there is one. -/
def Config.source? : Option ρ := do (← (← c.answer? d e).response.entity).source

/-- What a run leaves behind, from one destination to the next. -/
structure PostState (c : Config) (d : σ) (e : ε) (r : Run σ ε) (d' : σ) : Prop where
  dest : r.dest = some d'
  idle : Idle d'
  /-- A run that does not commit leaves everything as it was. -/
  uncommitted : r.commits = false → kept d' = kept d
  /-- A run that commits has read all of a body, and keeps it. -/
  committed : r.commits = true → ∃ s, c.source? d e = some s ∧
    (Source.readToEnd s).failure = none ∧ (kept d').data = some (Source.readToEnd s).data
  /-- A download stores the tag and the time of the response, and otherwise keeps the tag and shows
  the time of the commit. -/
  downloaded : ∀ s, r.outcome = .ok s → s.status = .downloaded →
    ∃ a, c.answer? d e = some a ∧ s.size = ((kept d').data.getD []).length ∧
      (kept d').tag = ((c.remoteTag a.response.headers).map (tagForm σ)).or (kept d).tag ∧
      (kept d').time = (c.remoteTime a.response.headers).or (commitTime d)
  /-- When the validators could not be kept, the old tag is, or a scrap of the response's tag if that
  was tried. -/
  unpersisted : r.commits = true → ∀ i, r.outcome = .error (.io i) →
    ∃ a, c.answer? d e = some a ∧ Unpersisted (σ := σ) (kept d).tag (kept d').tag
      (c.remoteTag a.response.headers) r.events

theorem commits_of_unattempted (h : c.attempt? d e = none) :
    (run c (some d) e).commits = false := by
  obtain ⟨-, hc, ho⟩ := run_of_unattempted h
  unfold Run.commits
  split
  · simpa using ho _ ‹_›
  · rw [List.any_eq_false]
    intro ev hev hk
    have hm : ev ∈ calls (run c (some d) e).events :=
      List.mem_filter.2 ⟨hev, by cases ev <;> simp_all [Event.keepsValidator, Event.isCall,
        Event.changesDest]⟩
    rw [hc] at hm
    split at hm
    · rw [List.mem_singleton.1 hm] at hk
      cases hk
    · cases hm
  · rfl

/-- When validators cannot be kept, one of them was tried. -/
theorem any_keepsValidator_persist {time : Option Timestamp} {tag : Option String} {i : IoError}
    (h : (persist time tag d).outcome = .error i) :
    (persist time tag d).events.any Event.keepsValidator = true := by
  cases time with
  | none =>
    cases tag with
    | none => cases h
    | some t => rfl
  | some t =>
    unfold persist
    dsimp only
    split <;> rfl

omit [Source ρ] in
theorem source?_of_attempted (h : c.attempt? d e = some (a, body)) :
    c.answer? d e = some a ∧ c.source? d e = body.source := by
  obtain ⟨ha, hb, -⟩ := attempt?_eq_some_iff.1 h
  refine ⟨ha, ?_⟩
  have he : a.response.entity = some body := by
    unfold Config.body? at hb
    split at hb
    · exact hb
    · cases hb
  simp [Config.source?, ha, he]

theorem commits_of_stored (h : c.attempt? d e = some (a, body))
    (hn : (attemptedCopy c a body d).outcome = .ok n)
    (hs : (attemptedCompletion c a body d).1 = .ok ()) : (run c (some d) e).commits = true := by
  obtain ⟨-, hcalls, -, ho⟩ := run_of_stored h hn hs
  unfold Run.commits
  rw [ho]
  cases hp : (persist (c.remoteTime a.response.headers) (c.remoteTag a.response.headers)
      (attemptedCompletion c a body d).2).outcome with
  | ok u => rfl
  | error i =>
    -- the validator that was tried is among the calls, and so among the events
    obtain ⟨ev, hev, hk⟩ := List.any_eq_true.1 (any_keepsValidator_persist hp)
    have hm : ev ∈ calls (run c (some d) e).events := by
      rw [hcalls]
      exact List.mem_append_right _ hev
    exact List.any_eq_true.2 ⟨ev, (List.mem_filter.1 hm).1, hk⟩

theorem commits_of_failed (h : c.attempt? d e = some (a, body))
    (hs : ¬ ((attemptedCopy c a body d).outcome.isOk ∧
      (attemptedCompletion c a body d).1 = .ok ())) : (run c (some d) e).commits = false := by
  obtain ⟨-, -, f, ho, hf⟩ := run_of_failed h hs
  unfold Run.commits
  rw [ho]
  cases f <;> first | rfl | cases hf

theorem postState_of_unattempted (h : Idle d) (ht : c.attempt? d e = none) :
    PostState c d e (run c (some d) e) d := by
  obtain ⟨hd, -, ho⟩ := run_of_unattempted ht
  have hc := commits_of_unattempted ht
  exact ⟨hd, h, fun _ => rfl, by simp [hc], fun s hs hst => absurd hst (ho s hs), by simp [hc]⟩

theorem postState_of_failed (h : Idle d) (ht : c.attempt? d e = some (a, body))
    (hf : ¬ ((attemptedCopy c a body d).outcome.isOk ∧
      (attemptedCompletion c a body d).1 = .ok ())) :
    PostState c d e (run c (some d) e) (attemptedCompletion c a body d).2 := by
  obtain ⟨hd, -, f, ho, -⟩ := run_of_failed ht hf
  obtain ⟨hi, hk⟩ := kept_of_failed h hf
  have hc := commits_of_failed ht hf
  exact ⟨hd, hi, fun _ => hk, by simp [hc], by simp [ho], by simp [hc]⟩

theorem postState_of_stored (h : Idle d) (ht : c.attempt? d e = some (a, body))
    (hn : (attemptedCopy c a body d).outcome = .ok n)
    (hs : (attemptedCompletion c a body d).1 = .ok ()) :
    ∃ x, PostState c d e (run c (some d) e) x := by
  obtain ⟨ha, hsrc⟩ := source?_of_attempted ht
  obtain ⟨hd, hcalls, -, ho⟩ := run_of_stored ht hn hs
  obtain ⟨hi, r, hr, hfail, hlen, hk⟩ := kept_of_stored h hn hs
  obtain ⟨hpi, hpd, hpo, hpe⟩ := kept_persist hi (c.remoteTime a.response.headers)
    (c.remoteTag a.response.headers)
  have hc := commits_of_stored ht hn hs
  rw [hk] at hpd hpo hpe
  refine ⟨_, hd, hpi, by simp [hc], fun _ => ⟨r, hsrc.trans hr, hfail, hpd⟩, ?_, ?_⟩
  · intro s hok hdown
    rw [ho] at hok
    cases hp : (persist (c.remoteTime a.response.headers) (c.remoteTag a.response.headers)
        (attemptedCompletion c a body d).2).outcome with
    | error i => simp [hp] at hok
    | ok u =>
      simp only [hp, Outcome.ok.injEq] at hok
      have hkp := hpo hp
      refine ⟨a, ha, ?_, by rw [hkp], by rw [hkp]⟩
      rw [← hok, hkp]
      exact hlen.symm
  · intro _ i hio
    rw [ho] at hio
    refine ⟨a, ha, ?_⟩
    have hp : (persist (c.remoteTime a.response.headers) (c.remoteTag a.response.headers)
        (attemptedCompletion c a body d).2).outcome ≠ .ok () := fun hp => by simp [hp] at hio
    refine (hpe hp).imp_right fun ⟨t, htag, hev, hs⟩ => ⟨t, htag, ?_, hs⟩
    -- what was tried is among the calls of the run
    have hm : Event.etagSet t ∈ calls (run c (some d) e).events := by
      rw [hcalls]
      exact List.mem_append_right _ hev
    exact (List.mem_filter.1 hm).1

/-- **What every run leaves**, whatever it is configured with and whatever it meets. -/
theorem postState_run (c : Config) (h : Idle d) (e : ε) :
    ∃ x, PostState c d e (run c (some d) e) x := by
  cases ht : c.attempt? d e with
  | none => exact ⟨d, postState_of_unattempted h ht⟩
  | some p =>
    obtain ⟨a, body⟩ := p
    rcases stored_or_failed c a body d with ⟨n, hn, hs⟩ | hf
    · exact postState_of_stored h ht hn hs
    · exact ⟨_, postState_of_failed h ht hf⟩

/-- A configuration of one address, with all validators. -/
def Config.validating : Config :=
  { Config.new with url := some "http://[::1]/f", useEtag := true, onlyIfModified := true }

/-- An engine that gives a body of one byte. -/
def oneByte : ScriptedEngine := ⟨[.answer 200 "" ∅ (.script [.bytes [65]]) none]⟩

/-- An engine that answers a request once. -/
def answering (headers : List (String × String)) (content : Scripted.Content) : ScriptedEngine :=
  ⟨[.answer 200 "" (.ofList headers) content none]⟩

end Refetch.Download
