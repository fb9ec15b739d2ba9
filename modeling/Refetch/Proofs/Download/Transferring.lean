import Refetch.Download.Transfer
import Refetch.Proofs.Digest.Streaming
import Refetch.Proofs.Progress.Totals
/-!
# How a transfer goes

A body is copied through a progress stream, and through a hashing source if a digest is expected.

1. Neither of the two is felt by the sink: it sees the copy of the bare source
   (`dest_copyChecked`).
2. The sink is filled well exactly when the source `Arrives`: everything was read, written and
   flushed and has the expected digest (`outcome_fill_eq_ok_iff`). The size is the number of bytes.
3. Every transfer completes the destination once, with the flag that says so
   (`transfer_of_shown`).
-/

namespace Refetch.Download

variable {ρ σ : Type} [Source ρ] [Dest σ]

/-- The data has the digest that is expected, if one is. -/
def Passes (checksum : Option Digest.Checksum) (data : Bytes) : Prop :=
  ∀ k ∈ checksum, k.accepts (k.kind.hexDigest data) = true

/-- All of a source gets through an open sink, and passes. -/
structure Arrives (checksum : Option Digest.Checksum) (r : ρ) (d : σ) : Prop where
  read : (Source.readToEnd r).failure = none
  written : Traffic.accepted (copy r d).traffic = (Source.readToEnd r).data.length
  passes : Passes checksum (Source.readToEnd r).data
  flushed : (Dest.flush (copy r d).sink).1 = .ok ()

variable {url : Url} {checksum : Option Digest.Checksum} {r : ρ} {d : σ} {n : Nat}

/-! ## Copies through a stream -/

/-- A copy through sources that pass on what they read ends like the copy of the bare source. -/
theorem copy_eq_ok_iff {ρ' : Type} [Source ρ'] {inner : ρ' → ρ} (hf : Source.Follows inner)
    (r : ρ') : (copy r d).outcome = .ok n ↔
      (Source.readToEnd (inner r)).failure = none ∧
        Traffic.accepted (copy (inner r) d).traffic = (Source.readToEnd (inner r)).data.length ∧
        n = (Source.readToEnd (inner r)).data.length := by
  rw [copy, (hf.copyFrom 0 r d).1, outcome_copyFrom_eq_ok_iff, Nat.zero_add, copy]

theorem follows_hashing (h : Digest.BlockHash) : Source.Follows
    fun r : Digest.Hashing h (Progress.Stream ρ) => r.inner.inner :=
  Progress.Stream.follows_inner.comp Digest.Hashing.follows_inner

/-- The sink cannot tell whether the copy is observed or checked. -/
theorem dest_copyChecked (url : Url) (checksum : Option Digest.Checksum) (r : ρ) (d : σ) :
    (copyChecked url checksum (Progress.Stream.new r) d).dest = (copy r d).sink ∧
      Traffic.accepted (copyChecked url checksum (Progress.Stream.new r) d).traffic =
        Traffic.accepted (copy r d).traffic := by
  cases checksum with
  | none => exact (Progress.Stream.follows_inner.copyFrom 0 (Progress.Stream.new r) d).2
  | some k =>
    exact ((follows_hashing k.kind.algorithm).copyFrom 0
      (Digest.Hashing.new (Progress.Stream.new r)) d).2

theorem copyChecked_eq_ok_iff :
    (copyChecked url checksum (Progress.Stream.new r) d).outcome = .ok n ↔
      (Source.readToEnd r).failure = none ∧
        Traffic.accepted (copy r d).traffic = (Source.readToEnd r).data.length ∧
        Passes checksum (Source.readToEnd r).data ∧ n = (Source.readToEnd r).data.length := by
  cases checksum with
  | none =>
    have := copy_eq_ok_iff (n := n) (d := d) Progress.Stream.follows_inner (Progress.Stream.new r)
    simp only [Progress.Stream.new] at this
    simp only [copyChecked, Passes, Option.not_mem_none, false_implies, implies_true, true_and,
      Progress.Stream.new, ← this]
    cases (copy (⟨r, 0⟩ : Progress.Stream ρ) d).outcome <;> simp [Except.mapError]
  | some k =>
    have hc (m : Nat) := copy_eq_ok_iff (n := m) (d := d) (follows_hashing k.kind.algorithm)
      (.new (Progress.Stream.new r))
    simp only [Digest.Hashing.new, Progress.Stream.new] at hc
    simp only [copyChecked]
    cases ho : (copy (Digest.Hashing.new (Progress.Stream.new r) :
        Digest.Hashing k.kind.algorithm _) d).outcome with
    | error e =>
      simp only [reduceCtorEq, false_iff]
      rintro ⟨hr, ha, -, hn⟩
      have := (hc n).2 ⟨hr, ha, hn⟩
      simp [Digest.Hashing.new, Progress.Stream.new, this] at ho
    | ok m =>
      have hd : (Source.readToEnd (Progress.Stream.new r)).data = (Source.readToEnd r).data :=
        (Progress.Stream.follows_inner.readToEnd (Progress.Stream.new r)).1
      obtain ⟨hr, ha, hm⟩ := (hc m).1 ho
      have hp : k.accepts (Text.Hex.encode (copy (Digest.Hashing.new (Progress.Stream.new r) :
          Digest.Hashing k.kind.algorithm _) d).source.hasher.finish) = true ↔
          Passes (some k) (Source.readToEnd r).data := by
        rw [Digest.Hashing.finish_copy ho, hd]
        simp [Passes, Digest.HashKind.hexDigest]
      simp only [← hp, hr, ha, true_and]
      split
      · rw [Except.ok.injEq, and_iff_right ‹_›, hm, eq_comm]
      · simp only [reduceCtorEq, false_iff, not_and]
        exact fun hk => absurd hk ‹_›

/-- What is heard of a copy that ends well: the last total is that of the bytes. -/
theorem getLast?_totals_copyChecked (hs : Progress.Stream.Silent ρ)
    (hc : (copyChecked url checksum (Progress.Stream.new r) d).outcome = .ok n) :
    (Traffic.totals (copyChecked url checksum (Progress.Stream.new r) d).traffic).getLast? =
      if n = 0 then none else some n := by
  obtain ⟨hr, -, -, rfl⟩ := copyChecked_eq_ok_iff.1 hc
  have hf := Progress.Stream.follows_inner.readToEnd (Progress.Stream.new r)
  have ht : Traffic.totals (copyChecked url checksum (Progress.Stream.new r) d).traffic =
      (Source.readToEnd (Progress.Stream.new r)).totals := by
    cases checksum with
    | none =>
      simp only [copyChecked] at hc ⊢
      cases ho : (copy (Progress.Stream.new r) d).outcome with
      | error e => simp [ho, Except.mapError] at hc
      | ok m => exact (copyFrom_of_ok ho).2
    | some k =>
      simp only [copyChecked] at hc ⊢
      cases ho : (copy (Digest.Hashing.new (Progress.Stream.new r) :
          Digest.Hashing k.kind.algorithm _) d).outcome with
      | error e => simp [ho] at hc
      | ok m =>
        rw [copy, (copyFrom_of_ok ho).2, Digest.Hashing.totals_readToEnd]
        rfl
  rw [ht, Progress.Stream.getLast?_totals hs (hf.2.trans hr), hf.1]
  simp [Progress.Stream.new, List.length_eq_zero_iff]

/-! ## Calls -/

/-- A call that can change the destination, or the closing of the response. -/
def Event.isCall (e : Event) : Bool := e.changesDest || e == .closed

/-- A call on an open sink. -/
def Event.usesSink : Event → Bool
  | .written .. | .flushed => true
  | _ => false

/-- The calls among some events. -/
def calls (es : List Event) : List Event := es.filter Event.isCall

@[simp] theorem calls_nil : calls [] = [] := rfl

@[simp] theorem calls_append (es fs : List Event) : calls (es ++ fs) = calls es ++ calls fs :=
  List.filter_append ..

@[simp] theorem calls_cons (e : Event) (es : List Event) :
    calls (e :: es) = if e.isCall then e :: calls es else calls es := List.filter_cons ..

theorem usesSink_of_mem_calls {ts : List Traffic} {w : Event}
    (hw : w ∈ calls (ts.map Event.ofTraffic)) : w.usesSink := by
  obtain ⟨hm, hc⟩ := List.mem_filter.1 hw
  obtain ⟨t, -, rfl⟩ := List.mem_map.1 hm
  cases t with
  | total n => cases hc
  | offer n k => rfl

/-- The total that the observer hears. -/
def Event.total? : Event → Option Nat
  | .progressed n => some n
  | _ => none

/-- The totals that the observer heard. -/
def reported (es : List Event) : List Nat := es.filterMap Event.total?

@[simp] theorem reported_nil : reported [] = [] := rfl

@[simp] theorem reported_append (es fs : List Event) :
    reported (es ++ fs) = reported es ++ reported fs := List.filterMap_append

@[simp] theorem reported_cons (e : Event) (es : List Event) :
    reported (e :: es) = e.total?.toList ++ reported es := by
  cases h : e.total? <;> simp [reported, h]

@[simp] theorem reported_map_ofTraffic (ts : List Traffic) :
    reported (ts.map Event.ofTraffic) = Traffic.totals ts := by
  induction ts with
  | nil => rfl
  | cons t ts ih => cases t <;> simpa [Event.ofTraffic, Event.total?, Traffic.totals] using ih

/-! ## Filling a sink -/

/-- **When a sink is filled well**, and with how many bytes. -/
theorem outcome_fill_eq_ok_iff :
    (fill url checksum r d).outcome = .ok n ↔
      Arrives checksum r d ∧ n = (Source.readToEnd r).data.length := by
  have hs := (dest_copyChecked url checksum r d).1
  simp only [fill]
  cases hc : (copyChecked url checksum (Progress.Stream.new r) d).outcome with
  | error e =>
    simp only [reduceCtorEq, false_iff]
    rintro ⟨h, -⟩
    have hok : (copyChecked url checksum (Progress.Stream.new r) d).outcome = .ok _ :=
      copyChecked_eq_ok_iff.2 ⟨h.read, h.written, h.passes, rfl⟩
    rw [hc] at hok
    cases hok
  | ok m =>
    obtain ⟨hr, ha, hp, rfl⟩ := copyChecked_eq_ok_iff.1 hc
    have hf : Arrives checksum r d ↔ (Dest.flush (copy r d).sink).1 = .ok () :=
      ⟨fun h => h.flushed, fun h => ⟨hr, ha, hp, h⟩⟩
    simp only [hs, hf]
    cases (Dest.flush (copy r d).sink).1 <;> simp [eq_comm]

/-- A sink is only written to and flushed, and then let go. -/
theorem calls_fill (url : Url) (checksum : Option Digest.Checksum) (r : ρ) (d : σ) :
    ∃ ws n, (∀ w ∈ ws, w.usesSink) ∧
      calls (fill url checksum r d).events = ws ++ [.sinkClosed n] := by
  set ts := (copyChecked url checksum (Progress.Stream.new r) d).traffic with hts
  simp only [fill, ← hts]
  cases (copyChecked url checksum (Progress.Stream.new r) d).outcome with
  | error e =>
    refine ⟨calls (ts.map Event.ofTraffic), Traffic.accepted ts, ?_, by simp [Event.isCall,
      Event.changesDest]⟩
    exact fun w hw => usesSink_of_mem_calls hw
  | ok m =>
    refine ⟨calls (ts.map Event.ofTraffic) ++ [.flushed], Traffic.accepted ts, ?_, by
      simp [Event.isCall, Event.changesDest]⟩
    intro w hw
    rcases List.mem_append.1 hw with hw | hw
    · exact usesSink_of_mem_calls hw
    · rw [List.mem_singleton.1 hw]
      rfl

/-- The last total that is reported while a sink is filled well is the size. -/
theorem getLast?_reported_fill (hs : Progress.Stream.Silent ρ)
    (hf : (fill url checksum r d).outcome = .ok n) :
    (reported (fill url checksum r d).events).getLast? = if n = 0 then none else some n := by
  simp only [fill] at hf ⊢
  cases hc : (copyChecked url checksum (Progress.Stream.new r) d).outcome with
  | error e => simp [hc] at hf
  | ok m =>
    have hm : m = n := by
      simp only [hc] at hf
      split at hf <;> simp_all
    rw [← hm, ← getLast?_totals_copyChecked hs hc]
    simp [Event.total?]

/-- The sink is let go after the copy, or after the flush that follows. -/
theorem dest_fill (url : Url) (checksum : Option Digest.Checksum) (r : ρ) (d : σ) :
    (fill url checksum r d).dest = (Dest.closeSink (copy r d).sink).2 ∨
      (fill url checksum r d).dest = (Dest.closeSink (Dest.flush (copy r d).sink).2).2 := by
  have hs := (dest_copyChecked url checksum r d).1
  simp only [fill]
  split
  · exact .inl (by rw [hs])
  · exact .inr (by rw [hs])

/-- A sink that was filled well is let go after a flush. -/
theorem dest_fill_of_ok (h : (fill url checksum r d).outcome = .ok n) :
    (fill url checksum r d).dest = (Dest.closeSink (Dest.flush (copy r d).sink).2).2 := by
  have hs := (dest_copyChecked url checksum r d).1
  simp only [fill] at h ⊢
  split at h
  · cases h
  · rw [hs]

/-! ## Copying a body -/

variable {body : ReaderBody ρ}

/-- All of a body gets through the sink of a destination, and passes. -/
def BodyArrives (checksum : Option Digest.Checksum) (body : ReaderBody ρ) (d : σ) : Prop :=
  ∃ r, body.source = some r ∧ (Dest.openSink d).1 = .ok () ∧
    Arrives checksum r (Dest.openSink d).2

theorem copyBody_of_unreadable (h : body.source = none) :
    copyBody url checksum body d = ⟨[], .error (.transfer url.render alreadyOpened), d⟩ := by
  simp [copyBody, ReaderBody.openReader, h]

theorem copyBody_of_unopened {e : IoError} (h : body.source = some r)
    (ho : (Dest.openSink d).1 = .error e) :
    copyBody url checksum body d =
      ⟨[.sinkOpened], .error (.transfer url.render e), (Dest.openSink d).2⟩ := by
  simp [copyBody, ReaderBody.openReader, h, ho]

theorem copyBody_of_opened (h : body.source = some r) (ho : (Dest.openSink d).1 = .ok ()) :
    copyBody url checksum body d =
      { fill url checksum r (Dest.openSink d).2 with
        events := .sinkOpened :: (fill url checksum r (Dest.openSink d).2).events } := by
  simp [copyBody, ReaderBody.openReader, h, ho]

/-- A body is copied well exactly when it arrives. -/
theorem isOk_copyBody_iff :
    (copyBody url checksum body d).outcome.isOk ↔ BodyArrives checksum body d := by
  cases hb : body.source with
  | none =>
    rw [copyBody_of_unreadable hb]
    simp [BodyArrives, hb, Except.isOk, Except.toBool]
  | some r =>
    cases ho : (Dest.openSink d).1 with
    | error e =>
      rw [copyBody_of_unopened hb ho]
      simp [BodyArrives, ho, Except.isOk, Except.toBool]
    | ok u =>
      rw [copyBody_of_opened hb ho]
      simp only [BodyArrives, hb, ho, Option.some.injEq, exists_eq_left', true_and]
      constructor
      · intro h
        cases hf : (fill url checksum r (Dest.openSink d).2).outcome with
        | error e => simp [hf, Except.isOk, Except.toBool] at h
        | ok n => exact (outcome_fill_eq_ok_iff.1 hf).1
      · intro h
        rw [outcome_fill_eq_ok_iff.2 ⟨h, rfl⟩]
        rfl

/-- The size that a copy tells is that of the body. -/
theorem outcome_copyBody (h : (copyBody url checksum body d).outcome = .ok n) :
    ∃ r, body.source = some r ∧ (Dest.openSink d).1 = .ok () ∧
      Arrives checksum r (Dest.openSink d).2 ∧ n = (Source.readToEnd r).data.length := by
  obtain ⟨r, hb, ho, -⟩ := isOk_copyBody_iff.1 (show (copyBody url checksum body d).outcome.isOk
    by rw [h]; rfl)
  rw [copyBody_of_opened hb ho] at h
  obtain ⟨ha, hn⟩ := outcome_fill_eq_ok_iff.1 h
  exact ⟨r, hb, ho, ha, hn⟩

/-- The last total that is reported while a body is copied well is the size. -/
theorem getLast?_reported_copyBody (hs : Progress.Stream.Silent ρ)
    (h : (copyBody url checksum body d).outcome = .ok n) :
    (reported (copyBody url checksum body d).events).getLast? =
      if n = 0 then none else some n := by
  obtain ⟨r, hb, ho, -, -⟩ := outcome_copyBody h
  rw [copyBody_of_opened hb ho] at h ⊢
  simpa [Event.total?] using getLast?_reported_fill hs h

/-- The failure is that of a transfer, or of its digest. -/
def isOfTransfer : Error → Bool
  | .transfer .. | .checksumMismatch .. => true
  | _ => false

theorem isOfTransfer_of_copyChecked {f : Error}
    (h : (copyChecked url checksum r d).outcome = .error f) : isOfTransfer f := by
  cases checksum with
  | none =>
    simp only [copyChecked, Except.mapError] at h
    split at h <;> cases h
    rfl
  | some k =>
    simp only [copyChecked] at h
    split at h
    · cases h
      rfl
    · split at h <;> cases h
      rfl

theorem isOfTransfer_of_copyBody {f : Error}
    (h : (copyBody url checksum body d).outcome = .error f) : isOfTransfer f := by
  cases hb : body.source with
  | none =>
    rw [copyBody_of_unreadable hb] at h
    cases h
    rfl
  | some r =>
    cases ho : (Dest.openSink d).1 with
    | error e =>
      rw [copyBody_of_unopened hb ho] at h
      cases h
      rfl
    | ok u =>
      rw [copyBody_of_opened hb ho] at h
      simp only [fill] at h
      split at h
      · cases h
        exact isOfTransfer_of_copyChecked ‹_›
      · dsimp only at h
        split at h <;> cases h
        rfl

/-! ## Completing -/

variable {copied : Except Error Nat}

theorem dest_completeCopy (url : Url) (copied : Except Error Nat) (d : σ) :
    (completeCopy url copied d).dest = (Dest.complete d copied.isOk).2 := by
  unfold completeCopy
  dsimp only
  split <;> rfl

theorem calls_completeCopy (url : Url) (copied : Except Error Nat) (d : σ) :
    calls (completeCopy url copied d).events = [.completed copied.isOk] := by
  unfold completeCopy
  dsimp only
  split <;> simp [Event.isCall, Event.changesDest]

theorem outcome_completeCopy_eq_ok_iff :
    (completeCopy url copied d).outcome = .ok n ↔
      copied = .ok n ∧ (Dest.complete d true).1 = .ok () := by
  have ht (m : Nat) : (Except.ok m : Except Error Nat).isOk = true := rfl
  unfold completeCopy
  dsimp only
  split <;> simp_all

/-- The failure of a copy goes before that of the completion. -/
theorem outcome_completeCopy_of_uncopied (url : Url) (f : Error) (d : σ) :
    (completeCopy url (.error f) d).outcome = .error f := by
  unfold completeCopy
  dsimp only
  split <;> simp_all

theorem outcome_completeCopy_of_uncompleted {i : IoError}
    (h : (Dest.complete d true).1 = .error i) (url : Url) (n : Nat) :
    (completeCopy url (.ok n) d).outcome = .error (.transfer url.render i) := by
  have ht : (Except.ok n : Except Error Nat).isOk = true := rfl
  unfold completeCopy
  dsimp only
  split <;> simp_all

@[simp] theorem reported_completeCopy (url : Url) (copied : Except Error Nat) (d : σ) :
    reported (completeCopy url copied d).events = [] := by
  unfold completeCopy
  dsimp only
  split <;> rfl

theorem isOfTransfer_of_completeCopy {f : Error}
    (hc : ∀ f, copied = .error f → isOfTransfer f)
    (h : (completeCopy url copied d).outcome = .error f) : isOfTransfer f := by
  unfold completeCopy at h
  dsimp only at h
  split at h <;> cases h
  · rfl
  · exact hc f rfl
  · exact hc f rfl

/-- Where a listener is set or the run is quiet, there is no display to crash. -/
theorem displayCrash?_of_unshown {c : Config} (h : c.listener = true ∨ c.quiet = true)
    (name : String) (length : Option Nat) : displayCrash? c name length = none := by
  rw [displayCrash?, if_pos (by simpa using h)]

/-- **A transfer**: it copies, and completes once, whatever the copy came to. -/
theorem transfer_of_shown (url : Url) {c : Config}
    (hx : displayCrash? c (Dest.describe d) body.length = none) :
    let copied := copyBody url c.checksum body d
    let completed := completeCopy url copied.outcome copied.dest
    calls (transfer c url body d).events = calls copied.events ++ [.completed copied.outcome.isOk] ∧
      reported (transfer c url body d).events = reported copied.events ∧
      (transfer c url body d).outcome = .ofExcept completed.outcome ∧
      (transfer c url body d).dest = (Dest.complete copied.dest copied.outcome.isOk).2 := by
  have hc := calls_completeCopy url (copyBody url c.checksum body d).outcome
    (copyBody url c.checksum body d).dest
  have hd := dest_completeCopy url (copyBody url c.checksum body d).outcome
    (copyBody url c.checksum body d).dest
  simp [transfer, hx, hc, hd, Event.isCall, Event.changesDest, Event.total?]

end Refetch.Download
