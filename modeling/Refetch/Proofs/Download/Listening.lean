import Refetch.Proofs.Download.Deciding
/-!
# What a listener hears

1. A run that attempts no transfer stops after the request, or after it found no body. One that
   attempts a transfer goes on to its end (`landmarks_of_unattempted`, `landmarks_of_attempted`).
   What is heard of either is a `Word`.
2. A copy is observed read by read: a total is heard after each read that gave bytes and before a
   failure surfaces, and counts the bytes read so far (`observed_copyBody`).
3. The end is heard right after the completion, and tells whether both the copy and the completion
   went well (`finished_of_attempted`).
-/

namespace Refetch.Download

open Progress (Observed gathered)

/-- What can be heard of a run: nothing, or that it asks, or then also a transfer from its start to
its end. -/
inductive Word : List Event → Prop
  | silence : Word []
  | asked : Word [.connecting]
  | transferred (length : Option Nat) (totals : List Nat) (success : Bool) :
      Word (.connecting :: .started length :: totals.map .progressed ++ [.finished success])

theorem heard_map_ofTraffic (ts : List Traffic) :
    heard (ts.map Event.ofTraffic) = (Traffic.totals ts).map .progressed := by
  induction ts with
  | nil => rfl
  | cons t ts ih =>
    cases t with
    | total n => exact congrArg _ ih
    | offer n k => exact ih

variable {ρ σ ε : Type} [Source ρ] [Dest σ] [Engine ε ρ]
variable {c : Config} {d : σ} {e : ε} {a : Answer ρ} {body : ReaderBody ρ}

/-! ## How far a run gets -/

/-- A body was taken from the response. -/
structure Taken (c : Config) (d : σ) (e : ε) (es : List Event) (a : Answer ρ)
    (body : ReaderBody ρ) : Prop where
  answered : c.answer? d e = some a
  entity : a.response.entity = some body
  taken : .bodyTaken ∈ es

/-- The transfer of a body that was taken is attempted. -/
theorem attempt?_of_taken (hl : c.listener = true)
    (h : Taken c d e (run c (some d) e).events a body) : c.attempt? d e = some (a, body) := by
  refine attempt?_eq_some_iff.2 ⟨h.answered, ?_, displayCrash?_of_unshown (.inl hl) ..⟩
  -- A body is asked for only if the copy is outdated.
  have ht := (mem_landmarks_iff rfl).2 h.taken
  rw [landmarks_of_answered h.answered] at ht
  rw [body?_eq_some_iff h.answered]
  cases hj : judge a.response.status (c.conditionTime d) (c.remoteTime a.response.headers) with
  | rejected => simp [hj] at ht
  | current => simp [hj] at ht
  | outdated => exact ⟨rfl, h.entity⟩

/-- **A run that attempts a transfer** goes on to the end of it. -/
theorem landmarks_of_attempted (h : c.attempt? d e = some (a, body)) :
    landmarks (run c (some d) e).events =
      [.connecting, .executed a.prepared.request, .bodyTaken, .started body.length] ++
        (exchanged (attemptedCopy c a body d).events).map Event.ofTraffic ++
        [.finished ((attemptedCopy c a body d).outcome.isOk &&
          (attemptedCompletion c a body d).1.isOk)] := by
  obtain ⟨ha, hb, hx⟩ := attempt?_eq_some_iff.1 h
  obtain ⟨hj, hn⟩ := (body?_eq_some_iff ha).1 hb
  rw [landmarks_of_answered ha, hj, hn]
  dsimp only [Option.elim_some]
  rw [landmarks_transfer, hx]
  rfl

theorem taken_of_attempted (h : c.attempt? d e = some (a, body)) :
    Taken c d e (run c (some d) e).events a body := by
  obtain ⟨ha, hb, -⟩ := attempt?_eq_some_iff.1 h
  refine ⟨ha, ((body?_eq_some_iff ha).1 hb).2, (mem_landmarks_iff rfl).1 ?_⟩
  rw [landmarks_of_attempted h]
  simp

/-- **A run that attempts no transfer** stops after the request, or after it found no body. -/
theorem landmarks_of_unattempted (hl : c.listener = true) (h : c.attempt? d e = none) :
    landmarks (run c (some d) e).events = [] ∨
      ∃ q, landmarks (run c (some d) e).events = [.connecting, .executed q] ∨
        landmarks (run c (some d) e).events = [.connecting, .executed q, .bodyTaken] := by
  cases ha : c.answer? d e with
  | some a =>
    refine .inr ⟨a.prepared.request, ?_⟩
    rw [landmarks_of_answered ha]
    cases hj : judge a.response.status (c.conditionTime d) (c.remoteTime a.response.headers) with
    | rejected => exact .inl rfl
    | current => exact .inl rfl
    | outdated =>
      cases hn : a.response.entity with
      | none => exact .inr rfl
      | some body =>
        have hb := (body?_eq_some_iff ha).2 ⟨hj, hn⟩
        rw [attempt?_eq_some_iff.2 ⟨ha, hb, displayCrash?_of_unshown (.inl hl) ..⟩] at h
        cases h
  | none =>
    cases hk : c.asked? d with
    | none => exact .inl (run_of_unasked hk).1
    | some x =>
      obtain ⟨url, p⟩ := x
      refine .inr ⟨p.request, .inl ?_⟩
      rw [(landmarks_of_asked hk).1, landmarksAfter]
      cases hx : (Engine.exchange e p.request).1 with
      | crash x => rfl
      | error f => rfl
      | ok response =>
        rw [(answer?_eq_some_iff (a := ⟨url, p, response⟩)).2 ⟨hk, hx⟩] at ha
        cases ha

theorem word_run (hl : c.listener = true) (d : σ) (e : ε) :
    Word (heard (run c (some d) e).events) := by
  rw [← heard_landmarks]
  cases h : c.attempt? d e with
  | none =>
    rcases landmarks_of_unattempted hl h with hn | ⟨q, hn | hn⟩ <;> rw [hn]
    · exact .silence
    · exact .asked
    · exact .asked
  | some x =>
    obtain ⟨a, body⟩ := x
    rw [landmarks_of_attempted h, heard, List.filter_append, List.filter_append, ← heard, ← heard,
      heard_map_ofTraffic]
    exact .transferred ..

/-- The start is heard of a body that is taken, and of nothing else. -/
theorem started_mem_run_iff (hl : c.listener = true) {length : Option Nat} :
    .started length ∈ (run c (some d) e).events ↔
      ∃ a body, Taken c d e (run c (some d) e).events a body ∧ body.length = length := by
  rw [← mem_landmarks_iff rfl]
  constructor
  · intro hm
    cases h : c.attempt? d e with
    | none =>
      rcases landmarks_of_unattempted hl h with hn | ⟨q, hn | hn⟩ <;> rw [hn] at hm <;> simp at hm
    | some x =>
      obtain ⟨a, body⟩ := x
      refine ⟨a, body, taken_of_attempted h, ?_⟩
      rw [landmarks_of_attempted h] at hm
      have ht : .started length ∉ (exchanged (attemptedCopy c a body d).events).map
          Event.ofTraffic := by
        intro ht
        obtain ⟨t, -, ht⟩ := List.mem_map.1 ht
        cases t <;> cases ht
      simpa [ht, eq_comm] using hm
  · rintro ⟨a, body, ht, rfl⟩
    rw [landmarks_of_attempted (attempt?_of_taken hl ht)]
    simp

/-! ## Totals -/

/-- A copy of the body into the destination makes these reads of it, and none if the body or the
sink cannot be opened. -/
def BodyReads (body : ReaderBody ρ) (d : σ) (xs : List (Except IoError Bytes)) : Prop :=
  match body.source, (Dest.openSink d).1 with
  | some r, .ok () => Source.Reads r xs (copy r (Dest.openSink d).2).source
  | _, _ => xs = []

/-- The totals that are heard among some events go with some reads. -/
structure Counted (xs : List (Except IoError Bytes)) (es : List Event) : Prop where
  observed : Observed 0 xs (exchanged es)
  rising : (reported es).Pairwise (· ≤ ·)
  last : ∀ p, (reported es).getLast? = some p → p = gathered xs
  /-- The total is heard of before a failure surfaces. -/
  failed : ∀ f, .error f ∈ xs → f.isInterrupted = false →
    (reported es).getLast? = some (gathered xs)

theorem counted_of_observed {xs : List (Except IoError Bytes)} {es : List Event}
    (h : Observed 0 xs (exchanged es)) : Counted xs es := by
  have ht : reported es = Progress.announced 0 xs := by rw [← totals_exchanged, h.totals]
  have hlast (p : Nat) (hp : (reported es).getLast? = some p) : p = gathered xs := by
    rw [ht] at hp
    rw [Progress.getLast?_announced hp, Nat.zero_add]
  refine ⟨h, ht ▸ Progress.pairwise_announced 0 xs, hlast, fun f hf hi => ?_⟩
  cases hp : (reported es).getLast? with
  | none =>
    rw [List.getLast?_eq_none_iff, ht] at hp
    exact absurd hp (Progress.announced_ne_nil hi hf)
  | some p => rw [hlast p hp]

/-- A checked copy is observed like any other. -/
theorem observed_copyChecked (hs : Progress.Stream.Silent ρ) (url : Url)
    (checksum : Option Digest.Checksum) (r : ρ) (d : σ) :
    ∃ xs, Source.Reads r xs (copy r d).source ∧
      Observed 0 xs (copyChecked url checksum (Progress.Stream.new r) d).traffic := by
  cases checksum with
  | none => exact (Progress.Stream.announces hs).copyFrom 0 (Progress.Stream.new r) d
  | some k =>
    exact ((Progress.Stream.announces hs).comp Digest.Hashing.follows_inner
      fun _ _ => Digest.Hashing.totals_read).copyFrom 0
        (Digest.Hashing.new (Progress.Stream.new r) : Digest.Hashing k.kind.algorithm _) d

/-- **A copy is observed** read by read. -/
theorem observed_copyBody (hs : Progress.Stream.Silent ρ) (url : Url)
    (checksum : Option Digest.Checksum) (body : ReaderBody ρ) (d : σ) :
    ∃ xs, BodyReads body d xs ∧ Observed 0 xs (exchanged (copyBody url checksum body d).events) := by
  unfold BodyReads
  cases hb : body.source with
  | none =>
    rw [copyBody_of_unreadable hb]
    exact ⟨[], rfl, .nil 0⟩
  | some r =>
    cases ho : (Dest.openSink d).1 with
    | error f =>
      rw [copyBody_of_unopened hb ho]
      exact ⟨[], rfl, .nil 0⟩
    | ok u =>
      obtain ⟨xs, hx, h⟩ := observed_copyChecked hs url checksum r (Dest.openSink d).2
      refine ⟨xs, hx, ?_⟩
      rw [copyBody_of_opened hb ho, exchanged_cons, ← exchanged_landmarks, landmarks_fill,
        exchanged_map_ofTraffic]
      exact h

theorem counted_of_attempted (hs : Progress.Stream.Silent ρ)
    (h : c.attempt? d e = some (a, body)) :
    ∃ xs, BodyReads body d xs ∧ Counted xs (run c (some d) e).events := by
  obtain ⟨xs, hx, ho⟩ := observed_copyBody hs a.url c.checksum body d
  refine ⟨xs, hx, counted_of_observed ?_⟩
  rw [← exchanged_landmarks, landmarks_of_attempted h]
  simpa [Event.traffic?, attemptedCopy] using ho

/-! ## The end -/

/-- The end comes right after the completion, and tells of the copy and of the completion. -/
structure Ends (c : Config) (d : σ) (a : Answer ρ) (body : ReaderBody ρ) (success : Bool)
    (es : List Event) : Prop where
  next : [.completed (attemptedCopy c a body d).outcome.isOk, .finished success] <:+: es
  copied : (attemptedCopy c a body d).outcome.isOk ↔ BodyArrives c.checksum body d
  success : success = true ↔ BodyArrives c.checksum body d ∧
    (Dest.complete (attemptedCopy c a body d).dest true).1 = .ok ()

/-- The two events stand together among the events of an attempt. -/
theorem infix_of_attempted (h : c.attempt? d e = some (a, body)) :
    [.completed (attemptedCopy c a body d).outcome.isOk,
      .finished ((attemptedCopy c a body d).outcome.isOk &&
        (attemptedCompletion c a body d).1.isOk)] <:+: (run c (some d) e).events := by
  obtain ⟨ha, hb, hx⟩ := attempt?_eq_some_iff.1 h
  obtain ⟨-, -, before, -, hr⟩ := run_of_taken ha hb
  obtain ⟨after, -, hd⟩ := events_download c a.url { a.response with entity := none } body d
  obtain ⟨start, rest, -, -, ht⟩ := events_transfer c a.url body d hx
  rw [hr, hd, ht]
  exact ⟨before ++ start, rest ++ after, by simp [attemptedCopy, attemptedCompletion]⟩

theorem finished_of_attempted (h : c.attempt? d e = some (a, body)) {success : Bool}
    (hm : .finished success ∈ (run c (some d) e).events) :
    Ends c d a body success (run c (some d) e).events := by
  have hb : success = ((attemptedCopy c a body d).outcome.isOk &&
      (attemptedCompletion c a body d).1.isOk) := by
    rw [← mem_landmarks_iff rfl, landmarks_of_attempted h] at hm
    have ht : .finished success ∉ (exchanged (attemptedCopy c a body d).events).map
        Event.ofTraffic := by
      intro ht
      obtain ⟨t, -, ht⟩ := List.mem_map.1 ht
      cases t <;> cases ht
    simpa [ht] using hm
  have hc : (attemptedCopy c a body d).outcome.isOk ↔ BodyArrives c.checksum body d :=
    isOk_copyBody_iff
  refine ⟨hb ▸ infix_of_attempted h, hc, ?_⟩
  rw [hb, ← hc, attemptedCompletion]
  cases (attemptedCopy c a body d).outcome.isOk with
  | false => simp
  | true =>
    cases (Dest.complete (attemptedCopy c a body d).dest true).1 with
    | error f => simp [Except.isOk, Except.toBool]
    | ok u => simp [Except.isOk, Except.toBool]

/-! ## What is heard of a run -/

/-- What a listener hears of a run, and when. -/
structure Listening (c : Config) (d : σ) (e : ε) (r : Run σ ε) : Prop where
  word : Word (heard r.events)
  connecting : .connecting ∈ r.events ↔ ∃ q, .executed q ∈ r.events
  /-- The request is put to the engine. -/
  engine : ∀ q, .executed q ∈ r.events → r.engine = (Engine.exchange e q).2
  idle : (∀ q, .executed q ∉ r.events) → r.engine = e
  started : ∀ length, .started length ∈ r.events ↔
    (∀ s, r.outcome = .ok s → s.status ≠ .upToDate) ∧
      ∃ a body, Taken c d e r.events a body ∧ body.length = length
  progress : ∀ a body, Taken c d e r.events a body →
    ∃ xs, BodyReads body d xs ∧ Counted xs r.events
  finished : ∀ success, .finished success ∈ r.events →
    ∃ a body, Taken c d e r.events a body ∧ Ends c d a body success r.events

theorem engine_of_executed {q : Request} (hm : .executed q ∈ (run c (some d) e).events) :
    (run c (some d) e).engine = (Engine.exchange e q).2 := by
  obtain ⟨url, p, hk, rfl⟩ := executed_mem_run_iff.1 hm
  exact (landmarks_of_asked hk).2

theorem engine_of_unexecuted (hm : ∀ q, .executed q ∉ (run c (some d) e).events) :
    (run c (some d) e).engine = e := by
  cases hk : c.asked? d with
  | none => exact (run_of_unasked hk).2.1
  | some x =>
    obtain ⟨url, p⟩ := x
    exact absurd (executed_mem_run_iff.2 ⟨url, p, hk, rfl⟩) (hm p.request)

theorem listening_run (hs : Progress.Stream.Silent ρ) (hl : c.listener = true) (d : σ) (e : ε) :
    Listening c d e (run c (some d) e) where
  word := word_run hl d e
  connecting := connecting_mem_run_iff
  engine _ := engine_of_executed
  idle := engine_of_unexecuted
  started length := by
    rw [started_mem_run_iff hl, iff_and_self]
    rintro ⟨a, body, ht, -⟩ s hs hu
    obtain ⟨ha, hb, -⟩ := attempt?_eq_some_iff.1 (attempt?_of_taken hl ht)
    have hd := decision_of_taken ha hb
    rw [decision_eq_upToDate_iff.2 ⟨s, hs, hu⟩] at hd
    cases hd
  progress a body ht := counted_of_attempted hs (attempt?_of_taken hl ht)
  finished success hm := by
    cases h : c.attempt? d e with
    | none =>
      rw [← mem_landmarks_iff rfl] at hm
      rcases landmarks_of_unattempted hl h with hn | ⟨q, hn | hn⟩ <;> rw [hn] at hm <;> simp at hm
    | some x =>
      obtain ⟨a, body⟩ := x
      exact ⟨a, body, taken_of_attempted h, finished_of_attempted h hm⟩

/-- **What a listener hears** of every run of an action. Nothing is heard of an action without a
destination. -/
theorem listening_execute (hs : Progress.Stream.Silent ρ) (x : Action σ)
    (hl : x.config.listener = true) (e : ε) :
    match x.dest with
    | some d => Listening x.config d e (x.execute e).1
    | none => (x.execute e).1.events = [] := by
  cases hd : x.dest with
  | some d =>
    simp only [Action.execute, hd]
    exact listening_run hs hl d e
  | none =>
    simp only [Action.execute, hd]
    unfold run
    split <;> rfl

/-- A configuration with a listener. -/
def Config.heeding : Config := { Config.validating with listener := true }

/-- An engine whose answer breaks off after one byte of two. -/
def brokenOff : ScriptedEngine :=
  ⟨[.answer 200 "OK" (.ofList [("Content-Length", "2")])
    (.script [.fault (.custom .interrupted "again"), .bytes [65],
      .fault (.custom .connectionReset "reset")]) none]⟩

/-- A body is taken from it, and the transfer is heard of. -/
theorem listening_broken : Progress.Stream.Silent Script ∧ Config.heeding.listener = true ∧
    (∃ a body, Taken .heeding MemoryDest.new brokenOff
      ((Action.new .heeding (some MemoryDest.new)).execute brokenOff).1.events a body) ∧
    Listening .heeding MemoryDest.new brokenOff
      ((Action.new .heeding (some MemoryDest.new)).execute brokenOff).1 := by
  refine ⟨Progress.Stream.silent_script, rfl, ?_,
    listening_execute Progress.Stream.silent_script (Action.new .heeding (some MemoryDest.new)) rfl
      brokenOff⟩
  obtain ⟨⟨a, body⟩, h⟩ : ∃ x, Config.heeding.attempt? MemoryDest.new brokenOff = some x :=
    Option.isSome_iff_exists.1 (by decide +kernel)
  exact ⟨a, body, taken_of_attempted h⟩

end Refetch.Download
