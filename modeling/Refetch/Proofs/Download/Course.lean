import Refetch.Download.Action
import Refetch.Proofs.Download.Transferring
/-!
# The course of a run

A run either gets no response, or gets one that it does not transfer, or attempts a transfer. The
attempt either fails, and then the destination is as its completion leaves it, or succeeds, and then
the validators are kept.

1. `answer?` is the response that a run gets, and `attempt?` the transfer that it attempts.
2. One lemma for each course says how the run ends, which calls it made and where it leaves the
   destination (`run_of_unanswered`, `run_of_spared`, `run_of_failed`, `run_of_stored`).
-/

namespace Refetch.Download

/-- The response that a run gets, with what it was asked with. -/
structure Answer (ρ : Type) where
  url : Url
  prepared : Prepared
  response : Response ρ
  deriving DecidableEq

variable {ρ σ ε : Type} [Source ρ] [Dest σ] [Engine ε ρ]

namespace Config

/-- The response that a run into a destination gets, if any. -/
def answer? (c : Config) (d : σ) (e : ε) : Option (Answer ρ) :=
  match c.url with
  | none => none
  | some text =>
    match Url.parse text with
    | .error _ => none
    | .ok url =>
      match (prepare c url d).2 with
      | .ok p =>
        match (Engine.exchange e p.request).1 with
        | .ok response => some ⟨url, p, response⟩
        | _ => none
      | _ => none

/-- The body that is taken from a response, if any. -/
def body? (c : Config) (a : Answer ρ) : Option (ReaderBody ρ) :=
  match judge a.response.status a.prepared.time (c.remoteTime a.response.headers) with
  | .outdated => a.response.entity
  | _ => none

/-- The transfer that a run attempts: it took a body, and the display of it did not crash. -/
def attempt? (c : Config) (d : σ) (e : ε) : Option (Answer ρ × ReaderBody ρ) := do
  let a ← c.answer? d e
  let body ← c.body? a
  if displayCrash? c (Dest.describe d) body.length = none then some (a, body) else none

/-- The entity tag in the answer's headers, if tags count. -/
def remoteTag (c : Config) (headers : HeaderList) : Option String :=
  if c.useEtag then headers.get? "etag" else none

end Config

/-- A call that keeps a validator. -/
def Event.keepsValidator : Event → Bool
  | .lastModifiedSet _ | .etagSet _ => true
  | _ => false

variable {c : Config} {d : σ} {e : ε} {a : Answer ρ} {body : ReaderBody ρ}

/-- The events have no call among them and report no total. -/
def Quiet (es : List Event) : Prop := calls es = [] ∧ reported es = []

theorem Quiet.append {es fs : List Event} (he : Quiet es) (hf : Quiet fs) : Quiet (es ++ fs) :=
  ⟨by rw [calls_append, he.1, hf.1]; rfl, by rw [reported_append, he.2, hf.2]; rfl⟩

/-! ## Before the response -/

theorem quiet_prepare (c : Config) (url : Url) (d : σ) : Quiet (prepare c url d).1 := by
  have hc : Quiet (conditionEvents c url d) := by
    unfold conditionEvents
    cases c.useEtag <;> cases c.onlyIfModified <;> cases c.conditionTag d <;> exact ⟨rfl, rfl⟩
  unfold prepare
  cases dateOf (c.conditionTime d) with
  | crash x => exact hc
  | error f => exact hc
  | ok date => cases date <;> exact hc.append ⟨rfl, rfl⟩

omit [Source ρ] [Engine ε ρ] in
theorem conditionTime_eq_some_iff {t : Timestamp} :
    c.conditionTime d = some t ↔ c.onlyIfModified = true ∧ Dest.lastModified d = some t := by
  rw [Config.conditionTime, Option.ite_none_right_eq_some]

/-- What a request is prepared from: the stored validators, the time as a date, and headers that
have a place on the wire. -/
theorem prepare_eq_ok_iff {url : Url} {p : Prepared} : (prepare c url d).2 = .ok p ↔
    ∃ date wire, dateOf (c.conditionTime d) = .ok date ∧
      (c.requestHeaders (c.conditionTag d) date).toWire = .ok wire ∧
      p = ⟨c.request url (c.conditionTag d) date, c.conditionTime d⟩ := by
  unfold prepare
  cases dateOf (c.conditionTime d) with
  | crash x => simp
  | error f => simp
  | ok date =>
    have hh : (c.request url (c.conditionTag d) date).headers =
        c.requestHeaders (c.conditionTag d) date := rfl
    simp only [hh, Outcome.ok.injEq]
    cases hw : (c.requestHeaders (c.conditionTag d) date).toWire with
    | crash x => simp [hw]
    | error f => simp [hw]
    | ok wire => simp [hw, eq_comm]

/-- A prepared request asks with the stored validators. -/
theorem prepare_eq_ok {url : Url} {p : Prepared} (h : (prepare c url d).2 = .ok p) :
    p.time = c.conditionTime d ∧
      ∃ date, p.request = c.request url (c.conditionTag d) date := by
  obtain ⟨date, -, -, -, rfl⟩ := prepare_eq_ok_iff.1 h
  exact ⟨rfl, date, rfl⟩

/-- A run without a response leaves the destination alone and does not end well. -/
theorem run_of_unanswered (h : c.answer? d e = none) :
    (run c (some d) e).dest = some d ∧ Quiet (run c (some d) e).events ∧
      ∀ s, (run c (some d) e).outcome ≠ .ok s := by
  unfold Config.answer? at h
  unfold run
  cases hu : c.url with
  | none => exact ⟨rfl, ⟨rfl, rfl⟩, by simp⟩
  | some text =>
    simp only [hu] at h ⊢
    cases hp : Url.parse text with
    | error f => exact ⟨rfl, ⟨rfl, rfl⟩, by simp⟩
    | ok url =>
      simp only [hp] at h ⊢
      have hq := quiet_prepare c url d
      cases hr : (prepare c url d).2 with
      | crash x => exact ⟨rfl, hq, by simp⟩
      | error f => exact ⟨rfl, hq, by simp⟩
      | ok p =>
        simp only [hr] at h ⊢
        cases hx : (Engine.exchange e p.request).1 with
        | ok response => simp [hx] at h
        | crash x =>
          simp only [send, hx]
          exact ⟨trivial, hq.append ⟨rfl, rfl⟩, by simp⟩
        | error f =>
          simp only [send, hx]
          exact ⟨trivial, hq.append ⟨rfl, rfl⟩, by simp⟩

/-- A run with a response deals with it. -/
theorem run_of_answered (h : c.answer? d e = some a) :
    let s := settle c a.url (c.conditionTime d) a.response d
    (run c (some d) e).dest = some s.dest ∧ (run c (some d) e).outcome = s.outcome ∧
      ∃ before, Quiet before ∧ (run c (some d) e).events = before ++ s.events := by
  unfold Config.answer? at h
  unfold run
  cases hu : c.url with
  | none => simp [hu] at h
  | some text =>
    simp only [hu] at h ⊢
    cases hp : Url.parse text with
    | error f => simp [hp] at h
    | ok url =>
      simp only [hp] at h ⊢
      have hq := quiet_prepare c url d
      cases hr : (prepare c url d).2 with
      | crash x => simp [hr] at h
      | error f => simp [hr] at h
      | ok p =>
        simp only [hr] at h ⊢
        cases hx : (Engine.exchange e p.request).1 with
        | crash x => simp [hx] at h
        | error f => simp [hx] at h
        | ok response =>
          simp only [send, hx, Option.some.injEq] at h ⊢
          rw [← h, ← (prepare_eq_ok hr).1]
          have hsent : Quiet [.connecting, .logged .debug ("Fetching " ++ url.render),
              .executed p.request] := ⟨rfl, rfl⟩
          refine ⟨rfl, rfl, _, hq.append hsent, ?_⟩
          rw [List.append_assoc]

omit [Source ρ] in
/-- The request that was answered asks with the stored validators. -/
theorem prepared_of_answered (h : c.answer? d e = some a) :
    a.prepared.time = c.conditionTime d ∧
      ∃ date, a.prepared.request = c.request a.url (c.conditionTag d) date := by
  unfold Config.answer? at h
  repeat' split at h
  all_goals cases h
  exact prepare_eq_ok ‹_›

/-! ## After the response -/

theorem quiet_redirection (url final : Url) : Quiet (redirection url final) := by
  unfold redirection
  split <;> exact ⟨rfl, rfl⟩

/-- A response whose body is not taken is closed, and the destination left alone. -/
theorem run_of_spared (h : c.answer? d e = some a) (hb : c.body? a = none) :
    (run c (some d) e).dest = some d ∧ calls (run c (some d) e).events = [.closed] ∧
      (∀ s, (run c (some d) e).outcome = .ok s → s.status ≠ .downloaded) ∧
      ∀ f, (run c (some d) e).outcome ≠ .error (.io f) := by
  obtain ⟨hd, ho, before, hq, he⟩ := run_of_answered h
  have hr := (quiet_redirection a.url a.response.url).1
  rw [hd, ho, he, calls_append, hq.1, List.nil_append]
  rw [Config.body?, (prepared_of_answered h).1] at hb
  unfold settle
  cases hj : judge a.response.status (c.conditionTime d) (c.remoteTime a.response.headers) with
  | rejected => exact ⟨rfl, rfl, by simp, by simp⟩
  | current =>
    refine ⟨rfl, ?_, ?_, by simp⟩
    · simp [hr, report, Event.isCall, Event.changesDest]
    · rintro s hs
      cases hs
      simp [Summary.withStatus]
  | outdated =>
    simp only [hj] at hb
    simp only [Response.takeBody, hb]
    refine ⟨trivial, ?_, ?_, by simp⟩
    · simp [hr, report, Event.isCall, Event.changesDest]
    · rintro s hs
      cases hs
      simp [Summary.withStatus]

/-- A response whose body is taken is downloaded. -/
theorem run_of_taken (h : c.answer? d e = some a) (hb : c.body? a = some body) :
    let s := download c a.url { a.response with entity := none } body d
    (run c (some d) e).dest = some s.dest ∧ (run c (some d) e).outcome = s.outcome ∧
      ∃ before, Quiet before ∧ (run c (some d) e).events = before ++ s.events := by
  obtain ⟨hd, ho, before, hq, he⟩ := run_of_answered h
  have hr := quiet_redirection a.url a.response.url
  rw [hd, ho, he]
  rw [Config.body?, (prepared_of_answered h).1] at hb
  unfold settle
  cases hj : judge a.response.status (c.conditionTime d) (c.remoteTime a.response.headers) with
  | rejected => simp [hj] at hb
  | current => simp [hj] at hb
  | outdated =>
    simp only [hj] at hb
    simp only [Response.takeBody, hb]
    refine ⟨trivial, trivial, before ++ (redirection a.url a.response.url ++ [.bodyTaken]),
      hq.append (hr.append ⟨rfl, rfl⟩), ?_⟩
    simp only [List.append_assoc]

/-- A crash of the display comes before anything is done to the destination. -/
theorem run_of_crashed (h : c.answer? d e = some a) (hb : c.body? a = some body) {x : Crash}
    (hx : displayCrash? c (Dest.describe d) body.length = some x) :
    (run c (some d) e).dest = some d ∧ calls (run c (some d) e).events = [.closed] ∧
      (run c (some d) e).outcome = .crash x := by
  obtain ⟨hd, ho, before, hq, he⟩ := run_of_taken h hb
  rw [hd, ho, he, calls_append, hq.1, List.nil_append]
  simp [download, transfer, hx, Event.isCall, Event.changesDest]

omit [Source ρ] in
theorem attempt?_eq_some_iff : c.attempt? d e = some (a, body) ↔
    c.answer? d e = some a ∧ c.body? a = some body ∧
      displayCrash? c (Dest.describe d) body.length = none := by
  simp only [Config.attempt?, Option.bind_eq_bind, Option.bind_eq_some_iff,
    Option.ite_none_right_eq_some, Option.some.injEq, Prod.mk.injEq]
  constructor
  · rintro ⟨a', ha, body', hb, hx, rfl, rfl⟩
    exact ⟨ha, hb, hx⟩
  · rintro ⟨ha, hb, hx⟩
    exact ⟨a, ha, body, hb, hx, rfl, rfl⟩

/-- A request depends on the validators that the destination shows. -/
theorem prepare_congr {d' : σ} (ht : Dest.etag d' = Dest.etag d)
    (hm : Dest.lastModified d' = Dest.lastModified d) (url : Url) :
    (prepare c url d').2 = (prepare c url d).2 := by
  unfold prepare Config.conditionTime Config.conditionTag
  rw [ht, hm]
  cases dateOf (if c.onlyIfModified then Dest.lastModified d else none) <;> rfl

omit [Source ρ] in
theorem answer?_congr {d' : σ} (ht : Dest.etag d' = Dest.etag d)
    (hm : Dest.lastModified d' = Dest.lastModified d) : c.answer? d' e = c.answer? d e := by
  simp only [Config.answer?, prepare_congr ht hm]

omit [Source ρ] in
/-- What is attempted depends on what the destination shows. -/
theorem attempt?_congr {d' : σ} (ht : Dest.etag d' = Dest.etag d)
    (hm : Dest.lastModified d' = Dest.lastModified d) (hd : Dest.describe d' = Dest.describe d) :
    c.attempt? d' e = c.attempt? d e := by
  rw [Config.attempt?, Config.attempt?, answer?_congr ht hm, hd]

/-- Without an attempt to transfer, the destination is left alone. -/
theorem run_of_unattempted (h : c.attempt? d e = none) :
    (run c (some d) e).dest = some d ∧
      calls (run c (some d) e).events = (if (c.answer? d e).isSome then [.closed] else []) ∧
      ∀ s, (run c (some d) e).outcome = .ok s → s.status ≠ .downloaded := by
  cases ha : c.answer? d e with
  | none =>
    obtain ⟨hd, hq, ho⟩ := run_of_unanswered ha
    exact ⟨hd, hq.1, fun s hs => absurd hs (ho s)⟩
  | some a =>
    cases hb : c.body? a with
    | none =>
      obtain ⟨hd, hc, ho, -⟩ := run_of_spared ha hb
      exact ⟨hd, hc, ho⟩
    | some body =>
      cases hx : displayCrash? c (Dest.describe d) body.length with
      | none => rw [attempt?_eq_some_iff.2 ⟨ha, hb, hx⟩] at h; cases h
      | some x =>
        obtain ⟨hd, hc, ho⟩ := run_of_crashed ha hb hx
        exact ⟨hd, hc, by simp [ho]⟩

/-! ## Attempts -/

/-- The copy that an attempt makes. -/
def attemptedCopy (c : Config) (a : Answer ρ) (body : ReaderBody ρ) (d : σ) :
    Step (Except Error Nat) σ := copyBody a.url c.checksum body d

/-- The answer to the completion after the copy, and the destination after it. -/
def attemptedCompletion (c : Config) (a : Answer ρ) (body : ReaderBody ρ) (d : σ) :
    Except IoError Unit × σ :=
  Dest.complete (attemptedCopy c a body d).dest (attemptedCopy c a body d).outcome.isOk

/-- An attempt is stored, or it is not. -/
theorem stored_or_failed (c : Config) (a : Answer ρ) (body : ReaderBody ρ) (d : σ) :
    (∃ n, (attemptedCopy c a body d).outcome = .ok n ∧
        (attemptedCompletion c a body d).1 = .ok ()) ∨
      ¬ ((attemptedCopy c a body d).outcome.isOk ∧
        (attemptedCompletion c a body d).1 = .ok ()) := by
  cases hc : (attemptedCopy c a body d).outcome with
  | error f => exact .inr fun h => by simp [Except.isOk, Except.toBool] at h
  | ok n =>
    by_cases hs : (attemptedCompletion c a body d).1 = .ok ()
    · exact .inl ⟨n, rfl, hs⟩
    · exact .inr fun h => hs h.2

/-- An attempt that was not completed ends with the failure of the copy or of the completion. -/
theorem run_of_incomplete (h : c.attempt? d e = some (a, body)) {f : Error}
    (hf : (completeCopy a.url (attemptedCopy c a body d).outcome
      (attemptedCopy c a body d).dest).outcome = .error f) :
    (run c (some d) e).dest = some (attemptedCompletion c a body d).2 ∧
      calls (run c (some d) e).events = calls (attemptedCopy c a body d).events ++
        [.completed (attemptedCopy c a body d).outcome.isOk, .closed] ∧
      (run c (some d) e).outcome = .error f := by
  obtain ⟨ha, hb, hx⟩ := attempt?_eq_some_iff.1 h
  obtain ⟨hd, ho, before, hq, he⟩ := run_of_taken ha hb
  obtain ⟨htc, -, hto, htd⟩ := transfer_of_shown a.url hx
  simp only [attemptedCopy] at hf
  rw [hf] at hto
  simp only [download, hto, Outcome.ofExcept] at hd ho he
  refine ⟨by rw [hd, htd]; rfl, ?_, ho⟩
  rw [he, calls_append, hq.1, calls_append, htc]
  simp [attemptedCopy, Event.isCall, Event.changesDest]

/-- An attempt that was not stored ends with a failure, and with the completion. -/
theorem run_of_failed (h : c.attempt? d e = some (a, body))
    (hf : ¬ ((attemptedCopy c a body d).outcome.isOk ∧
      (attemptedCompletion c a body d).1 = .ok ())) :
    (run c (some d) e).dest = some (attemptedCompletion c a body d).2 ∧
      calls (run c (some d) e).events = calls (attemptedCopy c a body d).events ++
        [.completed (attemptedCopy c a body d).outcome.isOk, .closed] ∧
      ∃ f, (run c (some d) e).outcome = .error f ∧ isOfTransfer f := by
  cases hcc : (completeCopy a.url (attemptedCopy c a body d).outcome
      (attemptedCopy c a body d).dest).outcome with
  | ok n =>
    obtain ⟨hok, hcomp⟩ := outcome_completeCopy_eq_ok_iff.1 hcc
    refine absurd ⟨by rw [hok]; rfl, ?_⟩ hf
    rw [attemptedCompletion, hok]
    exact hcomp
  | error f =>
    obtain ⟨hd, hc, ho⟩ := run_of_incomplete h hcc
    exact ⟨hd, hc, f, ho, isOfTransfer_of_completeCopy (fun f => isOfTransfer_of_copyBody) hcc⟩

theorem persist_events (time : Option Timestamp) (tag : Option String) (d : σ) :
    calls (persist time tag d).events = (persist time tag d).events ∧
      reported (persist time tag d).events = [] := by
  have ht : calls (keepTime d time).events = (keepTime d time).events ∧
      reported (keepTime d time).events = [] := by
    cases time <;> exact ⟨rfl, rfl⟩
  have hs (d : σ) : calls (keepTag d tag).events = (keepTag d tag).events ∧
      reported (keepTag d tag).events = [] := by
    cases tag <;> exact ⟨rfl, rfl⟩
  unfold persist
  dsimp only
  split
  · exact ht
  · rw [calls_append, reported_append, ht.1, ht.2, (hs _).1, (hs _).2]
    exact ⟨rfl, rfl⟩

/-- A transfer that went well is followed by the closing and by the keeping of validators. -/
theorem download_of_transferred {url : Url} (response : Response ρ) {n : Nat}
    (h : (transfer c url body d).outcome = .ok n) :
    let t := transfer c url body d
    let p := persist (c.remoteTime response.headers) (c.remoteTag response.headers) t.dest
    (download c url response body d).dest = p.dest ∧
      (∃ rest, Quiet rest ∧
        (download c url response body d).events = t.events ++ .closed :: p.events ++ rest) ∧
      (download c url response body d).outcome = match p.outcome with
        | .error f => .error (.io f)
        | .ok () => .ok (((Summary.new response.url response.status).withStatus
            .downloaded).withSize n) := by
  simp only [download, h, Config.remoteTag]
  cases (persist (c.remoteTime response.headers)
      (if c.useEtag = true then response.headers.get? "etag" else none)
      (transfer c url body d).dest).outcome with
  | error f => exact ⟨rfl, ⟨[], ⟨rfl, rfl⟩, (List.append_nil _).symm⟩, rfl⟩
  | ok u => exact ⟨rfl, ⟨_, ⟨rfl, rfl⟩, rfl⟩, rfl⟩

/-- An attempt that was stored keeps the validators, and its outcome is that of keeping them. -/
theorem run_of_stored (h : c.attempt? d e = some (a, body)) {n : Nat}
    (hn : (attemptedCopy c a body d).outcome = .ok n)
    (hs : (attemptedCompletion c a body d).1 = .ok ()) :
    let p := persist (c.remoteTime a.response.headers) (c.remoteTag a.response.headers)
      (attemptedCompletion c a body d).2
    (run c (some d) e).dest = some p.dest ∧
      calls (run c (some d) e).events = calls (attemptedCopy c a body d).events ++
        [.completed true, .closed] ++ p.events ∧
      reported (run c (some d) e).events = reported (attemptedCopy c a body d).events ∧
      (run c (some d) e).outcome = match p.outcome with
        | .error f => .error (.io f)
        | .ok () => .ok (((Summary.new a.response.url a.response.status).withStatus
            .downloaded).withSize n) := by
  obtain ⟨ha, hb, hx⟩ := attempt?_eq_some_iff.1 h
  obtain ⟨hd, ho, before, hq, he⟩ := run_of_taken ha hb
  obtain ⟨htc, htr, hto, htd⟩ := transfer_of_shown a.url hx
  have hok : (attemptedCopy c a body d).outcome.isOk = true := by rw [hn]; rfl
  have hcc : (completeCopy a.url (attemptedCopy c a body d).outcome
      (attemptedCopy c a body d).dest).outcome = .ok n :=
    outcome_completeCopy_eq_ok_iff.2 ⟨hn, by rw [← hs, attemptedCompletion, hok]⟩
  have hp := persist_events (c.remoteTime a.response.headers) (c.remoteTag a.response.headers)
    (attemptedCompletion c a body d).2
  simp only [attemptedCopy] at hcc hok
  rw [hcc] at hto
  rw [hok] at htc
  obtain ⟨hdd, ⟨rest, hr, hde⟩, hdo⟩ :=
    download_of_transferred { a.response with entity := none } hto
  have htd' : (transfer c a.url body d).dest = (attemptedCompletion c a body d).2 := htd
  rw [htd'] at hdd hde hdo
  refine ⟨by rw [hd, hdd], ?_, ?_, ho.trans hdo⟩
  · rw [he, hde]
    simp [hq.1, hr.1, htc, hp.1, attemptedCopy, Event.isCall]
  · rw [he, hde]
    simp [hq.2, hr.2, htr, hp.2, attemptedCopy, Event.total?]

/-- A download was stored, and its validators are kept. -/
theorem stored_of_downloaded {s : Summary} (hs : (run c (some d) e).outcome = .ok s)
    (hd : s.status = .downloaded) :
    ∃ a body n, c.attempt? d e = some (a, body) ∧ (attemptedCopy c a body d).outcome = .ok n ∧
      (attemptedCompletion c a body d).1 = .ok () ∧
      (persist (c.remoteTime a.response.headers) (c.remoteTag a.response.headers)
        (attemptedCompletion c a body d).2).outcome = .ok () ∧ s.size = n := by
  cases ht : c.attempt? d e with
  | none => exact absurd hd ((run_of_unattempted ht).2.2 s hs)
  | some x =>
    obtain ⟨a, body⟩ := x
    rcases stored_or_failed c a body d with ⟨n, hn, hst⟩ | hst
    · obtain ⟨-, -, -, ho⟩ := run_of_stored ht hn hst
      rw [ho] at hs
      refine ⟨a, body, n, rfl, hn, hst, ?_⟩
      split at hs <;> cases hs
      exact ⟨‹_›, rfl⟩
    · obtain ⟨-, -, f, ho, -⟩ := run_of_failed ht hst
      rw [ho] at hs
      cases hs

end Refetch.Download
