import Refetch.Proofs.Download.Course
/-!
# The landmarks of a run

Among the events of a run stand those that the observer hears, those that the engine takes part in
(the request, and the taking of the body), and the offers to the sink. They tell how far the run
got.

1. Each stage of a run adds its own landmarks. Those of a copy are its traffic
   (`landmarks_copyBody`), and those of a transfer are these between a start and an end
   (`landmarks_transfer`).
2. A run has a request carried out exactly when it can prepare one (`Config.asked?`), and then that
   one alone (`executed_mem_run_iff`). It is announced (`connecting_mem_run_iff`).
3. Nothing but the transfer of a body comes after the response (`landmarks_settle`).
-/

namespace Refetch.Download

/-- The observer hears it, or the engine takes part in it, or the sink is offered bytes. -/
def Event.isLandmark : Event → Bool
  | .executed _ | .bodyTaken | .written .. => true
  | ev => ev.isHeard

/-- What the event tells of a copy. -/
def Event.traffic? : Event → Option Traffic
  | .progressed n => some (.total n)
  | .written n accepted => some (.offer n accepted)
  | _ => none

/-- The traffic of a copy among some events. -/
def exchanged (es : List Event) : List Traffic := es.filterMap Event.traffic?

@[simp] theorem exchanged_nil : exchanged [] = [] := rfl

@[simp] theorem exchanged_append (es fs : List Event) :
    exchanged (es ++ fs) = exchanged es ++ exchanged fs := List.filterMap_append

@[simp] theorem exchanged_cons (ev : Event) (es : List Event) :
    exchanged (ev :: es) = ev.traffic?.toList ++ exchanged es := by
  cases h : ev.traffic? <;> simp [exchanged, h]

@[simp] theorem exchanged_map_ofTraffic (ts : List Traffic) :
    exchanged (ts.map Event.ofTraffic) = ts := by
  induction ts with
  | nil => rfl
  | cons t ts ih => cases t <;> simpa [Event.ofTraffic, Event.traffic?] using ih

/-- The totals that are heard are those of the traffic. -/
theorem totals_exchanged (es : List Event) : Traffic.totals (exchanged es) = reported es := by
  induction es with
  | nil => rfl
  | cons ev es ih =>
    rw [exchanged_cons, reported_cons, Traffic.totals_append, ih]
    cases ev <;> rfl

/-- The landmarks among some events. -/
def landmarks (es : List Event) : List Event := es.filter Event.isLandmark

@[simp] theorem landmarks_nil : landmarks [] = [] := rfl

@[simp] theorem landmarks_append (es fs : List Event) :
    landmarks (es ++ fs) = landmarks es ++ landmarks fs := List.filter_append ..

@[simp] theorem landmarks_cons (ev : Event) (es : List Event) :
    landmarks (ev :: es) = if ev.isLandmark then ev :: landmarks es else landmarks es :=
  List.filter_cons ..

theorem mem_landmarks_iff {ev : Event} (h : ev.isLandmark = true) {es : List Event} :
    ev ∈ landmarks es ↔ ev ∈ es := by
  rw [landmarks, List.mem_filter, and_iff_left h]

/-- What is heard among some events. -/
def heard (es : List Event) : List Event := es.filter Event.isHeard

/-- What is heard is among the landmarks. -/
theorem heard_landmarks (es : List Event) : heard (landmarks es) = heard es := by
  rw [heard, heard, landmarks, List.filter_filter]
  refine List.filter_congr fun ev _ => ?_
  cases ev <;> rfl

/-- The traffic is among the landmarks. -/
theorem exchanged_landmarks (es : List Event) : exchanged (landmarks es) = exchanged es := by
  rw [exchanged, exchanged, landmarks, List.filterMap_filter]
  refine List.filterMap_congr fun ev _ => ?_
  cases ev <;> rfl

variable {ρ σ ε : Type} [Source ρ] [Dest σ] [Engine ε ρ]
variable {c : Config} {d : σ} {e : ε} {a : Answer ρ} {body : ReaderBody ρ} {url : Url}

/-! ## Stages -/

@[simp] theorem landmarks_map_ofTraffic (ts : List Traffic) :
    landmarks (ts.map Event.ofTraffic) = ts.map Event.ofTraffic := by
  refine List.filter_eq_self.2 fun ev h => ?_
  obtain ⟨t, -, rfl⟩ := List.mem_map.1 h
  cases t <;> rfl

theorem landmarks_fill (url : Url) (checksum : Option Digest.Checksum) (r : ρ) (d : σ) :
    let ts := (copyChecked url checksum (Progress.Stream.new r) d).traffic
    landmarks (fill url checksum r d).events = ts.map Event.ofTraffic := by
  unfold fill
  dsimp only
  split <;> simp [Event.isLandmark, Event.isHeard]

/-- The landmarks of a copy are its traffic. -/
theorem landmarks_copyBody (url : Url) (checksum : Option Digest.Checksum) (body : ReaderBody ρ)
    (d : σ) : landmarks (copyBody url checksum body d).events =
      (exchanged (copyBody url checksum body d).events).map Event.ofTraffic := by
  rw [← exchanged_landmarks]
  cases hb : body.source with
  | none =>
    rw [copyBody_of_unreadable hb]
    rfl
  | some r =>
    cases ho : (Dest.openSink d).1 with
    | error f =>
      rw [copyBody_of_unopened hb ho]
      rfl
    | ok u =>
      rw [copyBody_of_opened hb ho]
      simp [Event.isLandmark, Event.isHeard, landmarks_fill]

/-- The end is told right after the completion, and with its answer. -/
theorem events_completeCopy (url : Url) (copied : Except Error Nat) (d : σ) :
    ∃ rest, landmarks rest = [] ∧ (completeCopy url copied d).events =
      .completed copied.isOk ::
        .finished (copied.isOk && (Dest.complete d copied.isOk).1.isOk) :: rest := by
  unfold completeCopy
  dsimp only
  split
  · exact ⟨[], rfl, rfl⟩
  · exact ⟨[], rfl, rfl⟩
  · exact ⟨[], rfl, rfl⟩
  · exact ⟨[_], rfl, rfl⟩

/-- **A transfer** is heard of from its start to its end, which is told right after the
completion. -/
theorem events_transfer (c : Config) (url : Url) (body : ReaderBody ρ) (d : σ)
    (hx : displayCrash? c (Dest.describe d) body.length = none) :
    let copied := copyBody url c.checksum body d
    let completed := (Dest.complete copied.dest copied.outcome.isOk).1
    ∃ before rest, landmarks before = .started body.length ::
        (exchanged copied.events).map Event.ofTraffic ∧ landmarks rest = [] ∧
      (transfer c url body d).events = before ++
        [.completed copied.outcome.isOk, .finished (copied.outcome.isOk && completed.isOk)] ++
        rest := by
  intro copied completed
  obtain ⟨rest, hr, he⟩ := events_completeCopy url copied.outcome copied.dest
  refine ⟨.started body.length ::
    .logged .debug ("Transferring " ++ url.render ++ " into " ++ Dest.describe d) ::
    copied.events, rest, ?_, hr, ?_⟩
  · have hc : landmarks copied.events = (exchanged copied.events).map Event.ofTraffic :=
      landmarks_copyBody ..
    rw [landmarks_cons, landmarks_cons, hc]
    rfl
  · simp only [transfer, hx]
    rw [show (completeCopy url (copyBody url c.checksum body d).outcome
      (copyBody url c.checksum body d).dest).events = _ from he]
    simp [copied, completed]

/-- A transfer begins with its start, and ends there if the display crashes. -/
theorem landmarks_transfer (c : Config) (url : Url) (body : ReaderBody ρ) (d : σ) :
    let copied := copyBody url c.checksum body d
    let completed := (Dest.complete copied.dest copied.outcome.isOk).1
    landmarks (transfer c url body d).events = .started body.length ::
      match displayCrash? c (Dest.describe d) body.length with
      | some _ => []
      | none => (exchanged copied.events).map Event.ofTraffic ++
          [.finished (copied.outcome.isOk && completed.isOk)] := by
  intro copied completed
  cases hx : displayCrash? c (Dest.describe d) body.length with
  | some x =>
    simp only [transfer, hx]
    rfl
  | none =>
    obtain ⟨before, rest, hb, hr, he⟩ := events_transfer c url body d hx
    rw [he, landmarks_append, landmarks_append, hb, hr, List.append_nil]
    rfl

theorem landmarks_persist (time : Option Timestamp) (tag : Option String) (d : σ) :
    landmarks (persist time tag d).events = [] := by
  have ht : landmarks (keepTime d time).events = [] := by cases time <;> rfl
  have hs (d : σ) : landmarks (keepTag d tag).events = [] := by cases tag <;> rfl
  unfold persist
  dsimp only
  split
  · exact ht
  · rw [landmarks_append, ht, hs, List.nil_append]

/-- What follows a transfer is not heard of. -/
theorem events_download (c : Config) (url : Url) (response : Response ρ) (body : ReaderBody ρ)
    (d : σ) : ∃ rest, landmarks rest = [] ∧
      (download c url response body d).events = (transfer c url body d).events ++ rest := by
  unfold download
  dsimp only
  split
  · exact ⟨[.closed], rfl, rfl⟩
  · exact ⟨[.closed], rfl, rfl⟩
  · split
    · exact ⟨_, by rw [landmarks_cons, landmarks_persist]; rfl, rfl⟩
    · refine ⟨_, ?_, List.append_assoc ..⟩
      rw [landmarks_append, landmarks_cons, landmarks_persist]
      rfl

theorem landmarks_redirection (url final : Url) : landmarks (redirection url final) = [] := by
  unfold redirection
  split <;> rfl

/-- **After the response** nothing is heard but the transfer of a body that is taken. -/
theorem landmarks_settle (c : Config) (url : Url) (stored : Option Timestamp)
    (response : Response ρ) (d : σ) : landmarks (settle c url stored response d).events =
      match judge response.status stored (c.remoteTime response.headers) with
      | .outdated => .bodyTaken ::
          (response.entity.elim [] fun body => landmarks (transfer c url body d).events)
      | _ => [] := by
  have hr := landmarks_redirection url response.url
  unfold settle
  dsimp only
  cases judge response.status stored (c.remoteTime response.headers) with
  | rejected => rfl
  | current =>
    dsimp only
    rw [landmarks_append, hr]
    rfl
  | outdated =>
    dsimp only [Response.takeBody]
    cases response.entity with
    | none =>
      dsimp only
      rw [landmarks_append, landmarks_append, hr]
      rfl
    | some body =>
      obtain ⟨rest, hrest, he⟩ := events_download c url { response with entity := none } body d
      dsimp only
      rw [he]
      simp [hr, hrest, Event.isLandmark]

/-! ## Requests -/

/-- The request that a run into a destination has carried out, and for which address. -/
def Config.asked? (c : Config) (d : σ) : Option (Url × Prepared) :=
  match c.url with
  | none => none
  | some text =>
    match Url.parse text with
    | .error _ => none
    | .ok url =>
      match (prepare c url d).2 with
      | .ok p => some (url, p)
      | _ => none

theorem asked?_eq_some_iff {p : Prepared} : c.asked? d = some (url, p) ↔
    ∃ text, c.url = some text ∧ Url.parse text = .ok url ∧ (prepare c url d).2 = .ok p := by
  unfold Config.asked?
  cases c.url with
  | none => simp
  | some text =>
    simp only [Option.some.injEq, exists_eq_left']
    cases Url.parse text with
    | error f => simp
    | ok parsed =>
      simp only [Except.ok.injEq]
      constructor
      · intro h
        split at h <;> cases h
        exact ⟨rfl, ‹_›⟩
      · rintro ⟨rfl, hp⟩
        rw [hp]

theorem prepare_of_asked {p : Prepared} (h : c.asked? d = some (url, p)) :
    (prepare c url d).2 = .ok p := by
  obtain ⟨-, -, -, hp⟩ := asked?_eq_some_iff.1 h
  exact hp

theorem asked?_congr {d' : σ} (ht : Dest.etag d' = Dest.etag d)
    (hm : Dest.lastModified d' = Dest.lastModified d) : c.asked? d' = c.asked? d := by
  simp only [Config.asked?, prepare_congr ht hm]

theorem landmarks_prepare (c : Config) (url : Url) (d : σ) :
    landmarks (prepare c url d).1 = [] := by
  have hc : landmarks (conditionEvents c url d) = [] := by
    unfold conditionEvents
    cases c.useEtag <;> cases c.onlyIfModified <;> cases c.conditionTag d <;> rfl
  unfold prepare
  cases dateOf (c.conditionTime d) with
  | crash x => exact hc
  | error f => exact hc
  | ok date =>
    dsimp only
    rw [landmarks_append, hc]
    cases date <;> rfl

omit [Source ρ] in
/-- A response is what the engine answers the request with. -/
theorem answer?_eq_some_iff : c.answer? d e = some a ↔
    c.asked? d = some (a.url, a.prepared) ∧
      (Engine.exchange e a.prepared.request).1 = .ok a.response := by
  obtain ⟨url', p', response⟩ := a
  unfold Config.answer? Config.asked?
  cases c.url with
  | none => simp
  | some text =>
    dsimp only
    cases Url.parse text with
    | error f => simp
    | ok url =>
      dsimp only
      cases (prepare c url d).2 with
      | crash x => simp
      | error f => simp
      | ok p =>
        dsimp only
        constructor
        · intro h
          split at h
          · cases h
            exact ⟨rfl, ‹_›⟩
          · cases h
        · rintro ⟨h, hx⟩
          cases h
          rw [hx]

/-- A run that has nothing carried out is not heard of, and leaves the engine alone. -/
theorem run_of_unasked (h : c.asked? d = none) :
    landmarks (run c (some d) e).events = [] ∧ (run c (some d) e).engine = e ∧
      (run c (some d) e).foundCurrent = false := by
  unfold Config.asked? at h
  unfold run
  cases hu : c.url with
  | none => exact ⟨rfl, rfl, rfl⟩
  | some text =>
    simp only [hu] at h ⊢
    cases hp : Url.parse text with
    | error f => exact ⟨rfl, rfl, rfl⟩
    | ok url =>
      simp only [hp] at h ⊢
      have hl := landmarks_prepare c url d
      cases hr : (prepare c url d).2 with
      | crash x => exact ⟨hl, rfl, rfl⟩
      | error f => exact ⟨hl, rfl, rfl⟩
      | ok p => simp [hr] at h

theorem run_of_asked {p : Prepared} (h : c.asked? d = some (url, p)) :
    run c (some d) e = { send c url p d e with
      events := (prepare c url d).1 ++ (send c url p d e).events } := by
  unfold Config.asked? at h
  unfold run
  cases hu : c.url with
  | none => simp [hu] at h
  | some text =>
    simp only [hu] at h ⊢
    cases hp : Url.parse text with
    | error f => simp [hp] at h
    | ok url =>
      simp only [hp] at h ⊢
      cases hr : (prepare c url d).2 with
      | crash x => simp [hr] at h
      | error f => simp [hr] at h
      | ok p =>
        simp only [hr, Option.some.injEq, Prod.mk.injEq] at h ⊢
        obtain ⟨rfl, rfl⟩ := h
        rfl

/-- The landmarks that come after the request. -/
def landmarksAfter (c : Config) (url : Url) (p : Prepared) (d : σ) (e : ε) : List Event :=
  match (Engine.exchange e p.request).1 with
  | .ok response => landmarks (settle c url p.time response d).events
  | _ => []

/-- **A run with a request** announces it and has it carried out, and nothing else before the
response. -/
theorem landmarks_of_asked {p : Prepared} (h : c.asked? d = some (url, p)) :
    landmarks (run c (some d) e).events =
        .connecting :: .executed p.request :: landmarksAfter c url p d e ∧
      (run c (some d) e).engine = (Engine.exchange e p.request).2 := by
  rw [run_of_asked h]
  unfold send landmarksAfter
  dsimp only
  rw [landmarks_append, landmarks_prepare, List.nil_append]
  cases (Engine.exchange e p.request).1 with
  | crash x => exact ⟨rfl, rfl⟩
  | error f => exact ⟨rfl, rfl⟩
  | ok response => exact ⟨rfl, rfl⟩

theorem landmarks_of_answered (ha : c.answer? d e = some a) :
    landmarks (run c (some d) e).events = .connecting :: .executed a.prepared.request ::
      match judge a.response.status (c.conditionTime d) (c.remoteTime a.response.headers) with
      | .outdated => .bodyTaken ::
          (a.response.entity.elim [] fun body => landmarks (transfer c a.url body d).events)
      | _ => [] := by
  obtain ⟨hk, hx⟩ := answer?_eq_some_iff.1 ha
  rw [(landmarks_of_asked hk).1, landmarksAfter, hx, (prepared_of_answered ha).1]
  exact congrArg (.connecting :: .executed a.prepared.request :: ·)
    (landmarks_settle c a.url (c.conditionTime d) a.response d)

omit [Source ρ] in
/-- A body is taken from a response that outdates the copy, if there is one. -/
theorem body?_eq_some_iff (ha : c.answer? d e = some a) : c.body? a = some body ↔
    judge a.response.status (c.conditionTime d) (c.remoteTime a.response.headers) = .outdated ∧
      a.response.entity = some body := by
  rw [Config.body?, (prepared_of_answered ha).1]
  cases judge a.response.status (c.conditionTime d) (c.remoteTime a.response.headers) <;> simp

/-- The event belongs to the transfer of a body. -/
def Event.isOfBody : Event → Bool
  | .bodyTaken | .started _ | .progressed _ | .written .. | .finished _ => true
  | _ => false

theorem isOfBody_of_mem_transfer {ev : Event}
    (h : ev ∈ landmarks (transfer c url body d).events) : ev.isOfBody := by
  rw [landmarks_transfer] at h
  rcases List.mem_cons.1 h with rfl | h
  · rfl
  · split at h
    · cases h
    · rcases List.mem_append.1 h with h | h
      · obtain ⟨t, -, rfl⟩ := List.mem_map.1 h
        cases t <;> rfl
      · rw [List.mem_singleton.1 h]
        rfl

/-- The landmarks after the request are of the body. -/
theorem isOfBody_of_mem_landmarksAfter {p : Prepared} {ev : Event}
    (h : ev ∈ landmarksAfter c url p d e) : ev.isOfBody := by
  unfold landmarksAfter at h
  split at h
  · rw [landmarks_settle] at h
    split at h
    · rcases List.mem_cons.1 h with rfl | h
      · rfl
      · cases hb : Response.entity _ with
        | none =>
          rw [hb] at h
          cases h
        | some body =>
          rw [hb] at h
          exact isOfBody_of_mem_transfer h
    · cases h
  · cases h

/-- **The request**: a run has the one carried out that it could prepare, and no other. -/
theorem executed_mem_run_iff {q : Request} : .executed q ∈ (run c (some d) e).events ↔
    ∃ url p, c.asked? d = some (url, p) ∧ p.request = q := by
  rw [← mem_landmarks_iff rfl]
  cases h : c.asked? d with
  | none =>
    rw [(run_of_unasked h).1]
    simp
  | some x =>
    obtain ⟨url, p⟩ := x
    have hn : .executed q ∉ landmarksAfter c url p d e := fun hm => by
      cases isOfBody_of_mem_landmarksAfter hm
    rw [(landmarks_of_asked h).1]
    simp [hn, eq_comm]

theorem connecting_mem_run_iff : .connecting ∈ (run c (some d) e).events ↔
    ∃ q, .executed q ∈ (run c (some d) e).events := by
  simp only [executed_mem_run_iff]
  rw [← mem_landmarks_iff rfl]
  cases h : c.asked? d with
  | none =>
    rw [(run_of_unasked h).1]
    simp
  | some x =>
    obtain ⟨url, p⟩ := x
    rw [(landmarks_of_asked h).1]
    simp

end Refetch.Download
