import Refetch.Proofs.Download.Landmarks
import Refetch.Proofs.Download.Lifecycle
import Refetch.Proofs.Download.PostState
import Refetch.Proofs.Header.Lookup
/-!
# How a run decides

1. `judge` gives each of its verdicts in exactly one case: by the status, or else by the two times
   (`judge_eq_rejected_iff`, `judge_eq_current_iff`).
2. A run with a response follows the verdict, and for an outdated copy the presence of a body
   (`decision_of_answered`). What it decides is seen from how it ends.
3. Hence two runs for which status, times and presence of a body are the same decide alike,
   whatever tags they have to do with (`decision_congr`).
-/

namespace Refetch.Download

/-! ## Verdicts -/

/-- A status that a run goes on with. -/
def Accepted (code : Nat) : Prop := (200 ≤ code ∧ code ≤ 299) ∨ code = 304

variable {code : Nat} {stored remote : Option Timestamp}

theorem judge_of_rejected (h : ¬ Accepted code) : judge code stored remote = .rejected := by
  unfold Accepted at h
  have hs : Status.isSuccess code = false := by
    unfold Status.isSuccess
    simp only [Bool.and_eq_false_iff, decide_eq_false_iff_not]
    omega
  have hn : code ≠ Status.notModified := fun hc => h (.inr hc)
  simp [judge, hs, hn]

/-- An accepted status is not rejected, whatever the times are. -/
theorem rejects_eq_false (h : Accepted code) :
    (!Status.isSuccess code && code != Status.notModified) = false := by
  rcases h with ⟨hl, hu⟩ | rfl
  · have hs : Status.isSuccess code = true := by
      unfold Status.isSuccess
      simp only [Bool.and_eq_true, decide_eq_true_eq]
      omega
    rw [hs]
    rfl
  · rfl

theorem judge_of_current (h : Accepted code) (hc : code = 304 ∨ isAsNew stored remote = true) :
    judge code stored remote = .current := by
  unfold judge
  rw [rejects_eq_false h, if_neg Bool.false_ne_true, if_pos]
  simpa [Status.notModified] using hc

theorem judge_of_outdated (h : Accepted code)
    (hc : ¬ (code = 304 ∨ isAsNew stored remote = true)) :
    judge code stored remote = .outdated := by
  unfold judge
  rw [rejects_eq_false h, if_neg Bool.false_ne_true, if_neg]
  simpa [Status.notModified] using hc

theorem judge_eq_rejected_iff : judge code stored remote = .rejected ↔ ¬ Accepted code := by
  constructor
  · intro h ha
    by_cases hc : code = 304 ∨ isAsNew stored remote = true
    · rw [judge_of_current ha hc] at h
      cases h
    · rw [judge_of_outdated ha hc] at h
      cases h
  · exact judge_of_rejected

theorem judge_eq_current_iff (h : Accepted code) :
    judge code stored remote = .current ↔ code = 304 ∨ isAsNew stored remote = true := by
  constructor
  · intro hj
    by_contra hc
    rw [judge_of_outdated h hc] at hj
    cases hj
  · exact judge_of_current h

/-- The destination has a time, the first `Last-Modified` of the response is a date, and the date
is not after the time. -/
def Config.IsAsNew {σ : Type} [Dest σ] (c : Config) (d : σ) (h : HeaderList) : Prop :=
  c.onlyIfModified = true ∧ ∃ stored value remote, Dest.lastModified d = some stored ∧
    h.First "last-modified" value ∧ HttpDate.parse? value = some remote ∧
    remote.nanos ≤ stored.nanos

theorem isAsNew_eq_true_iff {σ : Type} [Dest σ] (c : Config) (d : σ) (h : HeaderList) :
    isAsNew (c.conditionTime d) (c.remoteTime h) = true ↔ c.IsAsNew d h := by
  unfold Config.conditionTime Config.remoteTime Config.IsAsNew
  by_cases hc : c.onlyIfModified = true
  · rw [if_pos hc, if_pos hc, and_iff_right hc]
    constructor
    · intro hn
      unfold isAsNew at hn
      split at hn
      · rename_i s r hs hr
        obtain ⟨value, hg, hp⟩ := Option.bind_eq_some_iff.1 hr
        exact ⟨s, value, r, hs, HeaderList.get?_eq_some_iff.1 hg, hp, of_decide_eq_true hn⟩
      · cases hn
    · rintro ⟨s, value, r, hs, hf, hp, hle⟩
      rw [hs, HeaderList.get?_eq_some_iff.2 hf, Option.bind_some, hp]
      exact decide_eq_true hle
  · rw [if_neg hc, if_neg hc]
    constructor
    · intro h
      cases h
    · intro h
      exact absurd h.1 hc

/-! ## Decisions -/

/-- What a run makes of its response. -/
inductive Decision
  | rejected
  | upToDate
  | noContent
  | transferred
  deriving DecidableEq

variable {ρ σ ε : Type} [Source ρ] [Dest σ] [Engine ε ρ]

/-- The decision that the end of a run with a response shows. -/
def Run.decision (r : Run σ ε) : Decision :=
  match r.outcome with
  | .error (.status ..) => .rejected
  | .ok s =>
    match s.status with
    | .upToDate => .upToDate
    | .noContent => .noContent
    | .downloaded => .transferred
  | _ => .transferred

variable {c c' : Config} {d d' : σ} {e e' : ε} {a a' : Answer ρ} {body : ReaderBody ρ}

omit [Dest σ] in
theorem decision_of_followsTransfer {r : Run σ ε} (h : r.followsTransfer = true) :
    r.decision = .transferred := by
  unfold Run.followsTransfer at h
  unfold Run.decision
  split at h
  · rename_i s hs
    rw [hs]
    dsimp only
    rw [eq_of_beq h]
  · rename_i hs
    rw [hs]
  · rename_i hs
    rw [hs]
  · rename_i hs
    rw [hs]
  · cases h

omit [Dest σ] in
theorem decision_eq_upToDate_iff {r : Run σ ε} :
    r.decision = .upToDate ↔ ∃ s, r.outcome = .ok s ∧ s.status = .upToDate := by
  unfold Run.decision
  constructor
  · intro h
    split at h
    · cases h
    · rename_i s hs
      split at h <;> first | exact ⟨s, hs, ‹_›⟩ | cases h
    · cases h
  · rintro ⟨s, hs, hu⟩
    rw [hs]
    dsimp only
    rw [hu]

/-- A body that is taken is transferred, or else the display crashes. -/
theorem transfer_of_taken (ha : c.answer? d e = some a) (hb : c.body? a = some body) :
    .started body.length ∈ (run c (some d) e).events ∧
      ((run c (some d) e).followsTransfer = true ∨
        ∃ x, (run c (some d) e).outcome = .crash x) := by
  refine ⟨?_, ?_⟩
  · obtain ⟨-, -, before, -, he⟩ := run_of_taken ha hb
    obtain ⟨rest, -, hd⟩ := events_download c a.url { a.response with entity := none } body d
    have hs : .started body.length ∈ landmarks (transfer c a.url body d).events := by
      rw [landmarks_transfer]
      exact List.mem_cons_self
    rw [he, hd]
    exact List.mem_append_right _ (List.mem_append_left _ ((mem_landmarks_iff rfl).1 hs))
  · cases hx : displayCrash? c (Dest.describe d) body.length with
    | none => exact .inl (calls_of_attempted (attempt?_eq_some_iff.2 ⟨ha, hb, hx⟩)).1
    | some x => exact .inr ⟨x, (run_of_crashed ha hb hx).2.2⟩

theorem decision_of_taken (ha : c.answer? d e = some a) (hb : c.body? a = some body) :
    (run c (some d) e).decision = .transferred := by
  rcases (transfer_of_taken ha hb).2 with h | ⟨x, hx⟩
  · exact decision_of_followsTransfer h
  · rw [Run.decision, hx]

/-- **The decision** follows the verdict, and the presence of a body if the copy is outdated. -/
theorem decision_of_answered (ha : c.answer? d e = some a) : (run c (some d) e).decision =
    match judge a.response.status (c.conditionTime d) (c.remoteTime a.response.headers) with
    | .rejected => .rejected
    | .current => .upToDate
    | .outdated => if a.response.entity.isSome then .transferred else .noContent := by
  have ho := (run_of_answered ha).2.1
  cases hj : judge a.response.status (c.conditionTime d) (c.remoteTime a.response.headers) with
  | rejected =>
    rw [Run.decision, ho, settle, hj]
  | current =>
    rw [Run.decision, ho, settle, hj]
    rfl
  | outdated =>
    dsimp only
    cases hn : a.response.entity with
    | none =>
      rw [Run.decision, ho, settle, hj]
      simp only [Response.takeBody, hn]
      rfl
    | some body => exact decision_of_taken ha ((body?_eq_some_iff ha).2 ⟨hj, hn⟩)

/-- What counts in a decision is the same for two runs. -/
structure SameFreshness (c c' : Config) (d d' : σ) (a a' : Answer ρ) : Prop where
  times : c'.onlyIfModified = c.onlyIfModified
  stored : Dest.lastModified d' = Dest.lastModified d
  status : a'.response.status = a.response.status
  /-- A `Last-Modified` that is no date counts as none. -/
  remote : (a'.response.headers.get? "last-modified").bind HttpDate.parse? =
    (a.response.headers.get? "last-modified").bind HttpDate.parse?
  body : a'.response.entity.isSome = a.response.entity.isSome

theorem decision_congr (ha : c.answer? d e = some a) (ha' : c'.answer? d' e' = some a')
    (h : SameFreshness c c' d d' a a') :
    (run c' (some d') e').decision = (run c (some d) e).decision := by
  have ht : c'.conditionTime d' = c.conditionTime d := by
    rw [Config.conditionTime, Config.conditionTime, h.times, h.stored]
  have hr : c'.remoteTime a'.response.headers = c.remoteTime a.response.headers := by
    rw [Config.remoteTime, Config.remoteTime, h.times, h.remote]
  rw [decision_of_answered ha, decision_of_answered ha', h.status, ht, hr, h.body]

/-! ## The flag -/

theorem foundCurrent_of_answered (ha : c.answer? d e = some a) :
    (run c (some d) e).foundCurrent = (judge a.response.status (c.conditionTime d)
      (c.remoteTime a.response.headers) == .current) := by
  obtain ⟨hk, hx⟩ := answer?_eq_some_iff.1 ha
  rw [run_of_asked hk, send, hx, ← (prepared_of_answered ha).1]

theorem foundCurrent_of_unanswered (ha : c.answer? d e = none) :
    (run c (some d) e).foundCurrent = false := by
  cases hk : c.asked? d with
  | none => exact (run_of_unasked hk).2.2
  | some x =>
    obtain ⟨url, p⟩ := x
    rw [run_of_asked hk, send]
    cases hx : (Engine.exchange e p.request).1 with
    | crash x => rfl
    | error f => rfl
    | ok response =>
      rw [(answer?_eq_some_iff (a := ⟨url, p, response⟩)).2 ⟨hk, hx⟩] at ha
      cases ha

/-- The flag is set exactly when the run ends as up to date. -/
theorem foundCurrent_run_iff (c : Config) (dest : Option σ) (e : ε) :
    (run c dest e).foundCurrent = true ↔
      ∃ s, (run c dest e).outcome = .ok s ∧ s.status = .upToDate := by
  cases dest with
  | none =>
    unfold run
    split <;> simp
  | some d =>
    cases ha : c.answer? d e with
    | none =>
      have ho := (run_of_unanswered ha).2.2
      rw [foundCurrent_of_unanswered ha]
      constructor
      · intro h
        cases h
      · rintro ⟨s, hs, -⟩
        exact absurd hs (ho s)
    | some a =>
      rw [← decision_eq_upToDate_iff, decision_of_answered ha, foundCurrent_of_answered ha,
        beq_iff_eq]
      split
      · simp [*]
      · simp [*]
      · rw [‹judge _ _ _ = _›]
        split <;> simp

/-! ## What is decided -/

/-- The run decides by the status, then by the times, then by the presence of a body. -/
structure Decided (c : Config) (d : σ) (e : ε) (a : Answer ρ) (r : Run σ ε) : Prop where
  /-- The address that is reported is the configured one. -/
  url : ∃ text, c.url = some text ∧ Url.parse text = .ok a.url
  rejected : r.decision = .rejected ↔ ¬ Accepted a.response.status
  /-- The body of a rejected response is not asked for. -/
  rejection : ¬ Accepted a.response.status →
    r.outcome = .error (.status a.url.render a.response.status a.response.reason) ∧
      .bodyTaken ∉ r.events
  upToDate : Accepted a.response.status →
    (r.decision = .upToDate ↔ a.response.status = 304 ∨ c.IsAsNew d a.response.headers)
  noContent : Accepted a.response.status →
    ¬ (a.response.status = 304 ∨ c.IsAsNew d a.response.headers) →
    (r.decision = .noContent ↔ a.response.entity = none)
  /-- The run does not return if the display crashes. -/
  transferred : Accepted a.response.status →
    ¬ (a.response.status = 304 ∨ c.IsAsNew d a.response.headers) →
    ∀ body, a.response.entity = some body → .started body.length ∈ r.events ∧
      (r.followsTransfer = true ∨ ∃ x, r.outcome = .crash x)
  /-- Nothing else has a say, and tags have none. -/
  alone : ∀ (c' : Config) (d' : σ) (e' : ε) (a' : Answer ρ), c'.answer? d' e' = some a' →
    SameFreshness c c' d d' a a' → (run c' (some d') e').decision = r.decision

omit [Source ρ] in
theorem url_of_answered (ha : c.answer? d e = some a) :
    ∃ text, c.url = some text ∧ Url.parse text = .ok a.url := by
  have h := (answer?_eq_some_iff.1 ha).1
  unfold Config.asked? at h
  repeat' split at h
  all_goals cases h
  exact ⟨_, ‹_›, ‹_›⟩

theorem rejection_of_answered (ha : c.answer? d e = some a) (h : ¬ Accepted a.response.status) :
    (run c (some d) e).outcome =
        .error (.status a.url.render a.response.status a.response.reason) ∧
      .bodyTaken ∉ (run c (some d) e).events := by
  have hj : judge a.response.status (c.conditionTime d) (c.remoteTime a.response.headers) =
      .rejected := judge_of_rejected h
  refine ⟨?_, ?_⟩
  · rw [(run_of_answered ha).2.1, settle, hj]
  · rw [← mem_landmarks_iff rfl, landmarks_of_answered ha, hj]
    simp

theorem decided_run (ha : c.answer? d e = some a) : Decided c d e a (run c (some d) e) := by
  have hd := decision_of_answered ha
  have hn := isAsNew_eq_true_iff c d a.response.headers
  have houtdated (h : Accepted a.response.status)
      (hf : ¬ (a.response.status = 304 ∨ c.IsAsNew d a.response.headers)) :
      judge a.response.status (c.conditionTime d) (c.remoteTime a.response.headers) =
        .outdated := by
    rw [← hn] at hf
    exact judge_of_outdated h hf
  refine ⟨url_of_answered ha, ?_, rejection_of_answered ha, ?_, ?_, ?_,
    fun _ _ _ _ ha' h => decision_congr ha ha' h⟩
  · rw [← judge_eq_rejected_iff, hd]
    split
    · exact ⟨fun _ => ‹_›, fun _ => rfl⟩
    · simp [*]
    · rw [‹judge _ _ _ = _›]
      split <;> simp
  · intro h
    rw [← hn, ← judge_eq_current_iff h, hd]
    split
    · simp [*]
    · exact ⟨fun _ => ‹_›, fun _ => rfl⟩
    · rw [‹judge _ _ _ = _›]
      split <;> simp
  · intro h hf
    rw [hd, houtdated h hf]
    cases a.response.entity <;> simp
  · intro h hf body hb
    exact transfer_of_taken ha ((body?_eq_some_iff ha).2 ⟨houtdated h hf, hb⟩)

/-- **Every run of an action** with a response decides so, and afterwards the action says whether
that run ended as up to date. -/
theorem decided_execute (x : Action σ) (e : ε) :
    ((x.execute e).2.upToDate = true ↔
      ∃ s, (x.execute e).1.outcome = .ok s ∧ s.status = .upToDate) ∧
    ∀ d a, x.dest = some d → x.config.answer? d e = some a →
      Decided x.config d e a (x.execute e).1 := by
  refine ⟨foundCurrent_run_iff .., ?_⟩
  intro d a hd ha
  simp only [Action.execute, hd]
  exact decided_run ha

/-- An engine whose answer tells of a change one second after the epoch. -/
def changedAtOne : ScriptedEngine :=
  ⟨[.answer 200 "OK" (.ofList [("LAST-Modified", "Thu, 01 Jan 1970 00:00:01 GMT")])
    (.script [.bytes [65]]) none]⟩

/-- A copy that is newer by a nanosecond is up to date. -/
theorem decided_newer :
    ∃ a, Config.validating.answer? (MemoryDest.new none (some ⟨1000000001⟩)) changedAtOne =
        some a ∧
      Decided .validating (MemoryDest.new none (some ⟨1000000001⟩)) changedAtOne a
        ((Action.new .validating
          (some (MemoryDest.new none (some ⟨1000000001⟩)))).execute changedAtOne).1 ∧
      ((Action.new .validating
        (some (MemoryDest.new none (some ⟨1000000001⟩)))).execute changedAtOne).2.upToDate =
          true := by
  obtain ⟨a, ha⟩ : ∃ a, Config.validating.answer? (MemoryDest.new none (some ⟨1000000001⟩))
      changedAtOne = some a := Option.isSome_iff_exists.1 (by decide +kernel)
  refine ⟨a, ha, ?_, by decide +kernel⟩
  exact (decided_execute (Action.new .validating (some _)) changedAtOne).2 _ _ rfl ha

end Refetch.Download
