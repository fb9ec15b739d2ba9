import Refetch.Proofs.Download.PostState
import Refetch.Proofs.Header.Wired
/-!
# When a run returns

A run that is not shown on the console can crash only while it prepares its request, before it is
heard of: a stored time before 1970 or after 9999 has no date, and many headers can overflow the wire
table that they are checked with.

1. `prepare_ne_crash_iff` says when a request can be prepared.
2. Nothing that comes after the response crashes (`settle_ne_crash`).
3. Hence a run returns exactly when its request is `Sendable` (`returns_execute_iff`).
-/

namespace Refetch.Download

variable {ρ σ ε : Type} [Source ρ] [Dest σ] [Engine ε ρ]
variable {c : Config} {d : σ} {e : ε}

/-! ## Requests -/

/-- The moment has an HTTP date. -/
def Dated (t : Timestamp) : Prop := 0 ≤ t.seconds ∧ t.seconds < HttpDate.secondsLimit

/-- The request of a run can be written down: the stored time that it asks with has a date, and its
headers do not overflow a wire table. -/
structure Config.Sendable (c : Config) (d : σ) : Prop where
  dated : ∀ t, c.onlyIfModified = true → Dest.lastModified d = some t → Dated t
  fits : ∀ date, dateOf (c.conditionTime d) = .ok date →
    ¬ (c.requestHeaders (c.conditionTag d) date).Overflows

theorem dateOf_of_dated {time : Option Timestamp} (h : ∀ t, time = some t → Dated t) :
    ∃ date, dateOf time = .ok date := by
  cases time with
  | none => exact ⟨none, rfl⟩
  | some t =>
    obtain ⟨hl, hu⟩ := h t rfl
    have hf : HttpDate.format t =
        .ok (String.ofList (HttpDate.renderFixed (.ofSeconds t.seconds.toNat))) := by
      rw [HttpDate.format, if_neg (by omega)]
    exact ⟨_, by rw [dateOf, hf]⟩

theorem dateOf_of_undated {t : Timestamp} (h : ¬ Dated t) :
    dateOf (some t) = .crash .timeWithoutDate := by
  unfold Dated at h
  rw [dateOf, HttpDate.format, if_pos (by omega)]

theorem toWire_ne_crash_iff {h : HeaderList} : (∀ x, h.toWire ≠ .crash x) ↔ ¬ h.Overflows := by
  simp [HeaderList.toWire_eq_crash_iff]

/-- **A request** can be prepared, or its headers are at fault, exactly when it is sendable. -/
theorem prepare_ne_crash_iff (c : Config) (url : Url) (d : σ) :
    (∀ x, (prepare c url d).2 ≠ .crash x) ↔ c.Sendable d := by
  unfold prepare
  constructor
  · intro h
    have hdated (t : Timestamp) (ht : c.conditionTime d = some t) : Dated t := by
      by_contra hn
      rw [ht, dateOf_of_undated hn] at h
      exact h .timeWithoutDate rfl
    refine ⟨fun t hc hm => hdated t (conditionTime_eq_some_iff.2 ⟨hc, hm⟩), fun date hd => ?_⟩
    rw [hd] at h
    refine toWire_ne_crash_iff.1 fun x hx => ?_
    have hr : (c.request url (c.conditionTag d) date).headers.toWire = .crash x := hx
    exact h x (by simp only [hr])
  · intro h x
    -- the headers are checked only once there is a date
    obtain ⟨date, hd⟩ := dateOf_of_dated fun t ht =>
      h.dated t (conditionTime_eq_some_iff.1 ht).1 (conditionTime_eq_some_iff.1 ht).2
    have hw : ∀ x, (c.request url (c.conditionTag d) date).headers.toWire ≠ .crash x :=
      toWire_ne_crash_iff.2 (h.fits date hd)
    rw [hd]
    dsimp only
    split
    · simp
    · simp
    · exact absurd ‹_› (hw _)

/-! ## Responses -/

theorem transfer_ne_crash (hq : c.listener = true ∨ c.quiet = true) (url : Url)
    (body : ReaderBody ρ) (d : σ) (x : Crash) :
    (transfer c url body d).outcome ≠ .crash x := by
  rw [(transfer_of_shown url (displayCrash?_of_unshown hq ..)).2.2.1]
  cases (completeCopy url (copyBody url c.checksum body d).outcome
    (copyBody url c.checksum body d).dest).outcome <;> simp [Outcome.ofExcept]

theorem download_ne_crash (hq : c.listener = true ∨ c.quiet = true) (url : Url)
    (response : Response ρ) (body : ReaderBody ρ) (d : σ) (x : Crash) :
    (download c url response body d).outcome ≠ .crash x := by
  have ht := transfer_ne_crash hq url body d
  unfold download
  dsimp only
  split
  · exact absurd ‹_› (ht _)
  · simp
  · split <;> simp

/-- **After the response** nothing crashes. -/
theorem settle_ne_crash (hq : c.listener = true ∨ c.quiet = true) (url : Url)
    (stored : Option Timestamp) (response : Response ρ) (d : σ) (x : Crash) :
    (settle c url stored response d).outcome ≠ .crash x := by
  unfold settle
  dsimp only
  split
  · simp
  · simp
  · split
    · simp
    · exact download_ne_crash hq url _ _ d x

/-! ## Runs -/

theorem send_ne_crash (hq : c.listener = true ∨ c.quiet = true) {url : Url} {p : Prepared}
    (he : ∀ q x, (Engine.exchange e q).1 ≠ .crash x) (x : Crash) :
    (send c url p d e).outcome ≠ .crash x := by
  unfold send
  dsimp only
  split
  · exact absurd ‹_› (he _ _)
  · simp
  · exact settle_ne_crash hq url _ _ d x

theorem run_ne_crash_iff_of_parsed (hq : c.listener = true ∨ c.quiet = true) {text : String}
    {url : Url} (hu : c.url = some text) (hp : Url.parse text = .ok url)
    (he : ∀ q x, (Engine.exchange e q).1 ≠ .crash x) :
    (∀ x, (run c (some d) e).outcome ≠ .crash x) ↔ c.Sendable d := by
  have hsent (p : Prepared) (x : Crash) : (send c url p d e).outcome ≠ .crash x :=
    send_ne_crash hq he x
  rw [← prepare_ne_crash_iff c url d]
  unfold run
  simp only [hu, hp]
  cases (prepare c url d).2 with
  | crash x => simp
  | error f => simp
  | ok p => simp [hsent]

/-- A run crashes exactly when it does not get to send its request. -/
theorem run_ne_crash_iff (hq : c.listener = true ∨ c.quiet = true) (dest : Option σ)
    (he : ∀ q x, (Engine.exchange e q).1 ≠ .crash x) :
    (∀ x, (run c dest e).outcome ≠ .crash x) ↔
      ∀ d text url, dest = some d → c.url = some text → Url.parse text = .ok url →
        c.Sendable d := by
  constructor
  · rintro h d text url rfl hu hp
    exact (run_ne_crash_iff_of_parsed hq hu hp he).1 h
  · intro h
    cases hu : c.url with
    | none => simp [run, hu]
    | some text =>
      cases dest with
      | none => simp [run, hu]
      | some d =>
        cases hp : Url.parse text with
        | error f => simp [run, hu, hp]
        | ok url => exact (run_ne_crash_iff_of_parsed hq hu hp he).2 (h d text url rfl hu hp)

/-- **Every run of an action** that is not shown on the console returns exactly when it has nothing
to send or its request is sendable. -/
theorem returns_execute_iff (x : Action σ) (e : ε)
    (hq : x.config.listener = true ∨ x.config.quiet = true)
    (he : ∀ q k, (Engine.exchange e q).1 ≠ .crash k) :
    (∀ k, (x.execute e).1.outcome ≠ .crash k) ↔
      ∀ d text url, x.dest = some d → x.config.url = some text → Url.parse text = .ok url →
        x.config.Sendable d :=
  run_ne_crash_iff hq x.dest he

theorem exchange_ne_crash_scripted (e : ScriptedEngine) (q : Request) (x : Crash) :
    (Engine.exchange e q).1 ≠ .crash x := by
  simp only [Engine.exchange]
  split
  · simp
  · unfold Scripted.respond
    split <;> simp

/-- A quiet configuration of one address, with all validators. -/
def Config.hushed : Config := { Config.validating with quiet := true }

/-- A destination that was last changed this many seconds after the start of 1970. -/
def changedAt (seconds : Int) : MemoryDest := MemoryDest.new none (some (.ofSeconds seconds))

/-- A run whose stored time is the last of the year 9999 returns. -/
theorem returns_hushed : (Config.hushed.listener = true ∨ Config.hushed.quiet = true) ∧
    ∀ k, ((Action.new .hushed (some (changedAt 253402300799))).execute oneByte).1.outcome ≠
      .crash k := by
  refine ⟨.inr rfl, (returns_execute_iff (Action.new .hushed (some (changedAt 253402300799)))
    oneByte (.inr rfl) (exchange_ne_crash_scripted oneByte)).2 ?_⟩
  rintro d text url ⟨⟩ - -
  refine ⟨?_, ?_⟩
  · rintro t - ⟨⟩
    exact ⟨by decide +kernel, by decide +kernel⟩
  · rintro date hd
    obtain rfl : date = some "Fri, 31 Dec 9999 23:59:59 GMT" := by
      rw [show dateOf _ = .ok (some "Fri, 31 Dec 9999 23:59:59 GMT") by decide +kernel] at hd
      cases hd
      rfl
    exact HeaderList.not_overflows (by decide +kernel)

/-- One that is a second before 1970 has no date, and the run crashes. -/
theorem crashes_hushed : ((Action.new .hushed (some (changedAt (-1)))).execute oneByte).1.outcome =
    .crash .timeWithoutDate := by
  decide +kernel

end Refetch.Download
