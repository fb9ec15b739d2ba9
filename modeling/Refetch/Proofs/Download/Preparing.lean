import Refetch.Engine.Http
import Refetch.Proofs.Download.Landmarks
import Refetch.Proofs.Download.Returning
import Refetch.Proofs.Header.Conversion
/-!
# Requests that never come about

What is wrong with a configuration is found before anything is done.

1. A run that has a URL, a destination and a date of the stored time puts the headers of its request
   together (`Config.Assembles`). It has a request carried out exactly if these have a place on the
   wire (`exists_asked_iff`).
2. Any other run is not heard of, and it leaves the engine and the destination alone
   (`refused_of_unconverted`).
3. An engine checks the headers of a request again, and finds nothing that was not found before
   (`exchange_of_wired`).

Headers that overflow the wire table before the first fault are the exception: the run crashes.
-/

namespace Refetch.HttpEngine

variable {ν : Type} [Network ν]

/-- A request with a URL and headers that have a place on the wire is answered, or the transport
fails. -/
theorem exchange_of_wired (e : HttpEngine ν) {q : Request} {url : Url} {wire : WireHeaders}
    (hu : q.requireUrl = .ok url) (hw : q.headers.toWire = .ok wire) :
    (∃ response, (Engine.exchange e q).1 = .ok response) ∨
      ∃ cause, (Engine.exchange e q).1 = .error (.transport url.render cause) := by
  have he : (Engine.exchange e q).1 = (e.exchange q).1 := rfl
  rw [he]
  unfold exchange
  simp only [hu, hw]
  cases Http.load e.config.transport q.body with
  | error f => exact .inr ⟨_, rfl⟩
  | ok loaded =>
    dsimp only
    cases e.fields q url wire with
    | error f => exact .inr ⟨_, rfl⟩
    | ok fields =>
      dsimp only
      cases (e.dispatch q.method (Http.withoutCredential url) fields loaded).result with
      | error f => exact .inr ⟨_, rfl⟩
      | ok answer => exact .inl ⟨_, rfl⟩

end Refetch.HttpEngine

namespace Refetch.Download

variable {ρ σ ε : Type} [Source ρ] [Dest σ] [Engine ε ρ]
variable {c : Config} {dest : Option σ} {d : σ} {e : ε} {url : Url} {headers : HeaderList}

/-! ## Headers -/

/-- A run gets as far as the headers of its request: it has a URL that parses and a destination, and
the stored time that it asks with has a date. -/
def Config.Assembles (c : Config) (dest : Option σ) (url : Url) (headers : HeaderList) : Prop :=
  ∃ text d date, c.url = some text ∧ Url.parse text = .ok url ∧ dest = some d ∧
    dateOf (c.conditionTime d) = .ok date ∧ headers = c.requestHeaders (c.conditionTag d) date

/-- The headers come about and have a place on the wire. -/
def Config.Converts (c : Config) (dest : Option σ) : Prop :=
  ∃ url headers wire, c.Assembles dest url headers ∧ headers.toWire = .ok wire

/-- The headers come about and overflow a wire table. -/
def Config.Overflows (c : Config) (dest : Option σ) : Prop :=
  ∃ url headers, c.Assembles dest url headers ∧ headers.Overflows

theorem Config.Assembles.unique {url' : Url} {headers' : HeaderList}
    (h : c.Assembles dest url headers) (h' : c.Assembles dest url' headers') :
    url = url' ∧ headers = headers' := by
  obtain ⟨text, d, date, hu, hp, rfl, hd, rfl⟩ := h
  obtain ⟨text', d', date', hu', hp', ⟨⟩, hd', rfl⟩ := h'
  obtain rfl := Option.some.inj (hu.symm.trans hu')
  obtain rfl := Except.ok.inj (hp.symm.trans hp')
  obtain rfl := Outcome.ok.inj (hd.symm.trans hd')
  exact ⟨rfl, rfl⟩

/-- The request of a run. -/
def fetching (url : Url) (headers : HeaderList) : Request :=
  { Request.new.setUrl url with headers := headers }

omit [Source ρ] in
theorem asked_iff_assembles {p : Prepared} : c.asked? d = some (url, p) ↔
    ∃ headers wire, c.Assembles (some d) url headers ∧ headers.toWire = .ok wire ∧
      p = ⟨fetching url headers, c.conditionTime d⟩ := by
  rw [asked?_eq_some_iff]
  constructor
  · rintro ⟨text, hu, hp, hr⟩
    obtain ⟨date, wire, hd, hw, rfl⟩ := prepare_eq_ok_iff.1 hr
    exact ⟨_, wire, ⟨text, d, date, hu, hp, rfl, hd, rfl⟩, hw, rfl⟩
  · rintro ⟨headers, wire, ⟨text, d, date, hu, hp, ⟨⟩, hd, rfl⟩, hw, rfl⟩
    exact ⟨text, hu, hp, prepare_eq_ok_iff.2 ⟨date, wire, hd, hw, rfl⟩⟩

theorem exists_asked_iff : (∃ url p, c.asked? d = some (url, p)) ↔ c.Converts (some d) := by
  simp only [asked_iff_assembles]
  constructor
  · rintro ⟨url, p, headers, wire, ha, hw, -⟩
    exact ⟨url, headers, wire, ha, hw⟩
  · rintro ⟨url, headers, wire, ha, hw⟩
    exact ⟨url, _, headers, wire, ha, hw, rfl⟩

/-! ## Runs without a request -/

/-- The run is not heard of and asks nobody, and it leaves the engine and the destination alone. -/
structure Refused (dest : Option σ) (e : ε) (r : Run σ ε) : Prop where
  unheard : heard r.events = []
  unasked : ∀ q, .executed q ∉ r.events
  uncalled : ∀ ev ∈ r.events, ev.changesDest = false
  dest : r.dest = dest
  engine : r.engine = e

theorem refused_of_unasked (h : c.asked? d = none) :
    Refused (some d) e (run c (some d) e) := by
  obtain ⟨hl, he, -⟩ := run_of_unasked (e := e) h
  have ha : c.answer? d e = none := by
    refine Option.eq_none_iff_forall_ne_some.2 fun a ha => ?_
    rw [(answer?_eq_some_iff.1 ha).1] at h
    cases h
  obtain ⟨hd, ⟨hcalls, -⟩, -⟩ := run_of_unanswered ha
  refine ⟨by rw [← heard_landmarks, hl]; rfl, fun q hq => ?_, fun ev hev => ?_, hd, he⟩
  · rw [← mem_landmarks_iff rfl, hl] at hq
    cases hq
  · have hn := List.filter_eq_nil_iff.1 hcalls ev hev
    rw [Event.isCall, Bool.or_eq_true, not_or] at hn
    exact Bool.eq_false_iff.2 hn.1

/-- **Without headers that convert** nothing is done. -/
theorem refused_of_unconverted (h : ¬ c.Converts dest) : Refused dest e (run c dest e) := by
  cases dest with
  | none =>
    unfold run
    cases c.url <;> exact ⟨rfl, by simp, by simp, rfl, rfl⟩
  | some d =>
    refine refused_of_unasked (Option.eq_none_iff_forall_ne_some.2 fun x hx => h ?_)
    exact exists_asked_iff.1 ⟨x.1, x.2, hx⟩

/-! ## Outcomes -/

/-- The configuration is at fault, or its URL. -/
def OfConfiguration (o : Outcome Summary) : Prop :=
  (∃ f, o = .error (.config f)) ∨ ∃ f, o = .error (.invalidUrl f)

/-- The stored time that is asked with has a date. -/
def Config.AsksDated (c : Config) (dest : Option σ) : Prop :=
  ∀ d t, dest = some d → c.conditionTime d = some t → Dated t

theorem outcome_of_unassembled (hd : c.AsksDated dest)
    (h : ∀ url headers, ¬ c.Assembles dest url headers) :
    OfConfiguration (run c dest e).outcome := by
  unfold run
  cases hu : c.url with
  | none => exact .inl ⟨_, rfl⟩
  | some text =>
    cases dest with
    | none => exact .inl ⟨_, rfl⟩
    | some d =>
      cases hp : Url.parse text with
      | error f =>
        simp only [hp]
        exact .inr ⟨_, rfl⟩
      | ok url =>
        obtain ⟨date, hdate⟩ := dateOf_of_dated fun t ht => hd d t rfl ht
        exact absurd ⟨text, d, date, hu, hp, rfl, hdate, rfl⟩ (h url _)

/-- What is wrong with the headers is what is wrong with the run. -/
theorem outcome_of_assembled (h : c.Assembles dest url headers) :
    (∀ f, headers.toWire = .error f → (run c dest e).outcome = .error f) ∧
      ∀ x, headers.toWire = .crash x → (run c dest e).outcome = .crash x := by
  obtain ⟨text, d, date, hu, hp, rfl, hd, rfl⟩ := h
  have hr : (c.request url (c.conditionTag d) date).headers =
      c.requestHeaders (c.conditionTag d) date := rfl
  refine ⟨fun f hf => ?_, fun x hx => ?_⟩
  · simp only [run, hu, hp, prepare, hd, hr, hf]
  · simp only [run, hu, hp, prepare, hd, hr, hx]

theorem outcome_of_unconverted (hd : c.AsksDated dest) (h : ¬ c.Converts dest)
    (ho : ¬ c.Overflows dest) : OfConfiguration (run c dest e).outcome := by
  by_cases ha : ∃ url headers, c.Assembles dest url headers
  · obtain ⟨url, headers, ha⟩ := ha
    rcases headers.toWire_cases with ⟨w, hw⟩ | ⟨f, hf⟩ | ⟨hs, -⟩
    · exact absurd ⟨url, headers, w, ha, hw⟩ h
    · exact .inl ⟨f, (outcome_of_assembled ha).1 _ hf⟩
    · exact absurd ⟨url, headers, ha, hs⟩ ho
  · exact outcome_of_unassembled hd fun url headers h => ha ⟨url, headers, h⟩

/-! ## Runs with a request -/

/-- The request has a URL and headers that have a place on the wire. So an engine over any network
answers it, or the transport fails. -/
structure Passable (q : Request) : Prop where
  url : ∃ url, q.requireUrl = .ok url
  headers : ∃ wire, q.headers.toWire = .ok wire
  exchange : ∀ (ν : Type) [Network ν] (e : HttpEngine ν),
    (∃ response, (Engine.exchange e q).1 = .ok response) ∨
      ∃ text cause, (Engine.exchange e q).1 = .error (.transport text cause)

theorem passable_of_wired {q : Request} {wire : WireHeaders} (hu : q.requireUrl = .ok url)
    (hw : q.headers.toWire = .ok wire) : Passable q :=
  ⟨⟨url, hu⟩, ⟨wire, hw⟩, fun _ _ e => (e.exchange_of_wired hu hw).imp_right fun h => ⟨_, h⟩⟩

/-- A run has a request carried out that can be sent, if its headers convert, and none otherwise. -/
theorem executed_iff_converts : (∃ q, .executed q ∈ (run c dest e).events) ↔ c.Converts dest := by
  cases dest with
  | none =>
    constructor
    · rintro ⟨q, hq⟩
      by_contra h
      exact (refused_of_unconverted h).unasked q hq
    · rintro ⟨url, headers, wire, ⟨text, d, date, -, -, ⟨⟩, -⟩, -⟩
  | some d =>
    rw [← exists_asked_iff]
    simp only [executed_mem_run_iff]
    constructor
    · rintro ⟨q, url, p, h, -⟩
      exact ⟨url, p, h⟩
    · rintro ⟨url, p, h⟩
      exact ⟨_, url, p, h, rfl⟩

theorem connecting_iff_converts : .connecting ∈ (run c dest e).events ↔ c.Converts dest := by
  rw [← executed_iff_converts (e := e)]
  cases dest with
  | none =>
    unfold run
    cases c.url <;> simp
  | some d => exact connecting_mem_run_iff

/-- The request of a run carries the headers that the run put together, and can be sent. -/
theorem passable_of_executed {q : Request} (h : .executed q ∈ (run c dest e).events) :
    (∃ url headers, c.Assembles dest url headers ∧ q = fetching url headers) ∧ Passable q := by
  cases dest with
  | none =>
    obtain ⟨url, headers, wire, ⟨text, d, date, -, -, ⟨⟩, -⟩, -⟩ := executed_iff_converts.1 ⟨q, h⟩
  | some d =>
    obtain ⟨url, p, hp, rfl⟩ := executed_mem_run_iff.1 h
    obtain ⟨headers, wire, ha, hw, rfl⟩ := asked_iff_assembles.1 hp
    exact ⟨⟨url, headers, ha, rfl⟩, passable_of_wired rfl hw⟩

/-- What comes before anything is asked for: the request, if the headers convert, and otherwise
nothing but the fault. -/
structure Prechecked (c : Config) (dest : Option σ) (e : ε) (r : Run σ ε) : Prop where
  connecting : .connecting ∈ r.events ↔ c.Converts dest
  executed : (∃ q, .executed q ∈ r.events) ↔ c.Converts dest
  /-- The engine finds nothing wrong with the request that was not found before. -/
  passable : ∀ q, .executed q ∈ r.events →
    (∃ url headers, c.Assembles dest url headers ∧ q = fetching url headers) ∧ Passable q
  refused : ¬ c.Converts dest → Refused dest e r
  /-- Headers that overflow the table are not checked further. -/
  crashed : c.Overflows dest → r.outcome = .crash .tooManyHeaders
  faulty : ¬ c.Converts dest → ¬ c.Overflows dest → OfConfiguration r.outcome

/-- A configuration with a name that is no token. -/
def Config.misnamed : Config := Config.hushed.addHeader "a b" ""

/-- A configuration with these headers and nothing else to send. -/
def Config.carrying (headers : HeaderList) : Config :=
  { Config.new with url := some "http://[::1]/f", headers := headers, quiet := true }

theorem assembles_carrying (headers : HeaderList) (d : σ) :
    ∃ url, (Config.carrying headers).Assembles (some d) url headers := by
  have hp : (Url.parse "http://[::1]/f").toOption.isSome = true := by decide +kernel
  obtain ⟨url, hurl⟩ := Option.isSome_iff_exists.1 hp
  refine ⟨url, _, d, none, rfl, ?_, rfl, rfl, ?_⟩
  · cases h : Url.parse "http://[::1]/f" with
    | ok u => simpa [h, Except.toOption] using hurl
    | error f => simp [h, Except.toOption] at hurl
  · have hm : (Config.carrying headers).missingUserAgent = none := ite_self none
    unfold Config.requestHeaders
    rw [hm]
    rfl

theorem crashes_of_crowded {headers : HeaderList} (hs : headers.Overflows)
    (d : σ) (e : ε) : ¬ (Config.carrying headers).Converts (some d) ∧
      ((Action.new (.carrying headers) (some d)).execute e).1.outcome = .crash .tooManyHeaders := by
  have hcrash : headers.toWire = .crash .tooManyHeaders :=
    HeaderList.toWire_eq_crash_iff.2 ⟨hs, rfl⟩
  obtain ⟨url, ha⟩ := assembles_carrying headers d
  refine ⟨?_, (outcome_of_assembled ha).2 _ hcrash⟩
  rintro ⟨url', headers', wire, ha', hw⟩
  rw [← (ha.unique ha').2, hcrash] at hw
  cases hw

/-- A name that is no token, before more headers than a wire table is made for. -/
def misnamedCrowd : HeaderList := ⟨("a b", "") :: HeaderList.crowded.entries⟩

end Refetch.Download
