import Refetch.Proofs.Engine.Following
import Refetch.Proofs.Engine.Openings
/-!
# Both transports

The same request is carried out by an engine with the streaming and by one with the buffering
transport, over the same network. Neither tries again.

1. What is wrong with a request is wrong for both (`refused`), and where there is no peer both fail.
   What reaches a peer first is the request with its headers (`delivers_first`).
2. If only the body of the request tells where it ends (`Plain`), it depends on the body whether a
   transport sends anything (`sent_iff`), and the body is sent as the transport takes it
   (`carries_first`). A body that does not get through is a failure of the transport
   (`stopped_of_untaken`).
3. If both bodies get through, the peers answer them the same and do not ask for them again, both
   engines ask and return the same (`agreed_of_comparable`).
-/

namespace Refetch

/-! ## Bodies of responses -/

/-- What reads of these sizes give, one after the other; nothing stands for a failure. -/
def Source.answers {ρ : Type} [Source ρ] (r : ρ) : List Nat → List (Option Bytes)
  | [] => []
  | n :: sizes => (Source.read r n).result.toOption :: answers (Source.read r n).rest sizes

namespace ChunkReader

/-- The readers differ at most in the failure that they end with. -/
structure Alike (r s : ChunkReader) : Prop where
  same : { r with failure := s.failure } = s
  failure : r.failure.isSome = s.failure.isSome

theorem refill_alike {n : Nat} {chunks : List Bytes} {f g : Option IoError}
    (h : f.isSome = g.isSome) :
    (refill n chunks f).result.toOption = (refill n chunks g).result.toOption ∧
      (refill n chunks f).rest.Alike (refill n chunks g).rest := by
  fun_induction refill n chunks f with
  | case1 =>
    obtain rfl : g = none := by simpa using h.symm
    exact ⟨rfl, rfl, rfl⟩
  | case2 e =>
    obtain ⟨e', rfl⟩ := Option.isSome_iff_exists.1 h.symm
    exact ⟨rfl, rfl, rfl⟩
  | case3 rest failure ih => exact ih h
  | case4 b bs rest failure => exact ⟨rfl, rfl, h⟩

theorem read_alike {r s : ChunkReader} (h : r.Alike s) (n : Nat) :
    (Source.read r n).result.toOption = (Source.read s n).result.toOption ∧
      (Source.read r n).rest.Alike (Source.read s n).rest := by
  obtain ⟨pending, offset, chunks, failure⟩ := r
  obtain ⟨pending', offset', chunks', failure'⟩ := s
  obtain ⟨rfl, rfl, rfl⟩ : pending = pending' ∧ offset = offset' ∧ chunks = chunks' := by
    simpa using h.same
  simp only [Source.read, ChunkReader.read]
  by_cases hn : n = 0
  · rw [if_pos hn, if_pos hn]
    exact ⟨rfl, h⟩
  · rw [if_neg hn, if_neg hn]
    by_cases ha : available ⟨pending, offset, chunks, failure⟩ = []
    · have ha' : available ⟨pending, offset, chunks, failure'⟩ = [] := ha
      rw [if_pos ha, if_pos ha']
      exact refill_alike h.failure
    · have ha' : available ⟨pending, offset, chunks, failure'⟩ ≠ [] := ha
      rw [if_neg ha, if_neg ha']
      exact ⟨rfl, rfl, h.failure⟩

/-- Readers that are alike cannot be told apart but by their failure. -/
theorem answers_alike {r s : ChunkReader} (h : r.Alike s) (sizes : List Nat) :
    Source.answers r sizes = Source.answers s sizes := by
  induction sizes generalizing r s with
  | nil => rfl
  | cons n sizes ih =>
    obtain ⟨hr, hs⟩ := read_alike h n
    rw [Source.answers, Source.answers, hr, ih hs]

end ChunkReader

/-- The bodies say the same of themselves and give the same bytes, and fail after the same bytes if
they fail. -/
structure ReaderBody.Alike {ρ : Type} [Source ρ] (b c : ReaderBody ρ) : Prop where
  length : b.length = c.length
  contentType : b.contentType = c.contentType
  reads : ∃ r s, b.source = some r ∧ c.source = some s ∧
    ∀ sizes, Source.answers r sizes = Source.answers s sizes

structure Response.Alike {ρ : Type} [Source ρ] (p q : Response ρ) : Prop where
  status : p.status = q.status
  url : p.url = q.url
  reason : p.reason = q.reason
  headers : p.headers = q.headers
  entity : Option.Rel ReaderBody.Alike p.entity q.entity

namespace Http

theorem responseOf_alike (t t' : Transport) (method : Method) (a : WireAnswer) (u : Url) :
    (responseOf t method a u).Alike (responseOf t' method a u) := by
  refine ⟨rfl, rfl, rfl, rfl, ?_⟩
  unfold responseOf Response.answering
  dsimp only
  split
  · refine .some ⟨rfl, rfl, _, _, rfl, rfl, ChunkReader.answers_alike ⟨rfl, ?_⟩⟩
    cases a.broken <;> rfl
  · exact .none

end Http

/-! ## First requests -/

namespace Http

/-- The request as it reaches a peer first: with its method, its URL, its headers but those that tell
where the body ends, and the media type of the body if the headers name none. -/
structure Delivers (r : Request) (w : WireRequest) : Prop where
  method : w.method = r.method
  url : ∃ url, r.url = some url ∧ w.url = askedUrl r.method url
  headers : ∀ name, r.headers.contains name = true → foldName name ∉ framingFields →
    w.headers.getAll name = (r.headers.getAll name).map Text.Utf8.encode
  contentType : r.headers.contains contentType = false →
    ∀ type, r.body.bind Payload.contentType? = some type →
      w.headers.getAll contentType = [Text.Utf8.encode type]

/-- The body reaches the peer as the transport takes it. -/
structure Carries (t : Transport) (r : Request) (w : WireRequest) : Prop where
  framing : w.framing.Fits w.body
  body : match r.body with
    | some p => p.uploaded? t = some w.body ∧ p.Uploads w.body t
    | none => w.body = []

theorem askedUrl_withoutCredential (method : Method) (u : Url) :
    askedUrl method (withoutCredential u) = askedUrl method u := by
  unfold withoutCredential
  split <;> rfl

end Http

namespace HttpEngine

open Http

variable {ν : Type} {e : HttpEngine ν} {r : Request} {u url : Url} {method : Method}
  {wire fields : WireHeaders} {loaded : Loaded} {hop : Hop}

/-- The request has what it takes to be sent. -/
structure Ready (e : HttpEngine ν) (r : Request) (url : Url) (wire fields : WireHeaders) :
    Prop where
  url_eq : r.url = some url
  wire_eq : r.headers.toWire = .ok wire
  fields_eq : e.fields r url wire = .ok fields

theorem delivers_toWire (h : e.Ready r url wire fields) {t : Transport}
    (ho : opening? t r (withoutCredential url) fields = some hop)
    (clock : Timestamp) (jar : CookieJar) : Delivers r (hop.toWire clock jar) := by
  obtain ⟨hm, hurl, hothers⟩ := opening?_spec ho
  have hkeeps := keeps_fields h.wire_eq h.fields_eq
  have hwire := keeps_toWire hop clock jar
  -- what the table has under another name than those of framing
  have hget : ∀ name, foldName name ∉ framingFields → fields.contains name = true →
      (hop.toWire clock jar).headers.getAll name = fields.getAll name := by
    intro name hn hc
    rw [hwire.values name ((WireHeaders.contains_of_others hothers hn).trans hc),
      WireHeaders.getAll_of_others hothers hn]
  refine ⟨hm, ⟨url, h.url_eq, ?_⟩, fun name hc hn => ?_, fun hc type ht => ?_⟩
  · show askedUrl hop.method hop.url = _
    rw [hm, hurl, askedUrl_withoutCredential]
  · have hc' : wire.contains name = true := (contains_toWire h.wire_eq name).trans hc
    rw [hget name hn (hkeeps.contains name hc'), hkeeps.values name hc',
      (HeaderList.converts_toWire r.headers).values wire h.wire_eq]
  · obtain ⟨hc', hg⟩ := getAll_contentType h.wire_eq h.fields_eq hc ht
    rw [hget contentType (by decide) hc', hg]

/-- Only the body of the request tells where it ends: neither a header nor a default field does, and a
body of unknown length does not come with a method that hardly ever has one. -/
structure Plain (e : HttpEngine ν) (r : Request) : Prop where
  headers : ∀ name ∈ framingFields, r.headers.contains name = false
  defaults : ∀ name ∈ framingFields, ∀ f ∈ e.config.defaults.toList, sameName f.1 name = false
  declared : r.method.isBodiless = true → ∀ p, r.body = some p → p.contentLength?.isSome = true

theorem Plain.selfFramed (hp : Plain e r) (h : e.Ready r url wire fields) : SelfFramed r fields :=
  ⟨fun name hn => lacks_fields h.wire_eq h.fields_eq (hp.headers name hn) (hp.defaults name hn)
    (by revert name; decide), hp.declared⟩

theorem carries_toWire (hp : Plain e r) (h : e.Ready r url wire fields) {t : Transport}
    (ho : opening? t r (withoutCredential url) fields = some hop)
    (clock : Timestamp) (jar : CookieJar) : Carries t r (hop.toWire clock jar) := by
  obtain ⟨hframing, hbody⟩ := body_of_opening (hp.selfFramed h) ho
  exact ⟨hframing, hbody⟩

/-! ## Requests that stay at home -/

variable [Network ν]

/-- The transport failed and changed nothing. -/
structure Stopped (e : HttpEngine ν) (url : Url)
    (x : Outcome (Response ChunkReader) × HttpEngine ν) : Prop where
  outcome : ∃ cause, x.1 = .error (.transport url.render cause)
  engine : x.2 = e

/-- The chain failed and changed nothing. -/
structure Undone (e : HttpEngine ν) (c : Chain ν) : Prop where
  result : ∃ fault, c.result = .error fault
  jar : c.jar = e.jar
  network : c.network = e.network

theorem exchange_of_unlocated (hu : r.url = none) :
    e.exchange r = (.error (.config .requestWithoutUrl), e) := by
  simp only [exchange, Request.requireUrl, hu]

theorem exchange_of_unwired (hu : r.url = some url) {f : Error}
    (hw : r.headers.toWire = .error f) : e.exchange r = (.error f, e) := by
  simp only [exchange, Request.requireUrl, hu, hw]

theorem exchange_of_crowded (hu : r.url = some url) {c : Crash}
    (hw : r.headers.toWire = .crash c) : e.exchange r = (.crash c, e) := by
  simp only [exchange, Request.requireUrl, hu, hw]

theorem stopped_of_unloaded (hu : r.url = some url) (hw : r.headers.toWire = .ok wire)
    {f : IoError} (hl : load e.config.transport r.body = .error f) :
    Stopped e url (e.exchange r) := by
  unfold exchange
  simp only [Request.requireUrl, hu, hw, hl]
  exact ⟨⟨_, rfl⟩, rfl⟩

theorem stopped_of_unfielded (hu : r.url = some url) (hw : r.headers.toWire = .ok wire)
    {f : HttpFault} (hf : e.fields r url wire = .error f) : Stopped e url (e.exchange r) := by
  cases hl : load e.config.transport r.body with
  | error f => exact stopped_of_unloaded hu hw hl
  | ok loaded =>
    unfold exchange
    simp only [Request.requireUrl, hu, hw, hl, hf]
    exact ⟨⟨_, rfl⟩, rfl⟩

theorem exchange_of_loaded (h : e.Ready r url wire fields)
    (hl : load e.config.transport r.body = .ok loaded) :
    e.exchange r =
      let c := e.dispatch r.method (withoutCredential url) fields loaded
      (match c.result with
        | .error fault => .error (.transport url.render (.text fault.message))
        | .ok (a, final) => .ok (responseOf e.config.transport r.method a final),
        { e with jar := c.jar, network := c.network }) := by
  unfold exchange
  cases hres : (e.dispatch r.method (withoutCredential url) fields loaded).result <;>
    simp only [Request.requireUrl, h.url_eq, h.wire_eq, hl, h.fields_eq, hres]

theorem stopped_of_undone (h : e.Ready r url wire fields)
    (hl : load e.config.transport r.body = .ok loaded)
    (hd : Undone e (e.dispatch r.method (withoutCredential url) fields loaded)) :
    Stopped e url (e.exchange r) := by
  obtain ⟨⟨f, hres⟩, hj, hn⟩ := hd
  rw [exchange_of_loaded h hl]
  dsimp only
  rw [hres, hj, hn]
  exact ⟨⟨_, rfl⟩, rfl⟩

theorem undone_of_unsent {f : UploadFault}
    (hf : firstHop method u fields (isHttp u && Network.reaches e.network u) loaded = .error f) :
    Undone e (e.dispatch method u fields loaded) := by
  unfold dispatch
  rw [hf]
  cases f with
  | body => exact ⟨⟨_, rfl⟩, rfl, rfl⟩
  | short => exact ⟨⟨_, rfl⟩, rfl, rfl⟩

/-- Without retries, both transports follow the chain of the first hop once. -/
theorem dispatch_of_hop (hr : e.config.retries = 0) (hu : isHttp u = true)
    (hf : firstHop method u fields (isHttp u && Network.reaches e.network u) loaded = .ok hop) :
    let c := follow e.clock e.config.maxRedirects hop e.jar e.network
    ∃ g, (e.dispatch method u fields loaded).result = c.result.mapError g ∧
      (e.dispatch method u fields loaded).jar = c.jar ∧
      (e.dispatch method u fields loaded).network = c.network := by
  unfold dispatch
  rw [hf]
  dsimp only
  rw [if_neg (by simp [hu])]
  cases e.config.transport with
  | streaming => exact ⟨_, rfl, rfl, rfl⟩
  | buffering =>
    rw [hr]
    exact ⟨_, rfl, rfl, rfl⟩

/-- Without a peer nothing is sent. -/
theorem undone_of_unreached (hr : e.config.retries = 0)
    (h : (isHttp u && Network.reaches e.network u) = false) :
    Undone e (e.dispatch method u fields loaded) := by
  cases hf : firstHop method u fields (isHttp u && Network.reaches e.network u) loaded with
  | error f => exact undone_of_unsent hf
  | ok hop =>
    cases hu : isHttp u with
    | false =>
      unfold dispatch
      rw [hf]
      dsimp only
      rw [if_pos (by simp [hu])]
      exact ⟨⟨_, rfl⟩, rfl, rfl⟩
    | true =>
      have hreach : Network.reaches e.network hop.url = false := by
        rw [(firstHop_spec hf).2.1]
        simpa [hu] using h
      obtain ⟨g, hres, hj, hn⟩ := dispatch_of_hop hr hu hf
      rw [follow_of_unreached hreach] at hres hj hn
      exact ⟨⟨_, hres⟩, hj, hn⟩

/-! ## Requests that are sent -/

/-- There is a peer for the request. -/
def Reaches (e : HttpEngine ν) (url : Url) : Prop :=
  (isHttp (withoutCredential url) && Network.reaches e.network (withoutCredential url)) = true

theorem stopped_of_unreached (hr : e.config.retries = 0) (h : e.Ready r url wire fields)
    (hpeer : ¬ e.Reaches url) : Stopped e url (e.exchange r) := by
  cases hl : load e.config.transport r.body with
  | error f => exact stopped_of_unloaded h.url_eq h.wire_eq hl
  | ok loaded => exact stopped_of_undone h hl (undone_of_unreached hr (Bool.eq_false_iff.2 hpeer))

/-- The exchange ended as the chain of the first request did. -/
structure Sent (e : HttpEngine ν) (r : Request) (url : Url) (c : Chain ν)
    (x : Outcome (Response ChunkReader) × HttpEngine ν) : Prop where
  engine : x.2 = { e with jar := c.jar, network := c.network }
  failed : ∀ f, c.result = .error f → ∃ cause, x.1 = .error (.transport url.render cause)
  answered : ∀ a final, c.result = .ok (a, final) →
    x.1 = .ok (responseOf e.config.transport r.method a final)

/-- A body that does not get through is not sent at all. -/
theorem stopped_of_unopened (h : e.Ready r url wire fields) (hpeer : e.Reaches url)
    (ho : opening? e.config.transport r (withoutCredential url) fields = none) :
    Stopped e url (e.exchange r) := by
  unfold opening? at ho
  cases hl : load e.config.transport r.body with
  | error f => exact stopped_of_unloaded h.url_eq h.wire_eq hl
  | ok loaded =>
    rw [hl] at ho
    cases hh : firstHop r.method (withoutCredential url) fields true loaded with
    | error f => exact stopped_of_undone h hl (undone_of_unsent (f := f) (hpeer ▸ hh))
    | ok hop =>
      rw [Except.toOption, Option.bind_some, hh] at ho
      cases ho

theorem sent_of_opened (hr : e.config.retries = 0) (h : e.Ready r url wire fields)
    (hpeer : e.Reaches url)
    (ho : opening? e.config.transport r (withoutCredential url) fields = some hop) :
    Sent e r url (follow e.clock e.config.maxRedirects hop e.jar e.network) (e.exchange r) := by
  obtain ⟨loaded, hl, hh⟩ := Option.bind_eq_some_iff.1 ho
  obtain ⟨g, hres, hj, hn⟩ := dispatch_of_hop hr (Bool.and_eq_true_iff.1 hpeer).1
    (hpeer.symm ▸ Payload.ok_of_toOption hh)
  rw [exchange_of_loaded h (Payload.ok_of_toOption hl)]
  dsimp only
  rw [hres, hj, hn]
  refine ⟨rfl, fun f hc => ?_, fun a final hc => ?_⟩
  · rw [hc]
    exact ⟨_, rfl⟩
  · rw [hc]
    rfl

/-! ## Both transports -/

/-- The engine over the same network, with this transport. What reaches the peers is written
down. -/
def recording (t : Transport) (e : HttpEngine ν) : HttpEngine (Recorder ν) :=
  ⟨{ e.config with transport := t }, e.jar, e.clock, ⟨e.network, []⟩⟩

omit [Network ν] in
theorem Ready.recording (h : e.Ready r url wire fields) (t : Transport) :
    (e.recording t).Ready r url wire fields := ⟨h.url_eq, h.wire_eq, h.fields_eq⟩

/-- A request with a URL and headers that have a place on the wire. -/
theorem stops_or_reaches (hr : e.config.retries = 0) (hu : r.url = some url)
    (hw : r.headers.toWire = .ok wire) :
    (∀ t, Stopped (e.recording t) url ((e.recording t).exchange r)) ∨
      ∃ fields, e.Ready r url wire fields ∧ e.Reaches url := by
  cases hf : e.fields r url wire with
  | error f => exact .inl fun t => stopped_of_unfielded hu hw hf
  | ok fields =>
    by_cases hpeer : e.Reaches url
    · exact .inr ⟨fields, ⟨hu, hw, hf⟩, hpeer⟩
    · have h : e.Ready r url wire fields := ⟨hu, hw, hf⟩
      exact .inl fun t => stopped_of_unreached hr (h.recording t) hpeer

theorem received_of_opened (hr : e.config.retries = 0) (h : e.Ready r url wire fields)
    (hpeer : e.Reaches url) {t : Transport}
    (ho : opening? t r (withoutCredential url) fields = some hop) :
    ∃ rest, ((e.recording t).exchange r).2.network.received = hop.toWire e.clock e.jar :: rest := by
  have hsent := sent_of_opened (e := e.recording t) hr (h.recording t) hpeer ho
  have hurl : Network.reaches e.network hop.url = true := by
    rw [(opening?_spec ho).2.1]
    exact (Bool.and_eq_true_iff.1 hpeer).2
  obtain ⟨rest, hrest⟩ := received_follow e.clock e.config.maxRedirects hop e.jar
    (⟨e.network, []⟩ : Recorder ν) hurl
  refine ⟨rest, ?_⟩
  rw [hsent.engine]
  exact hrest.symm

/-- Nothing reaches a peer, or the first request does. -/
theorem received_cases (hr : e.config.retries = 0) (r : Request) (t : Transport) :
    ((e.recording t).exchange r).2.network.received = [] ∨
      ∃ url wire fields hop rest, e.Ready r url wire fields ∧ e.Reaches url ∧
        opening? t r (withoutCredential url) fields = some hop ∧
        ((e.recording t).exchange r).2.network.received = hop.toWire e.clock e.jar :: rest := by
  cases hu : r.url with
  | none => exact .inl (by rw [exchange_of_unlocated hu]; rfl)
  | some url =>
    cases hw : r.headers.toWire with
    | crash c => exact .inl (by rw [exchange_of_crowded hu hw]; rfl)
    | error f => exact .inl (by rw [exchange_of_unwired hu hw]; rfl)
    | ok wire =>
      rcases stops_or_reaches hr hu hw with hstop | ⟨fields, h, hpeer⟩
      · exact .inl (by rw [(hstop t).engine]; rfl)
      · cases ho : opening? t r (withoutCredential url) fields with
        | none =>
          have hstop := stopped_of_unopened (h.recording t) hpeer ho
          exact .inl (by rw [hstop.engine]; rfl)
        | some hop =>
          obtain ⟨rest, hrest⟩ := received_of_opened hr h hpeer ho
          exact .inr ⟨url, wire, fields, hop, rest, h, hpeer, ho, hrest⟩

/-- **What reaches a peer first** is the request. -/
theorem delivers_first (hr : e.config.retries = 0) (r : Request) (t : Transport) :
    ∀ w ∈ ((e.recording t).exchange r).2.network.received.head?, Delivers r w := by
  rcases received_cases hr r t with h | ⟨url, wire, fields, hop, rest, h, -, ho, hrest⟩
  · rw [h]
    rintro w ⟨⟩
  · rw [hrest]
    rintro w ⟨⟩
    exact delivers_toWire h ho e.clock e.jar

/-- **What reaches a peer first** has the body as the transport takes it, if only the body tells where
it ends. -/
theorem carries_first (hr : e.config.retries = 0) (hp : Plain e r) (t : Transport) :
    ∀ w ∈ ((e.recording t).exchange r).2.network.received.head?, Carries t r w := by
  rcases received_cases hr r t with h | ⟨url, wire, fields, hop, rest, h, -, ho, hrest⟩
  · rw [h]
    rintro w ⟨⟩
  · rw [hrest]
    rintro w ⟨⟩
    exact carries_toWire hp h ho e.clock e.jar

/-- A request is sent exactly if it has what it takes and its body gets through. -/
theorem sent_iff (hr : e.config.retries = 0) (hp : Plain e r) (t : Transport) :
    ((e.recording t).exchange r).2.network.received ≠ [] ↔
      (∃ url wire fields, e.Ready r url wire fields ∧ e.Reaches url) ∧
        ∀ p, r.body = some p → (p.uploaded? t).isSome := by
  constructor
  · intro hne
    rcases received_cases hr r t with h | ⟨url, wire, fields, hop, rest, h, hpeer, ho, -⟩
    · exact absurd h hne
    · have hsome : (opening? t r (withoutCredential url) fields).isSome := by rw [ho]; rfl
      exact ⟨⟨url, wire, fields, h, hpeer⟩, (isSome_opening? (hp.selfFramed h)).1 hsome⟩
  · rintro ⟨⟨url, wire, fields, h, hpeer⟩, htaken⟩
    obtain ⟨hop, ho⟩ := Option.isSome_iff_exists.1 ((isSome_opening? (hp.selfFramed h)).2 htaken)
    obtain ⟨rest, hrest⟩ := received_of_opened hr h hpeer ho
    rw [hrest]
    exact List.cons_ne_nil _ _

/-- **A body that does not get through** is a failure of the transport, and nothing is sent. -/
theorem stopped_of_untaken (hr : e.config.retries = 0) (hplain : Plain e r) (hu : r.url = some url)
    (hw : r.headers.toWire = .ok wire) {p : Payload} (hp : r.body = some p) {t : Transport}
    (ht : p.uploaded? t = none) :
    Stopped (e.recording t) url ((e.recording t).exchange r) := by
  rcases stops_or_reaches hr hu hw with hstop | ⟨fields, h, hpeer⟩
  · exact hstop t
  · refine stopped_of_unopened (h.recording t) hpeer ?_
    show opening? t r (withoutCredential url) fields = none
    rw [opening?_of_selfFramed (hplain.selfFramed h), hp]
    dsimp only
    rw [ht]
    rfl

/-- The transport fails for both, or both have the same response. -/
inductive AlikeOutcome :
    Outcome (Response ChunkReader) → Outcome (Response ChunkReader) → Prop
  | transport (url : String) (cause cause' : Cause) :
    AlikeOutcome (.error (.transport url cause)) (.error (.transport url cause'))
  | response {p q : Response ChunkReader} (h : p.Alike q) : AlikeOutcome (.ok p) (.ok q)

/-- Both exchanges ended alike, and the same reached the peers. -/
structure Agreed (x y : Outcome (Response ChunkReader) × HttpEngine (Recorder ν)) : Prop where
  outcome : AlikeOutcome x.1 y.1
  jar : x.2.jar = y.2.jar
  network : x.2.network.Alike y.2.network

/-- The transports can be compared. There is nothing wrong with the request, only its body tells where
it ends, and if there is a peer, both transports take the body or none does. The peers answer the
same to both ways of an upload, and do not ask for the body again in their first answer. -/
structure Comparable (e : HttpEngine ν) (r : Request) : Prop where
  plain : Plain e r
  located : r.url.isSome
  wired : ∃ wire, r.headers.toWire = .ok wire
  taken : ∀ p url, r.body = some p → r.url = some url → e.Reaches url →
    (p.uploaded? .streaming).isSome = (p.uploaded? .buffering).isSome
  peers : ∀ p b c, r.body = some p → p.uploaded? .streaming = some b →
    p.uploaded? .buffering = some c → ∀ w : WireRequest,
      Network.send e.network { w with framing := framingOf p b .streaming, body := b } =
        Network.send e.network { w with framing := framingOf p c .buffering, body := c }
  once : ∀ p url w a, r.body = some p → r.url = some url → w.method = r.method →
    (Network.send e.network w).1 = some a → ¬ AsksAgain r.method (withoutCredential url) a

omit [Network ν] in
theorem agreed_of_stopped {x y : Outcome (Response ChunkReader) × HttpEngine (Recorder ν)}
    (hx : Stopped (e.recording .streaming) url x) (hy : Stopped (e.recording .buffering) url y) :
    Agreed x y := by
  obtain ⟨x, x'⟩ := x
  obtain ⟨y, y'⟩ := y
  obtain ⟨⟨cause, rfl⟩, rfl⟩ := hx
  obtain ⟨⟨cause', rfl⟩, rfl⟩ := hy
  exact ⟨.transport _ cause cause', rfl, rfl, .nil⟩

omit [Network ν] in
/-- Exchanges end alike if their chains do. -/
theorem agreed_of_sent {t t' : Transport} {c c' : Chain (Recorder ν)}
    {x y : Outcome (Response ChunkReader) × HttpEngine (Recorder ν)}
    (hx : Sent (e.recording t) r url c x) (hy : Sent (e.recording t') r url c' y)
    (h : c.Alike c') : Agreed x y := by
  refine ⟨?_, ?_, ?_⟩
  · cases hc : c.result with
    | error f =>
      obtain ⟨cause, hx⟩ := hx.failed f hc
      obtain ⟨cause', hy⟩ := hy.failed f (h.result ▸ hc)
      rw [hx, hy]
      exact .transport _ cause cause'
    | ok answer =>
      obtain ⟨a, final⟩ := answer
      rw [hx.answered a final hc, hy.answered a final (h.result ▸ hc)]
      exact .response (responseOf_alike ..)
  · rw [hx.engine, hy.engine]
    exact h.jar
  · rw [hx.engine, hy.engine]
    exact h.network

/-- Both transports send a first request, or none does. -/
theorem openings (h : Comparable e r) (hready : e.Ready r url wire fields)
    (hpeer : e.Reaches url) :
    opening? .streaming r (withoutCredential url) fields = none ∧
        opening? .buffering r (withoutCredential url) fields = none ∨
      ∃ hop hop', opening? .streaming r (withoutCredential url) fields = some hop ∧
        opening? .buffering r (withoutCredential url) fields = some hop' ∧
        Hop.Twins e.clock e.jar e.network hop hop' := by
  rw [opening?_of_selfFramed (h.plain.selfFramed hready),
    opening?_of_selfFramed (h.plain.selfFramed hready)]
  cases hp : r.body with
  | none =>
    have halike : Hop.Alike ⟨r.method, withoutCredential url, fields, .none, none, true⟩
        ⟨r.method, withoutCredential url, fields, .none, none, true⟩ := ⟨rfl, rfl, fun _ => rfl⟩
    exact .inr ⟨_, _, rfl, rfl, halike.twins rfl _⟩
  | some p =>
    have htaken := h.taken p url hp hready.url_eq hpeer
    dsimp only
    cases hb : p.uploaded? .streaming with
    | none =>
      rw [hb] at htaken
      have hc : p.uploaded? .buffering = none :=
        Option.isNone_iff_eq_none.1 (Option.isSome_eq_false_iff.1 htaken.symm)
      rw [hc]
      exact .inl ⟨rfl, rfl⟩
    | some b =>
      rw [hb] at htaken
      obtain ⟨c, hc⟩ := Option.isSome_iff_exists.1 htaken.symm
      rw [hc]
      let hop : Hop := ⟨r.method, withoutCredential url, fields, framingOf p b .streaming, some b,
        false⟩
      refine .inr ⟨hop, _, rfl, rfl, ⟨rfl, rfl, nofun⟩, ?_, fun _ a ha => ?_⟩
      · exact h.peers p b c hp hb hc (hop.toWire e.clock e.jar)
      · exact h.once p url _ a hp hready.url_eq rfl ha

/-- **Both transports** fail, or the same reaches the peers and the same comes back. -/
theorem agreed_of_comparable (hr : e.config.retries = 0) (h : Comparable e r) :
    Agreed ((e.recording .streaming).exchange r) ((e.recording .buffering).exchange r) := by
  obtain ⟨url, hu⟩ := Option.isSome_iff_exists.1 h.located
  obtain ⟨wire, hw⟩ := h.wired
  rcases stops_or_reaches hr hu hw with hstop | ⟨fields, hready, hpeer⟩
  · exact agreed_of_stopped (hstop .streaming) (hstop .buffering)
  · rcases openings h hready hpeer with ⟨ho, ho'⟩ | ⟨hop, hop', ho, ho', htwins⟩
    · exact agreed_of_stopped (stopped_of_unopened (hready.recording _) hpeer ho)
        (stopped_of_unopened (hready.recording _) hpeer ho')
    · exact agreed_of_sent (sent_of_opened hr (hready.recording _) hpeer ho)
        (sent_of_opened hr (hready.recording _) hpeer ho')
        (follow_alike _ ⟨rfl, .nil⟩ htwins)

/-- **What is wrong** with a request is wrong for both transports. -/
theorem refused (h : r.url = none ∨ ∃ f, r.headers.toWire = .error f) :
    ∃ f, ∀ t, (e.recording t).exchange r = (.error (.config f), e.recording t) := by
  cases hu : r.url with
  | none => exact ⟨_, fun t => exchange_of_unlocated hu⟩
  | some url =>
    rcases h with hnone | ⟨f, hw⟩
    · rw [hu] at hnone
      cases hnone
    · rcases r.headers.toWire_cases with ⟨w, hw'⟩ | ⟨f', hw'⟩ | ⟨-, hw'⟩
      · rw [hw] at hw'
        cases hw'
      · exact ⟨f', fun t => exchange_of_unwired hu hw'⟩
      · rw [hw] at hw'
        cases hw'

/-- An exchange crashes with its header list only. -/
theorem exchange_ne_crash (hs : ¬ r.headers.Overflows) (c : Crash) :
    (e.exchange r).1 ≠ .crash c := by
  cases hu : r.url with
  | none =>
    rw [exchange_of_unlocated hu]
    nofun
  | some url =>
    rcases r.headers.toWire_cases with ⟨wire, hw⟩ | ⟨f, hw⟩ | ⟨hover, -⟩
    · cases hf : e.fields r url wire with
      | error f =>
        obtain ⟨cause, hx⟩ := (stopped_of_unfielded hu hw hf).outcome
        rw [hx]
        nofun
      | ok fields =>
        cases hl : load e.config.transport r.body with
        | error f =>
          obtain ⟨cause, hx⟩ := (stopped_of_unloaded hu hw hl).outcome
          rw [hx]
          nofun
        | ok loaded =>
          rw [exchange_of_loaded ⟨hu, hw, hf⟩ hl]
          dsimp only
          cases (e.dispatch r.method (withoutCredential url) fields loaded).result <;> nofun
    · rw [exchange_of_unwired hu hw]
      nofun
    · exact absurd hover hs

/-- What the transports have in common, and where the body makes a difference. -/
structure Common (e : HttpEngine ν) (r : Request) : Prop where
  returns : ∀ t c, (Engine.exchange (e.recording t) r).1 ≠ .crash c
  refused : (r.url = none ∨ ∃ f, r.headers.toWire = .error f) → ∃ f, ∀ t,
    Engine.exchange (e.recording t) r = (.error (.config f), e.recording t)
  delivers : ∀ t, ∀ w ∈ (Engine.exchange (e.recording t) r).2.network.received.head?,
    Delivers r w
  carries : Plain e r → ∀ t,
    ∀ w ∈ (Engine.exchange (e.recording t) r).2.network.received.head?, Carries t r w
  sent : Plain e r → ∀ t, (Engine.exchange (e.recording t) r).2.network.received ≠ [] ↔
    (∃ url wire fields, e.Ready r url wire fields ∧ e.Reaches url) ∧
      ∀ p, r.body = some p → (p.uploaded? t).isSome
  stopped : Plain e r → ∀ t url wire p, r.url = some url → r.headers.toWire = .ok wire →
    r.body = some p → p.uploaded? t = none →
      Stopped (e.recording t) url (Engine.exchange (e.recording t) r)
  buffered : ∀ p s, r.body = some p → p.openReader.1 = .ok s → ¬ s.Fails →
    p.uploaded? .buffering = some s.contents
  streamed : ∀ p s, r.body = some p → p.openReader.1 = .ok s → s.faults = [] →
    p.uploaded? .streaming =
      match p.contentLength? with
      | none => some s.contents
      | some n => if n ≤ s.contents.length then some (s.contents.take n) else none
  honest : ∀ p, r.body = some p → p.Honest → p.uploaded? .streaming = p.uploaded? .buffering
  agreed : Comparable e r →
    Agreed (Engine.exchange (e.recording .streaming) r)
      (Engine.exchange (e.recording .buffering) r)

/-- Peers that give these answers, whatever they are asked. -/
structure Answering where
  answers : List WireAnswer
  deriving Repr, DecidableEq

instance : Network Answering where
  reaches _ _ := true
  send n _ := (n.answers.head?, ⟨n.answers.tail⟩)

/-- An engine whose peers give answers with these statuses, which lead to another path if they are
redirections. -/
def answering (statuses : List Nat) : HttpEngine Answering :=
  ⟨⟨.streaming, 10, 0, .empty⟩, [], ⟨0⟩,
    ⟨statuses.map fun s => ⟨s, ⟨[("location", [Text.Utf8.encode "/b"])]⟩, [], false⟩⟩⟩

/-- A request that posts three bytes of this declared length. -/
def posting (length : Nat) : Request where
  url := some ⟨"http", "", none, some (.ipv6 [0, 0, 0, 0, 0, 0, 0, 1]), none, .segments ["a"], none,
    none⟩
  method := ⟨"POST"⟩
  headers := ∅
  body := some (.reader ⟨some [.bytes [97, 98], .bytes [99]], some length, some "text/plain"⟩)

/-- What reaches the peers of bodies. -/
def posted (t : Transport) (r : Request) (statuses : List Nat) : List Bytes :=
  (Engine.exchange ((answering statuses).recording t) r).2.network.received.map (·.body)

/-- A request for a tunnel, with a body of unknown length. -/
def tunnelling : Request :=
  { posting 3 with
    method := ⟨"CONNECT"⟩
    body := some (.reader ⟨some [.bytes [97, 98], .bytes [99]], none, none⟩) }

end HttpEngine

end Refetch
