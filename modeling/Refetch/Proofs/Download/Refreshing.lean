import Mathlib.Logic.Relation
import Refetch.Proofs.Download.Deciding
import Refetch.Proofs.Download.Filing
import Refetch.Proofs.Download.Requesting
import Refetch.Proofs.Download.Validators
import Refetch.Proofs.Header.Wired
import Refetch.Proofs.Time.Moments
/-!
# Refreshing

After a download the destination shows the validators of the response. A run that meets the same
response again asks with them, finds the copy current and leaves it alone.

1. In memory and in files, a download shows what the headers of its response say
   (`shows_in_memory`, `shows_in_file`).
2. The next request differs from the one that was sent in its conditions alone. So it can be sent if
   it is short enough and its tags have a place on the wire (`wired_requestHeaders`).
3. Then the action is `Settled`. A run of it that meets the response is `Refreshed`, and leaves it
   settled.

The tags need a word of their own. A stored tag stands in for configured ones, which are not looked at
as long as it does, and a tag left beside a missing file is asked with once the file is there.
-/

namespace Refetch.Download

variable {ρ σ ε : Type} [Source ρ] [Dest σ] [Engine ε ρ]
variable {c : Config} {x y : Action σ} {d d' : σ} {e : ε} {a : Answer ρ} {response : Response ρ}
  {headers : HeaderList} {t : Timestamp}

/-! ## What is shown after a download -/

theorem remoteTag_eq_some_iff {tag : String} : c.remoteTag headers = some tag ↔
    c.useEtag = true ∧ headers.get? "etag" = some tag := by
  rw [Config.remoteTag, Option.ite_none_right_eq_some]

/-- The destination shows the validators that the headers of a response have. -/
structure Shows (c : Config) (headers : HeaderList) (d : σ) : Prop where
  time : ∀ t, c.remoteTime headers = some t → Dest.lastModified d = some t
  tag : ∀ tag, c.remoteTag headers = some tag → Dest.etag d = some tag

theorem shows_in_memory {d d' : MemoryDest} {s : Summary} (ha : c.answer? d e = some a)
    (hs : (run c (some d) e).outcome = .ok s) (hst : s.status = .downloaded)
    (hd : (run c (some d) e).dest = some d') : Shows c a.response.headers d' := by
  obtain ⟨d₁, hp⟩ := postState_run (d := d) c trivial e
  obtain rfl : d₁ = d' := Option.some.inj (hp.dest.symm.trans hd)
  obtain ⟨a', ha', -, htag, htime⟩ := hp.downloaded s hs hst
  obtain rfl : a = a' := Option.some.inj (ha.symm.trans ha')
  constructor
  · intro t ht
    rw [ht] at htime
    exact htime
  · intro tag ht
    rw [ht] at htag
    exact htag

theorem shows_in_file {d d' : OnDisk} {s : Summary} (h : d.Sound) (ha : c.answer? d e = some a)
    (hs : (run c (some d) e).outcome = .ok s) (hst : s.status = .downloaded)
    (hd : (run c (some d) e).dest = some d') : Shows c a.response.headers d' := by
  obtain ⟨a', body, n, hatt, hn, hcomp, hpers, -⟩ := stored_of_downloaded hs hst
  obtain rfl : a = a' := Option.some.inj (ha.symm.trans (attempt?_eq_some_iff.1 hatt).1)
  obtain rfl := Option.some.inj ((run_of_stored hatt hn hcomp).1.symm.trans hd)
  obtain ⟨hi, r, -, -, -, hk⟩ := kept_of_stored (ρ := ρ) h hn hcomp
  obtain ⟨locs, hm⟩ := moved_persist (attemptedCompletion c a body d).2
    (c.remoteTime a.response.headers) (c.remoteTag a.response.headers)
  have hpl := (placed_of_stored h hn hcomp).1.of_moved hm
  have hkept := (kept_persist hi (c.remoteTime a.response.headers)
    (c.remoteTag a.response.headers)).2.2.1 hpers
  constructor
  · intro t ht
    rw [ht] at hkept hpl ⊢
    exact hpl.lastModified (congrArg Kept.time hkept)
  · intro tag ht
    rw [ht] at hpers hkept hpl ⊢
    exact hpl.etag (tagPlaced_of_persist hpers)
      ((congrArg Kept.data hkept).trans (congrArg Kept.data hk)) (congrArg Kept.tag hkept)

/-! ## The next request -/

open HeaderList (Wired) in
/-- **Other conditions** do not take a request off the wire if they have a place there. -/
theorem wired_requestHeaders {tag date tag' date' : Option String}
    (h : ∀ e ∈ (c.requestHeaders tag date).entries, Wired e)
    (ht : ∀ v ∈ (c.requestHeaders tag' date').getAll ifNoneMatch,
      isHeaderValue (Text.Utf8.encode v) = true)
    (hd : ∀ v ∈ (c.requestHeaders tag' date').getAll ifModifiedSince,
      isHeaderValue (Text.Utf8.encode v) = true) :
    ∀ e ∈ (c.requestHeaders tag' date').entries, Wired e := by
  intro e he
  have mem {name : String} (hn : HeaderList.named name e = true) :
      e.2 ∈ (c.requestHeaders tag' date').getAll name :=
    List.mem_map_of_mem (List.mem_filter.2 ⟨he, hn⟩)
  by_cases h1 : HeaderList.named ifNoneMatch e = true
  · exact ⟨isHeaderName_of_sameName h1 (by decide), ht _ (mem h1)⟩
  by_cases h2 : HeaderList.named ifModifiedSince e = true
  · exact ⟨isHeaderName_of_sameName h2 (by decide), hd _ (mem h2)⟩
  -- the entry is no condition, so the first request had it, too
  let p (e : String × String) : Bool :=
    !(HeaderList.named ifNoneMatch e || HeaderList.named ifModifiedSince e)
  have hp : p e = true := by simp [p, h1, h2]
  have hf := filter_requestHeaders_unconditional (p := p) (by simp +contextual [p])
    (by simp +contextual [p]) c
  have hm : e ∈ (c.requestHeaders tag date).entries.filter p := by
    rw [hf, ← hf tag' date']
    exact List.mem_filter.2 ⟨he, hp⟩
  exact h e (List.mem_filter.1 hm).1

/-- The request that comes after a download can be sent. -/
structure Resendable (c : Config) (d d' : σ) (headers : HeaderList) : Prop where
  fits : ∀ date, ¬ (c.requestHeaders (c.conditionTag d') (some date)).Overflows
  /-- The tags are those that were sent, or the one that was received, or have a place on the wire. -/
  tags : c.conditionTag d' = c.conditionTag d ∨
    (∃ tag, c.remoteTag headers = some tag ∧ Text.trim tag ≠ "") ∨
    ∀ date, ∀ v ∈ (c.requestHeaders (c.conditionTag d') date).getAll ifNoneMatch,
      isHeaderValue (Text.Utf8.encode v) = true

/-- The tags of the next request have a place on the wire. -/
theorem Resendable.valid (h : Resendable c d d' headers) (hs : Shows c headers d')
    (hv : ∀ e ∈ headers.entries, isHeaderValue (Text.Utf8.encode e.2) = true) {date : Option String}
    (hw : ∀ e ∈ (c.requestHeaders (c.conditionTag d) date).entries, HeaderList.Wired e)
    (date' : Option String) :
    ∀ v ∈ (c.requestHeaders (c.conditionTag d') date').getAll ifNoneMatch,
      isHeaderValue (Text.Utf8.encode v) = true := by
  rcases h.tags with hsame | ⟨tag, htag, hne⟩ | h
  · intro v hm
    rw [hsame, getAll_requestHeaders_tag, ← getAll_requestHeaders_tag c _ date] at hm
    obtain ⟨e, he, rfl⟩ := List.mem_map.1 hm
    exact (hw e (List.mem_filter.1 he).1).value
  · obtain ⟨huse, hget⟩ := remoteTag_eq_some_iff.1 htag
    rw [getAll_requestHeaders_tag, conditionTag_of_shown huse (hs.tag tag htag) hne]
    intro v hm
    obtain rfl : v = Text.trim tag := by simpa using hm
    obtain ⟨e, he, rfl⟩ := Option.map_eq_some_iff.1 hget
    exact isHeaderValue_trim (hv e (List.mem_of_find?_eq_some he))
  · exact h date'

/-! ## Runs that meet a response -/

/-- Whatever request a run of the action sends is answered with the response. -/
def Action.Meets (x : Action σ) (e : ε) (response : Response ρ) : Prop :=
  ∀ q, .executed q ∈ (x.execute e).1.events → (Engine.exchange e q).1 = .ok response

variable (ε) in
/-- One run that meets the response leads from the first action to the second. -/
def Action.Again (response : Response ρ) (x y : Action σ) : Prop :=
  ∃ e : ε, x.Meets e response ∧ (x.execute e).2 = y

theorem execute_fst (hd : x.dest = some d) (e : ε) :
    (x.execute e).1 = run x.config (some d) e := by
  rw [Action.execute, hd]

theorem execute_snd (hd : x.dest = some d) (e : ε) : (x.execute e).2 =
    { x with
      dest := (run x.config (some d) e).dest
      upToDate := (run x.config (some d) e).foundCurrent } := by
  rw [Action.execute, hd]

/-- A run that gets a response meets this one. -/
theorem meets_iff_of_answered (hd : x.dest = some d) (ha : x.config.answer? d e = some a) :
    x.Meets e response ↔ a.response = response := by
  obtain ⟨hk, hx⟩ := answer?_eq_some_iff.1 ha
  rw [Action.Meets, execute_fst hd]
  constructor
  · intro h
    exact Outcome.ok.inj (hx.symm.trans (h _ (executed_mem_run_iff.2 ⟨_, _, hk, rfl⟩)))
  · rintro rfl q hq
    obtain ⟨url, p, hk', rfl⟩ := executed_mem_run_iff.1 hq
    rw [hk] at hk'
    cases hk'
    exact hx

theorem config_of_again (h : Relation.ReflTransGen (Action.Again ε response) x y) :
    y.config = x.config := by
  induction h with
  | refl => rfl
  | tail _ ha ih =>
    obtain ⟨e, -, rfl⟩ := ha
    exact ih

/-! ## Downloads -/

/-- A run of an action downloaded a response that tells its time. -/
structure Fetched (x : Action σ) (d : σ) (e : ε) (response : Response ρ) (t : Timestamp)
    (d' : σ) : Prop where
  dest : x.dest = some d
  timed : x.config.onlyIfModified = true
  meets : x.Meets e response
  valid : ∀ h ∈ response.headers.entries, isHeaderValue (Text.Utf8.encode h.2) = true
  time : ∃ value, response.headers.First "last-modified" value ∧ HttpDate.parse? value = some t
  downloaded : ∃ s, (x.execute e).1.outcome = .ok s ∧ s.status = .downloaded
  left : (x.execute e).2.dest = some d'

/-- The action has a copy of the response, and can ask for it once more. -/
structure Settled (x : Action σ) (d : σ) (response : Response ρ) (t : Timestamp) : Prop where
  dest : x.dest = some d
  timed : x.config.onlyIfModified = true
  url : ∃ text url, x.config.url = some text ∧ Url.parse text = .ok url
  accepted : Accepted response.status
  time : x.config.remoteTime response.headers = some t
  shows : Shows x.config response.headers d
  date : ∃ date, HttpDate.format t = .ok date ∧
    ∃ w, (x.config.requestHeaders (x.config.conditionTag d) (some date)).toWire = .ok w

omit [Source ρ] in
theorem accepted_of_taken {body : ReaderBody ρ} (ha : c.answer? d e = some a)
    (hb : c.body? a = some body) : Accepted a.response.status := by
  by_contra hn
  have hj := ((body?_eq_some_iff ha).1 hb).1
  rw [judge_of_rejected hn] at hj
  cases hj

namespace Fetched

variable (h : Fetched x d e response t d')
include h

theorem answered : ∃ a s, x.config.answer? d e = some a ∧ a.response = response ∧
    Accepted response.status ∧ (run x.config (some d) e).outcome = .ok s ∧
    s.status = .downloaded ∧ (run x.config (some d) e).dest = some d' := by
  obtain ⟨s, hs, hst⟩ := h.downloaded
  have hl := h.left
  rw [execute_fst h.dest] at hs
  rw [execute_snd h.dest] at hl
  obtain ⟨a, body, n, hatt, -⟩ := stored_of_downloaded hs hst
  obtain ⟨ha, hb, -⟩ := attempt?_eq_some_iff.1 hatt
  have hr := (meets_iff_of_answered h.dest ha).1 h.meets
  exact ⟨a, s, ha, hr, hr ▸ accepted_of_taken ha hb, hs, hst, hl⟩

/-- **A download settles** the action if the next request can be sent. -/
theorem settled (hr : Resendable x.config d d' response.headers)
    (hs : Shows x.config response.headers d') : Settled (x.execute e).2 d' response t := by
  obtain ⟨a, -, ha, -, haccepted, -⟩ := h.answered
  obtain ⟨value, hfirst, hparse⟩ := h.time
  obtain ⟨date, wire, -, hwire, -⟩ :=
    prepare_eq_ok_iff.1 (prepare_of_asked (answer?_eq_some_iff.1 ha).1)
  have hwired := (HeaderList.exists_toWire_iff.1 ⟨wire, hwire⟩).2
  obtain ⟨date', hdate⟩ := HttpDate.format_of_parse? hparse
  have htime : x.config.remoteTime response.headers = some t := by
    rw [Config.remoteTime, if_pos h.timed, HeaderList.get?_eq_some_iff.2 hfirst]
    exact hparse
  refine ⟨h.left, h.timed, (url_of_answered ha).imp fun _ hu => ⟨a.url, hu⟩, haccepted, htime, hs,
    date', hdate, HeaderList.exists_toWire_iff.2 ⟨hr.fits date', ?_⟩⟩
  refine wired_requestHeaders hwired (hr.valid hs h.valid hwired (some date')) ?_
  rw [getAll_requestHeaders_time]
  intro v hm
  obtain rfl : v = date' := by simpa using hm
  exact isHeaderValue_of_plain (HttpDate.isPlain_of_format hdate)

end Fetched

/-! ## Further runs -/

/-- A run found the copy of a response current. -/
structure Refreshed (x : Action σ) (e : ε) (headers : HeaderList) (t : Timestamp) : Prop where
  upToDate : ∃ s, (x.execute e).1.outcome = .ok s ∧ s.status = .upToDate
  /-- It asked with the validators of the response. -/
  asked : ∃ q date, .executed q ∈ (x.execute e).1.events ∧ HttpDate.format t = .ok date ∧
    q.headers.getAll ifModifiedSince = [date] ∧
    ∀ tag, x.config.remoteTag headers = some tag → Text.trim tag ≠ "" →
      q.headers.getAll ifNoneMatch = [Text.trim tag]
  unopened : .sinkOpened ∉ (x.execute e).1.events
  /-- The destination is as it was. -/
  left : (x.execute e).2 = { x with upToDate := true }

variable (ε) in
/-- However often the action is run again, it has the copy and finds it current whenever it meets
the response. -/
def Action.StaysFresh (x : Action σ) (d : σ) (response : Response ρ) (t : Timestamp) : Prop :=
  ∀ y, Relation.ReflTransGen (Action.Again ε response) x y →
    y.config = x.config ∧ y.dest = some d ∧
      ∀ e : ε, y.Meets e response → Refreshed y e response.headers t

namespace Settled

variable (h : Settled x d response t)
include h

omit [Source ρ] in
/-- A settled action sends its request, with the validators of the response. -/
theorem asked : ∃ url p date, x.config.asked? d = some (url, p) ∧ HttpDate.format t = .ok date ∧
    p.request.headers.getAll ifModifiedSince = [date] ∧
    ∀ tag, x.config.remoteTag response.headers = some tag → Text.trim tag ≠ "" →
      p.request.headers.getAll ifNoneMatch = [Text.trim tag] := by
  obtain ⟨text, url, htext, hurl⟩ := h.url
  obtain ⟨date, hdate, wire, hwire⟩ := h.date
  have ht := conditionTime_eq_some_iff.2 ⟨h.timed, h.shows.time t h.time⟩
  let p : Prepared := ⟨x.config.request url (x.config.conditionTag d) (some date),
    x.config.conditionTime d⟩
  have hp : (prepare x.config url d).2 = .ok p :=
    prepare_eq_ok_iff.2 ⟨some date, wire, by rw [ht, dateOf, hdate], hwire, rfl⟩
  refine ⟨url, p, date, by simp only [Config.asked?, htext, hurl, hp], hdate, ?_, ?_⟩
  · exact getAll_requestHeaders_time ..
  · intro tag htag hne
    obtain ⟨huse, -⟩ := remoteTag_eq_some_iff.1 htag
    show (x.config.requestHeaders (x.config.conditionTag d) (some date)).getAll ifNoneMatch = _
    rw [getAll_requestHeaders_tag, conditionTag_of_shown huse (h.shows.tag tag htag) hne]
    rfl

/-- **A settled action** that meets the response is refreshed. -/
theorem refreshed (hm : x.Meets e response) : Refreshed x e response.headers t := by
  obtain ⟨url, p, date, hask, hdate, hconditions⟩ := h.asked
  have hq : .executed p.request ∈ (x.execute e).1.events := by
    rw [execute_fst h.dest]
    exact executed_mem_run_iff.2 ⟨url, p, hask, rfl⟩
  have ha : x.config.answer? d e = some ⟨url, p, response⟩ :=
    answer?_eq_some_iff.2 ⟨hask, hm _ hq⟩
  have hj : judge response.status (x.config.conditionTime d)
      (x.config.remoteTime response.headers) = .current := by
    refine judge_of_current h.accepted (.inr ?_)
    rw [h.time, conditionTime_eq_some_iff.2 ⟨h.timed, h.shows.time t h.time⟩]
    exact decide_eq_true (le_refl t.nanos)
  have hb : x.config.body? (⟨url, p, response⟩ : Answer ρ) = none := by
    rw [Config.body?, (prepared_of_answered ha).1, hj]
  obtain ⟨hd, hc, -⟩ := run_of_spared ha hb
  have hup := decision_eq_upToDate_iff.1 ((decision_of_answered ha).trans (by rw [hj]))
  refine ⟨by rwa [execute_fst h.dest], ⟨p.request, date, hq, hdate, hconditions⟩, ?_, ?_⟩
  · rw [execute_fst h.dest]
    intro hopen
    have hmem : .sinkOpened ∈ calls (run x.config (some d) e).events :=
      List.mem_filter.2 ⟨hopen, rfl⟩
    rw [hc] at hmem
    simp at hmem
  · rw [execute_snd h.dest, hd, (foundCurrent_run_iff ..).2 hup, h.dest]

/-- An action stays settled from one run that meets the response to the next. -/
theorem again (ha : Action.Again ε response x y) : Settled y d response t := by
  obtain ⟨e, hm, rfl⟩ := ha
  rw [(h.refreshed hm).left]
  exact ⟨h.dest, h.timed, h.url, h.accepted, h.time, h.shows, h.date⟩

theorem staysFresh : x.StaysFresh ε d response t := by
  intro y hr
  have hy : Settled y d response t := by
    induction hr with
    | refl => exact h
    | tail _ ha ih => exact ih.again ha
  exact ⟨config_of_again hr, hy.dest, fun e hm => hy.refreshed hm⟩

end Settled

/-- The headers of a response with a time and a tag. -/
def stampedHeaders (tag : String) : HeaderList :=
  .ofList [("Last-Modified", "Sun, 06 Nov 1994 08:49:37 GMT"), ("ETag", tag)]

/-- Their time. -/
def stamp : Timestamp := .ofSeconds 784111777

/-- An engine whose answer has these headers and one byte. -/
def stamped (tag : String) : ScriptedEngine :=
  ⟨[.answer 200 "OK" (stampedHeaders tag) (.script [.bytes [65]]) none]⟩

theorem first_stampedHeaders (tag : String) : ∃ value,
    (stampedHeaders tag).First "last-modified" value ∧ HttpDate.parse? value = some stamp :=
  ⟨_, ⟨[], "Last-Modified", [("ETag", tag)], rfl, by decide, by simp⟩, by decide +kernel⟩

theorem remoteTime_stamped (h : c.onlyIfModified = true) (tag : String) :
    c.remoteTime (stampedHeaders tag) = some stamp := by
  obtain ⟨value, hf, hp⟩ := first_stampedHeaders tag
  rw [Config.remoteTime, if_pos h, HeaderList.get?_eq_some_iff.2 hf]
  exact hp

theorem remoteTag_stamped (h : c.useEtag = true) (tag : String) :
    c.remoteTag (stampedHeaders tag) = some tag :=
  remoteTag_eq_some_iff.2 ⟨h, HeaderList.get?_eq_some_iff.2
    ⟨[("Last-Modified", "Sun, 06 Nov 1994 08:49:37 GMT")], "ETag", [], rfl, by decide, by decide⟩⟩

/-- The response is downloaded into memory. -/
theorem fetched_stamped {d : MemoryDest} (tag : String) (huse : c.useEtag = true)
    (htimed : c.onlyIfModified = true) (hsum : c.checksum = none)
    (hatt : (c.attempt? d (stamped tag)).map (fun p => (p.1.response.headers, p.2.source)) =
      some (stampedHeaders tag, some [.bytes [65]]))
    (hv : isHeaderValue (Text.Utf8.encode tag) = true) :
    ∃ a d', c.answer? d (stamped tag) = some a ∧ a.response.headers = stampedHeaders tag ∧
      Dest.etag d' = some tag ∧ Dest.lastModified d' = some stamp ∧
      Fetched (Action.new c (some d)) d (stamped tag) a.response stamp d' := by
  obtain ⟨⟨a, body⟩, hatt, hp⟩ := Option.map_eq_some_iff.1 hatt
  obtain ⟨hh, hsrc⟩ := Prod.mk.inj hp
  dsimp only at hh hsrc
  have hf : (Source.readToEnd [Piece.bytes [65]]).failure = none := Script.failure_readToEnd _
  obtain ⟨u, ho, hu⟩ := run_into_memory hatt hsrc hf (fun k hk => by simp [hsum] at hk)
  obtain ⟨d', hd⟩ := postState_run (d := d) c trivial (stamped tag)
  obtain ⟨ha, -⟩ := attempt?_eq_some_iff.1 hatt
  have hs : Shows c (stampedHeaders tag) d' := hh ▸ shows_in_memory ha ho hu hd.dest
  have hx : (Action.new c (some d)).dest = some d := rfl
  refine ⟨a, d', ha, hh, hs.tag tag (remoteTag_stamped huse tag),
    hs.time stamp (remoteTime_stamped htimed tag), hx, htimed,
    (meets_iff_of_answered hx ha).2 rfl, ?_, hh ▸ first_stampedHeaders tag, ⟨u, ho, hu⟩, hd.dest⟩
  rw [hh]
  intro e he
  rcases List.mem_pair.1 he with rfl | rfl
  · decide +kernel
  · exact hv

/-- A configuration that names a tag without a place on the wire. -/
def Config.unwired : Config := Config.validating.addHeader "If-None-Match" "\x01"

end Refetch.Download
