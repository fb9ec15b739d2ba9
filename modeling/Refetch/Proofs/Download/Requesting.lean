import Refetch.Dest.Memory
import Refetch.Engine.Scripted
import Refetch.Proofs.Download.Landmarks
import Refetch.Proofs.Header.Lookup
/-!
# What a request asks with

A request takes the configured headers over and sets three names in them: the two conditions, each
if the destination has something to ask with, and the user agent if none is configured.

1. Each of the names is settled by one step, which the other two leave alone
   (`getAll_requestHeaders_tag`, `getAll_requestHeaders_time`, `getAll_requestHeaders_agent`).
2. The entries of all other names pass through every step (`filter_requestHeaders`).
3. So the request that a run has carried out asks with what the destination shows
   (`asksWith_execute`).
-/

namespace Refetch.Download

/-! ## Setting a name, or not -/

section SetIfSome

variable {h : HeaderList} {name other : String} {p : String × String → Bool}

theorem getAll_setIfSome_self (h : HeaderList) (name : String) (value : Option String) :
    (Config.setIfSome h name value).getAll name =
      (value.map fun v => [v]).getD (h.getAll name) := by
  cases value with
  | none => rfl
  | some v => exact HeaderList.getAll_set_self h name v

theorem getAll_setIfSome_other (hn : sameName name other = false) (h : HeaderList)
    (value : Option String) :
    (Config.setIfSome h name value).getAll other = h.getAll other := by
  cases value with
  | none => rfl
  | some v => exact HeaderList.getAll_set_other hn h v

theorem filter_setIfSome (hp : ∀ e, HeaderList.named name e = true → p e = false)
    (h : HeaderList) (value : Option String) :
    (Config.setIfSome h name value).entries.filter p = h.entries.filter p := by
  cases value with
  | none => rfl
  | some v => exact HeaderList.filter_set hp h v

end SetIfSome

/-! ## The headers of a request -/

/-- The entry carries a name that a run sets. -/
def isManaged (entry : String × String) : Bool :=
  HeaderList.named ifNoneMatch entry || HeaderList.named ifModifiedSince entry ||
    HeaderList.named userAgentName entry

variable {c : Config} {tag date : Option String}

/-- The configured headers with the conditions set. -/
def Config.conditionHeaders (c : Config) (tag date : Option String) : HeaderList :=
  setIfSome (setIfSome c.headers ifNoneMatch tag) ifModifiedSince date

theorem requestHeaders_eq (c : Config) (tag date : Option String) :
    c.requestHeaders tag date = match c.missingUserAgent with
      | some agent => (c.conditionHeaders tag date).add userAgentName agent
      | none => c.conditionHeaders tag date := rfl

/-- The user agent comes after everything that other names have. -/
theorem getAll_requestHeaders_other {name : String} (hn : sameName userAgentName name = false)
    (c : Config) (tag date : Option String) :
    (c.requestHeaders tag date).getAll name = (c.conditionHeaders tag date).getAll name := by
  rw [requestHeaders_eq]
  split
  · rw [HeaderList.getAll_add, hn]
    exact List.append_nil _
  · rfl

theorem getAll_requestHeaders_tag (c : Config) (tag date : Option String) :
    (c.requestHeaders tag date).getAll ifNoneMatch =
      (tag.map fun t => [t]).getD (c.headers.getAll ifNoneMatch) := by
  rw [getAll_requestHeaders_other (by decide), Config.conditionHeaders,
    getAll_setIfSome_other (by decide), getAll_setIfSome_self]

theorem getAll_requestHeaders_time (c : Config) (tag date : Option String) :
    (c.requestHeaders tag date).getAll ifModifiedSince =
      (date.map fun t => [t]).getD (c.headers.getAll ifModifiedSince) := by
  rw [getAll_requestHeaders_other (by decide), Config.conditionHeaders, getAll_setIfSome_self,
    getAll_setIfSome_other (by decide)]

/-- The user agent is added only if none is configured. -/
theorem missingUserAgent_eq (c : Config) : c.missingUserAgent =
    if c.headers.getAll userAgentName = [] then c.userAgent else none := by
  unfold Config.missingUserAgent
  cases hc : c.headers.contains userAgentName with
  | true =>
    rw [if_pos rfl, if_neg]
    intro h
    rw [HeaderList.contains_eq_false_iff.2 h] at hc
    cases hc
  | false => rw [if_neg Bool.false_ne_true, if_pos (HeaderList.contains_eq_false_iff.1 hc)]

theorem getAll_requestHeaders_agent (c : Config) (tag date : Option String) :
    (c.requestHeaders tag date).getAll userAgentName =
      if c.headers.getAll userAgentName = [] then c.userAgent.toList
      else c.headers.getAll userAgentName := by
  have hc : (c.conditionHeaders tag date).getAll userAgentName =
      c.headers.getAll userAgentName := by
    rw [Config.conditionHeaders, getAll_setIfSome_other (by decide),
      getAll_setIfSome_other (by decide)]
  rw [requestHeaders_eq, missingUserAgent_eq]
  by_cases h : c.headers.getAll userAgentName = []
  · rw [if_pos h, if_pos h]
    cases c.userAgent with
    | none =>
      dsimp only
      rw [hc, h]
      rfl
    | some agent =>
      dsimp only
      rw [HeaderList.getAll_add, hc, h, sameName_self]
      rfl
  · rw [if_neg h, if_neg h]
    exact hc

/-- Entries that are no conditions come from the configuration. -/
theorem filter_requestHeaders_unconditional {p : String × String → Bool}
    (htag : ∀ e, HeaderList.named ifNoneMatch e = true → p e = false)
    (htime : ∀ e, HeaderList.named ifModifiedSince e = true → p e = false) (c : Config)
    (tag date : Option String) : (c.requestHeaders tag date).entries.filter p =
      (c.requestHeaders none none).entries.filter p := by
  have hc (tag date : Option String) :
      (c.conditionHeaders tag date).entries.filter p = c.headers.entries.filter p := by
    rw [Config.conditionHeaders, filter_setIfSome htime, filter_setIfSome htag]
  rw [requestHeaders_eq, requestHeaders_eq]
  cases c.missingUserAgent with
  | none => exact (hc tag date).trans (hc none none).symm
  | some agent =>
    dsimp only [HeaderList.add]
    rw [List.filter_append, List.filter_append, hc, hc]

/-- The entries that a run does not set are the configured ones. -/
theorem filter_requestHeaders (c : Config) (tag date : Option String) :
    (c.requestHeaders tag date).entries.filter (fun e => !isManaged e) =
      c.headers.entries.filter (fun e => !isManaged e) := by
  have hagent (agent : String) : (!isManaged (userAgentName, agent)) = false := by
    simp [isManaged, HeaderList.named_self]
  rw [filter_requestHeaders_unconditional (by simp +contextual [isManaged])
    (by simp +contextual [isManaged]), requestHeaders_eq]
  split
  · rw [HeaderList.add, List.filter_append, List.filter_singleton, hagent]
    exact List.append_nil _
  · rfl

/-! ## What the destination shows -/

variable {σ ε ρ : Type} [Dest σ] {d : σ}

/-- A stored tag is asked with, unless it is blank. -/
theorem conditionTag_of_shown {t : String} (hc : c.useEtag = true) (hs : Dest.etag d = some t)
    (ht : Text.trim t ≠ "") : c.conditionTag d = some (Text.trim t) := by
  simp [Config.conditionTag, hc, hs, ht]

theorem conditionTag_of_blank
    (h : ∀ t, c.useEtag = true → Dest.etag d = some t → Text.trim t = "") :
    c.conditionTag d = none := by
  unfold Config.conditionTag
  split
  · rw [Option.filter_eq_none_iff]
    intro tag htag
    obtain ⟨t, ht, rfl⟩ := Option.map_eq_some_iff.1 htag
    simp [h t ‹_› ht]
  · rfl

theorem conditionTime_of_unknown (h : c.onlyIfModified = true → Dest.lastModified d = none) :
    c.conditionTime d = none := by
  unfold Config.conditionTime
  split
  · exact h ‹_›
  · rfl

/-- A time that is asked with has a date. -/
theorem format_of_dateOf {t : Timestamp} {date : Option String}
    (h : dateOf (some t) = .ok date) : ∃ text, HttpDate.format t = .ok text ∧ date = some text := by
  unfold dateOf at h
  dsimp only at h
  split at h <;> cases h
  exact ⟨_, ‹_›, rfl⟩

/-! ## Requests of runs -/

/-- The headers ask with what a configuration and a destination have to ask with. -/
structure AsksWith (c : Config) (d : σ) (h : HeaderList) : Prop where
  /-- A stored tag takes the place of every configured one, without blanks around it. -/
  tag : ∀ t, c.useEtag = true → Dest.etag d = some t → Text.trim t ≠ "" →
    h.getAll ifNoneMatch = [Text.trim t]
  noTag : (∀ t, c.useEtag = true → Dest.etag d = some t → Text.trim t = "") →
    h.getAll ifNoneMatch = c.headers.getAll ifNoneMatch
  /-- The date of a stored time takes the place of every configured one. -/
  time : ∀ t, c.onlyIfModified = true → Dest.lastModified d = some t →
    ∃ date, HttpDate.format t = .ok date ∧ h.getAll ifModifiedSince = [date]
  noTime : (c.onlyIfModified = true → Dest.lastModified d = none) →
    h.getAll ifModifiedSince = c.headers.getAll ifModifiedSince
  /-- The headers know better than the configuration which user agent it is. -/
  agent : h.getAll userAgentName = if c.headers.getAll userAgentName = [] then
    c.userAgent.toList else c.headers.getAll userAgentName
  others : h.entries.filter (fun e => !isManaged e) =
    c.headers.entries.filter (fun e => !isManaged e)

theorem asksWith_requestHeaders {date : Option String}
    (hd : dateOf (c.conditionTime d) = .ok date) :
    AsksWith c d (c.requestHeaders (c.conditionTag d) date) where
  tag t hc hs ht := by
    rw [getAll_requestHeaders_tag, conditionTag_of_shown hc hs ht]
    rfl
  noTag h := by
    rw [getAll_requestHeaders_tag, conditionTag_of_blank h]
    rfl
  time t hc hs := by
    rw [conditionTime_eq_some_iff.2 ⟨hc, hs⟩] at hd
    obtain ⟨text, hf, rfl⟩ := format_of_dateOf hd
    refine ⟨text, hf, ?_⟩
    rw [getAll_requestHeaders_time]
    rfl
  noTime h := by
    rw [conditionTime_of_unknown h] at hd
    cases hd
    rw [getAll_requestHeaders_time]
    rfl
  agent := getAll_requestHeaders_agent ..
  others := filter_requestHeaders ..

theorem asksWith_of_asked {url : Url} {p : Prepared} (h : c.asked? d = some (url, p)) :
    AsksWith c d p.request.headers := by
  obtain ⟨date, -, hd, -, rfl⟩ := prepare_eq_ok_iff.1 (prepare_of_asked h)
  exact asksWith_requestHeaders hd

variable [Source ρ] [Engine ε ρ]

/-- **The request** that a run has carried out asks with what the destination shows, and is the one
that the engine gets. -/
theorem asksWith_execute (x : Action σ) (e : ε) {q : Request} (hd : x.dest = some d)
    (hq : .executed q ∈ (x.execute e).1.events) :
    AsksWith x.config d q.headers ∧ (x.execute e).1.engine = (Engine.exchange e q).2 := by
  simp only [Action.execute, hd] at hq ⊢
  obtain ⟨url, p, ha, rfl⟩ := executed_mem_run_iff.1 hq
  exact ⟨asksWith_of_asked ha, (landmarks_of_asked ha).2⟩

/-- A configuration that names the conditions itself, in more than one letter case. -/
def Config.conditional : Config :=
  { Config.new with
    url := some "http://[::1]/f"
    headers := .ofList [("If-None-Match", "x"), ("Accept", "*/*"), ("IF-NONE-MATCH", "y")]
    userAgent := some "reader"
    useEtag := true
    onlyIfModified := true }

/-- Its request asks once with the stored tag, and with the stored time. -/
theorem asksWith_conditional :
    ∃ q, .executed q ∈ ((Action.new .conditional
        (some (MemoryDest.new (some " 41 ") (some ⟨0⟩)))).execute (ScriptedEngine.mk [])).1.events ∧
      q.headers.entries = [("if-none-match", "41"), ("Accept", "*/*"),
        ("if-modified-since", "Thu, 01 Jan 1970 00:00:00 GMT"), ("user-agent", "reader")] ∧
      AsksWith .conditional (MemoryDest.new (some " 41 ") (some ⟨0⟩)) q.headers := by
  obtain ⟨⟨url, p⟩, ha, hq⟩ : ∃ x, Config.conditional.asked?
      (MemoryDest.new (some " 41 ") (some ⟨0⟩)) = some x ∧
      x.2.request.headers.entries = [("if-none-match", "41"), ("Accept", "*/*"),
        ("if-modified-since", "Thu, 01 Jan 1970 00:00:00 GMT"), ("user-agent", "reader")] :=
    Option.map_eq_some_iff.1 (by decide +kernel)
  have hm := executed_mem_run_iff (e := ScriptedEngine.mk []).2 ⟨url, p, ha, rfl⟩
  exact ⟨p.request, hm, hq,
    (asksWith_execute (Action.new .conditional (some _)) (ScriptedEngine.mk []) rfl hm).1⟩

end Refetch.Download
