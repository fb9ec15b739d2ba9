import Refetch.Proofs.Download.History
import Refetch.Proofs.Header.Lookup
import Refetch.Proofs.Text.Letters
import Refetch.Proofs.Text.RoundTrip
/-!
# Stored validators

Data and tag are kept one after the other, and a response without a tag leaves the old tag. So the
tag that a destination shows is the last one that was stored, which need not be the tag of the data.

1. The tag after a history is the last one that a round stored (`tag_after`), or a scrap of one that
   was tried later and could not be stored. It is that of the data if the last commit stored one.
2. A server that says "not modified" only when asked with the tag of its body was asked with the tag
   that the destination shows (`shown_of_unmodified`). If that is the tag of the data, and tags tell
   bodies apart, the data is the server's body.
3. A destination in memory takes every body that can be read (`run_into_memory`). So a body with a
   tag and then one without leave the old tag beside the new data.
-/

namespace Refetch.Download

variable {σ ε τ : Type} [Dest σ] [Engine ε Script]

/-- The tag that the commit stored. -/
def Commit.stored (k : Commit) : Option String := if k.complete then k.tag else none

theorem Commit.tag_of_stored {k : Commit} {tag : String} (h : k.stored = some tag) :
    k.tag = some tag := by
  unfold stored at h
  split at h
  · exact h
  · cases h

/-- The tag that the commit could not store. -/
def Commit.unstored (k : Commit) : Option String := if k.complete then none else k.tag

/-- The last tag that a history stored. -/
def lastStored : List (Round ε) → σ → Option String
  | [], _ => none
  | x :: xs, d => (lastStored xs (x.left d)).or ((x.commit? d).bind Commit.stored)

/-- The tags that could not be stored since then. -/
def unstored : List (Round ε) → σ → List String
  | [], _ => []
  | x :: xs, d => unstored xs (x.left d) ++
      if (lastStored xs (x.left d)).isSome then []
      else ((x.commit? d).bind Commit.unstored).toList

variable [Keeper σ τ] {d : σ}

open Keeper (kept Idle tagForm Scrap)

/-! ## Tags after a history -/

/-- One round keeps its tag if it stores one, and the old tag otherwise, or a scrap of the tag that it
could not store. -/
theorem Round.tag_left (x : Round ε) (h : Idle d) :
    (kept (x.left d)).tag =
        (((x.commit? d).bind Commit.stored).map (tagForm σ)).or (kept d).tag ∨
      ∃ t ∈ (x.commit? d).bind Commit.unstored, ∃ s ∈ (kept (x.left d)).tag, Scrap σ t s := by
  have hp := x.postState h
  unfold commit?
  cases hc : (x.run d).commits with
  | false =>
    rw [hp.uncommitted hc]
    exact .inl rfl
  | true =>
    rw [if_pos rfl]
    cases ho : (x.run d).outcome with
    | ok s =>
      have hs : s.status = .downloaded := by simpa [Run.commits, ho] using hc
      obtain ⟨a, ha, -, ht, -⟩ := hp.downloaded s ho hs
      refine .inl (ht.trans ?_)
      rw [Round.tag, ha]
      rfl
    | error f =>
      cases f <;> simp only [Run.commits, ho, Bool.false_eq_true] at hc
      obtain ⟨a, ha, hu⟩ := hp.unpersisted (by simp [Run.commits, ho, hc]) _ ho
      refine hu.imp_right fun ⟨t, ht, _, hs⟩ => ⟨t, ?_, hs⟩
      rw [Round.tag, ha]
      exact ht
    | crash y => simp [Run.commits, ho] at hc

/-- **The tag after a history** is the last one that it stored, or a scrap of a later one. -/
theorem tag_after (xs : List (Round ε)) (h : Idle d) :
    (kept (after xs d)).tag = ((lastStored xs d).map (tagForm σ)).or (kept d).tag ∨
      ∃ t ∈ unstored xs d, ∃ s ∈ (kept (after xs d)).tag, Scrap σ t s := by
  induction xs generalizing d with
  | nil => exact .inl rfl
  | cons x xs ih =>
    rw [after, lastStored, unstored]
    rcases ih (x.postState h).idle with ht | ⟨t, ht, hs⟩
    · cases hl : lastStored xs (x.left d) with
      | some tag =>
        rw [ht, hl]
        exact .inl rfl
      | none =>
        rw [hl, Option.map_none, Option.none_or] at ht
        rw [Option.none_or, ht]
        rcases x.tag_left h with htag | ⟨t, htag, hs⟩
        · exact .inl htag
        · exact .inr ⟨t, List.mem_append_right _ (by simpa using htag), hs⟩
    · exact .inr ⟨t, List.mem_append_left _ ht, hs⟩

/-- A destination that kept no tag shows only one that was stored since, or a scrap. -/
theorem lastStored_of_shown {xs : List (Round ε)} (h : Idle d) (hn : (kept d).tag = none)
    {tag : String} (ht : Dest.etag (after xs d) = some tag) :
    lastStored xs d = some tag ∨ ∃ t ∈ unstored xs d, Scrap σ t (tagForm σ tag) := by
  have hk := Keeper.etag ht
  rcases tag_after xs h with hl | ⟨t, hu, s, hs, hscrap⟩
  · rw [hk, hn, Option.or_none, eq_comm, Option.map_eq_some_iff] at hl
    obtain ⟨t, hl, hf⟩ := hl
    rw [hl, Keeper.tagForm_injective hf]
    exact .inl rfl
  · obtain rfl : tagForm σ tag = s := by simpa [hk] using hs
    exact .inr ⟨t, hu, hscrap⟩

omit [Keeper σ τ] in
theorem lastStored_of_uncommitted {xs : List (Round ε)} (h : lastCommit xs d = none) :
    lastStored xs d = none := by
  induction xs generalizing d with
  | nil => rfl
  | cons x xs ih =>
    obtain ⟨hl, hx⟩ := Option.or_eq_none_iff.1 h
    rw [lastStored, ih hl, hx]
    rfl

omit [Keeper σ τ] in
/-- If the last commit stored a tag, it is the last one that was stored. -/
theorem lastStored_of_lastCommit {xs : List (Round ε)} {k : Commit} {tag : String}
    (hk : lastCommit xs d = some k) (ht : k.stored = some tag) :
    lastStored xs d = some tag := by
  induction xs generalizing d with
  | nil => cases hk
  | cons x xs ih =>
    rw [lastCommit] at hk
    cases hl : lastCommit xs (x.left d) with
    | some k' =>
      rw [hl, Option.some_or] at hk
      rw [lastStored, ih (hl.trans hk), Option.some_or]
    | none =>
      rw [hl, Option.none_or] at hk
      rw [lastStored, lastStored_of_uncommitted hl, hk, Option.none_or]
      exact ht

omit [Keeper σ τ] in
theorem unstored_of_uncommitted {xs : List (Round ε)} (h : lastCommit xs d = none) :
    unstored xs d = [] := by
  induction xs generalizing d with
  | nil => rfl
  | cons x xs ih =>
    obtain ⟨hl, hx⟩ := Option.or_eq_none_iff.1 h
    rw [unstored, ih hl, hx]
    simp

omit [Keeper σ τ] in
/-- If the last commit stored a tag, none could not be stored since. -/
theorem unstored_of_lastCommit {xs : List (Round ε)} {k : Commit} {tag : String}
    (hk : lastCommit xs d = some k) (ht : k.stored = some tag) : unstored xs d = [] := by
  induction xs generalizing d with
  | nil => cases hk
  | cons x xs ih =>
    rw [lastCommit] at hk
    cases hl : lastCommit xs (x.left d) with
    | some k' =>
      rw [hl, Option.some_or] at hk
      have hk := hl.trans hk
      rw [unstored, ih hk, lastStored_of_lastCommit hk ht]
      rfl
    | none =>
      rw [hl, Option.none_or] at hk
      have hc : k.complete = true := by
        unfold Commit.stored at ht
        split at ht
        · assumption
        · cases ht
      rw [unstored, unstored_of_uncommitted hl, hk]
      simp [Commit.unstored, hc]

/-- If the last commit stored a tag, no other one is shown. -/
theorem shown_of_lastCommit {xs : List (Round ε)} (h : Idle d) (hn : (kept d).tag = none)
    {k : Commit} {stored tag : String} (hk : lastCommit xs d = some k)
    (hs : k.stored = some stored) (ht : Dest.etag (after xs d) = some tag) : stored = tag := by
  rcases lastStored_of_shown h hn ht with hl | ⟨t, hu, -⟩
  · rw [lastStored_of_lastCommit hk hs] at hl
    exact Option.some.inj hl
  · rw [unstored_of_lastCommit hk hs] at hu
    cases hu

/-! ## Answers without a body -/

theorem get?_setIfSome (h : HeaderList) (name : String) (value : Option String) :
    (Config.setIfSome h name value).get? name = value.or (h.get? name) := by
  cases value with
  | none => rfl
  | some v => exact HeaderList.get?_set_self h name v

/-- A request asks with the stored tag, or else with what is configured. -/
theorem get?_requestHeaders (c : Config) (tag date : Option String) :
    (c.requestHeaders tag date).get? ifNoneMatch = tag.or (c.headers.get? ifNoneMatch) := by
  have hd : (Config.setIfSome (Config.setIfSome c.headers ifNoneMatch tag) ifModifiedSince
      date).get? ifNoneMatch = tag.or (c.headers.get? ifNoneMatch) := by
    rw [← get?_setIfSome]
    cases date with
    | none => rfl
    | some t => exact HeaderList.get?_set_other (by decide) _ t
  unfold Config.requestHeaders
  dsimp only
  split
  · rw [HeaderList.get?_add_other (by decide), hd]
  · exact hd

omit [Keeper σ τ] in
/-- A run that is answered "not modified" finds the destination current. -/
theorem run_of_unmodified {c : Config} {e : ε} {a : Answer Script}
    (h : c.answer? d e = some a) (hs : a.response.status = Status.notModified) :
    ∃ s, (run c (some d) e).outcome = .ok s ∧ s.status = .upToDate := by
  obtain ⟨-, ho, -⟩ := run_of_answered h
  have hj : judge a.response.status (c.conditionTime d) (c.remoteTime a.response.headers) =
      .current := by
    rw [hs]
    rfl
  rw [ho]
  unfold settle
  rw [hj]
  exact ⟨_, rfl, rfl⟩

/-- The data after an answer "not modified" is what was there before. -/
theorem Round.data_of_unmodified {x : Round ε} {a : Answer Script} (h : Idle d)
    (ha : x.config.answer? d x.engine = some a) (hs : a.response.status = Status.notModified) :
    (kept (x.left d)).data = (kept d).data := by
  obtain ⟨s, hr, hu⟩ := run_of_unmodified ha hs
  rw [(x.postState h).uncommitted]
  unfold Run.commits
  rw [show (x.run d).outcome = .ok s from hr]
  simp [hu]

/-- A server's tags for bodies. -/
structure Origin where
  tagOf : Bytes → String
  injective : Function.Injective tagOf
  trimmed : ∀ body, Text.trim (tagOf body) = tagOf body

/-- The server answers "not modified" only to a request with the tag of its body. -/
def Origin.Answers (o : Origin) (body : Bytes) (a : Answer Script) : Prop :=
  a.response.status = Status.notModified →
    a.prepared.request.headers.get? ifNoneMatch = some (o.tagOf body)

/-- No other tag is asked with than a stored one. -/
def Config.AsksStored (c : Config) (d : σ) : Prop :=
  c.headers.get? ifNoneMatch = none ∨ (c.conditionTag d).isSome

omit [Engine ε Script] [Keeper σ τ] in
/-- A tag that is asked with is the one that the destination shows, without blanks around it. -/
theorem shown_of_conditionTag {c : Config} {tag : String} (h : c.conditionTag d = some tag) :
    ∃ t, Dest.etag d = some t ∧ Text.trim t = tag := by
  unfold Config.conditionTag at h
  split at h
  · exact Option.map_eq_some_iff.1 (Option.filter_eq_some_iff.1 h).1
  · cases h

omit [Keeper σ τ] in
/-- A server that answers "not modified" was asked with the shown tag, and has its body. -/
theorem Origin.shown_of_unmodified (o : Origin) {c : Config} {e : ε} {a : Answer Script}
    {body : Bytes} (h : c.answer? d e = some a) (hs : a.response.status = Status.notModified)
    (ho : o.Answers body a) (hc : c.AsksStored d) :
    ∃ t, Dest.etag d = some t ∧ Text.trim t = o.tagOf body := by
  obtain ⟨-, date, hr⟩ := prepared_of_answered h
  have hg : (c.conditionTag d).or (c.headers.get? ifNoneMatch) = some (o.tagOf body) := by
    rw [← get?_requestHeaders c _ date, ← ho hs, hr]
    rfl
  refine shown_of_conditionTag (c := c) ?_
  rcases hc with hc | hc
  · rwa [hc, Option.or_none] at hg
  · obtain ⟨t, ht⟩ := Option.isSome_iff_exists.1 hc
    rwa [ht, Option.some_or, ← ht] at hg

/-! ## Runs into memory -/

section Memory

variable {d : MemoryDest} {c : Config} {e : ε} {a : Answer Script} {body : ReaderBody Script}
variable {s : Script}

/-- A destination in memory takes every body that can be read and passes. -/
theorem run_into_memory (h : c.attempt? d e = some (a, body)) (hs : body.source = some s)
    (hf : (Source.readToEnd s).failure = none) (hp : Passes c.checksum s.contents) :
    ∃ u, (run c (some d) e).outcome = .ok u ∧ u.status = .downloaded := by
  have hd := Script.data_readToEnd hf
  have hn : (attemptedCopy c a body d).outcome = .ok s.contents.length := by
    rw [attemptedCopy, copyBody_of_opened hs rfl, ← hd]
    refine outcome_fill_eq_ok_iff.2 ⟨⟨hf, ?_, hd ▸ hp, rfl⟩, rfl⟩
    exact accepted_copyFrom_of_accepting MemoryDest.accepting ..
  obtain ⟨-, -, -, ho⟩ := run_of_stored h hn rfl
  have hk (d : MemoryDest) (time : Option Timestamp) (tag : Option String) :
      (persist time tag d).outcome = .ok () := by
    cases time <;> cases tag <;> rfl
  rw [hk] at ho
  exact ⟨_, ho, rfl⟩

/-- Such a run leaves the body with the validators of its response. -/
theorem left_into_memory {x : Round ε} (h : x.config.attempt? d x.engine = some (a, body))
    (hs : body.source = some s) (hf : (Source.readToEnd s).failure = none)
    (hp : Passes x.config.checksum s.contents) :
    x.commit? d = some ⟨s.contents, x.config.remoteTag a.response.headers, true⟩ ∧
      (x.left d).etag = (x.config.remoteTag a.response.headers).or d.etag ∧
      (x.left d).lastModified = (x.config.remoteTime a.response.headers).or d.lastModified := by
  obtain ⟨ha, hsrc⟩ := source?_of_attempted h
  obtain ⟨u, ho, hu⟩ := run_into_memory h hs hf hp
  have ho : (x.run d).outcome = .ok u := ho
  obtain ⟨a', ha', -, ht, hm⟩ := (x.postState (d := d) trivial).downloaded u ho hu
  obtain rfl : a = a' := Option.some.inj (ha.symm.trans ha')
  refine ⟨?_, ht.trans ?_, hm⟩
  · rw [Round.commit?, if_pos (by simp [Run.commits, ho, hu]), Round.body, Round.tag, hsrc, hs,
      ha, ho]
    rfl
  · show (Option.map id _).or _ = _
    rw [Option.map_id_fun, id]
    rfl

end Memory

/-! ## Two rounds -/

/-- Tags that spell the bodies out. -/
def Origin.spelling : Origin where
  tagOf body := String.ofList (Text.Hex.encodeChars body)
  injective a b h := by
    have h := congrArg Text.Hex.decodeChars (String.ofList_inj.1 h)
    rw [Text.Hex.decodeChars_encodeChars, Text.Hex.decodeChars_encodeChars] at h
    exact Option.some.inj h
  trimmed body := by
    rw [Text.trim, String.toList_ofList, Text.trimChars_of_no_blank]
    exact fun c hc => Text.Hex.isBlank_of_mem_encodeChars hc

/-- A round into memory that is answered with a body keeps it, and its tag if it has one. -/
theorem left_answered (status : Nat) (headers : List (String × String)) (bs : Bytes)
    (d : MemoryDest) (h : ((Config.validating.attempt? d
      (Round.answered status headers (.script [.bytes bs])).engine).map
        fun p => (p.1.response.headers, p.2.source)) = some (.ofList headers, some [.bytes bs])) :
    let x := Round.answered status headers (.script [.bytes bs])
    x.commit? d = some ⟨bs, (HeaderList.ofList headers).get? "etag", true⟩ ∧
      (x.left d).etag = ((HeaderList.ofList headers).get? "etag").or d.etag ∧
      (x.left d).lastModified =
        (Config.validating.remoteTime (.ofList headers)).or d.lastModified := by
  obtain ⟨⟨a, body⟩, ha, hp⟩ := Option.map_eq_some_iff.1 h
  obtain ⟨hh, hs⟩ := Prod.mk.inj hp
  have hf : (Source.readToEnd [Piece.bytes bs]).failure = none := by
    rw [Script.failure_readToEnd]
    rfl
  have hc : Script.contents [.bytes bs] = bs := List.append_nil bs
  have hl := left_into_memory (x := Round.answered status headers (.script [.bytes bs])) ha hs hf
    (fun k hk => by cases hk)
  rw [show a.response.headers = .ofList headers from hh, hc] at hl
  exact hl

/-- The address has a body with a tag. -/
def Round.tagged (body : Bytes) : Round ScriptedEngine :=
  .answered 200 [("etag", Origin.spelling.tagOf body)] (.script [.bytes body])

/-- The address has a body without a tag. -/
def Round.untagged (body : Bytes) : Round ScriptedEngine := .answered 200 [] (.script [.bytes body])

theorem left_tagged : (Round.tagged [65]).commit? MemoryDest.new = some ⟨[65], some "41", true⟩ ∧
    ((Round.tagged [65]).left MemoryDest.new).etag = some "41" ∧
    ((Round.tagged [65]).left MemoryDest.new).lastModified = none :=
  left_answered 200 _ _ _ (by decide +kernel)

/-! ## What validators are worth -/

/-- **What validators are worth** after a history. -/
structure Validated (xs : List (Round ε)) (d : σ) : Prop where
  /-- The tag that is shown is the last one that was stored, or a scrap of one that could not be
  stored since. -/
  shown : ∀ tag, Dest.etag (after xs d) = some tag →
    lastStored xs d = some tag ∨ ∃ t ∈ unstored xs d, Scrap σ t (tagForm σ tag)
  /-- It is that of the data if the last commit stored one. -/
  paired : ∀ k tag, lastCommit xs d = some k → k.stored.isSome →
    Dest.etag (after xs d) = some tag → k.tag = some tag
  /-- Then the data is the body of a server whose tags are those that were stored, if the server
  answers "not modified". -/
  unmodified : ∀ (o : Origin) (k : Commit) (x : Round ε) (a : Answer Script) (body : Bytes),
    lastCommit xs d = some k → k.stored = some (o.tagOf k.body) →
    x.config.answer? (after xs d) x.engine = some a → x.config.AsksStored (after xs d) →
    a.response.status = Status.notModified → o.Answers body a →
    (∃ s, (x.run (after xs d)).outcome = .ok s ∧ s.status = .upToDate) ∧
      (kept (after (xs ++ [x]) d)).data = some body

theorem validated (xs : List (Round ε)) (h : Idle d) (hn : (kept d).tag = none) :
    Validated xs d := by
  refine ⟨fun tag ht => lastStored_of_shown h hn ht, ?_, ?_⟩
  · intro k tag hk hs ht
    obtain ⟨u, hu⟩ := Option.isSome_iff_exists.1 hs
    rw [← shown_of_lastCommit h hn hk hu ht]
    exact Commit.tag_of_stored hu
  · intro o k x a body hk hs ha hc hst ho
    obtain ⟨hi, hd⟩ := kept_after xs h
    refine ⟨run_of_unmodified ha hst, ?_⟩
    obtain ⟨t, ht, htrim⟩ := o.shown_of_unmodified ha hst ho hc
    -- the tag that is shown is that of the data, so the server's body is the data
    have hkt : o.tagOf k.body = t := shown_of_lastCommit h hn hk hs ht
    have hb : k.body = body := o.injective (by rw [← htrim, ← hkt, o.trimmed])
    rw [after_append, after, after, x.data_of_unmodified hi ha hst, hd, hk, ← hb]
    rfl

/-- A round that asks with a tag of its own. -/
def Round.asking (tag : String) : Round ScriptedEngine :=
  ⟨Config.validating.addHeader "If-None-Match" tag, ⟨[.answer 304 "" ∅ .none none]⟩⟩

end Refetch.Download
