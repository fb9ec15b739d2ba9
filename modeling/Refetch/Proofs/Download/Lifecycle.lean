import Refetch.Dest.Memory
import Refetch.Engine.Scripted
import Refetch.Proofs.Download.Course
import Refetch.Proofs.Download.Displaying
/-!
# The lifecycle of a destination and of a response

For every engine, every destination and every answer that their calls may give:

1. The calls of a run form one of a few sequences (`CallTrace`). The sink is let go before the
   completion, the response is closed after the completion, and validators are kept last.
2. A body that is taken is completed once, and nothing else is. The flag says whether all of the body
   arrived.
3. A response is closed once.

The display of a run that is not quiet may be refused when the body is taken and before anything is
done with it. Such a run does not return; it closes the response but completes nothing
(`not_completed`).
-/

namespace Refetch.Download

/-- The calls that a run can make; `stored` says that the completion with success was answered
well. -/
inductive CallTrace (stored : Prop) : List Event → Prop
  /-- No response came. -/
  | unanswered : CallTrace stored []
  /-- A response came, and nothing was done to the destination. -/
  | spared : CallTrace stored [.closed]
  /-- The body could not be turned into a reader. -/
  | unreadable : CallTrace stored [.completed false, .closed]
  /-- There was no sink to let go. -/
  | unopened : CallTrace stored [.sinkOpened, .completed false, .closed]
  | completed {ws : List Event} (hw : ∀ w ∈ ws, w.usesSink) (accepted : Nat) (success : Bool)
      (time : Option Timestamp) (tag : Option String)
      (hs : time.isSome ∨ tag.isSome → success = true ∧ stored) :
      CallTrace stored (.sinkOpened :: ws ++ [.sinkClosed accepted, .completed success, .closed] ++
        (time.map .lastModifiedSet).toList ++ (tag.map .etagSet).toList)

def Event.isCompletion : Event → Bool
  | .completed _ => true
  | _ => false

variable {ρ σ ε : Type} [Source ρ] [Dest σ] [Engine ε ρ]

/-- The outcomes that come after a transfer was attempted. -/
def Run.followsTransfer (r : Run σ ε) : Bool :=
  match r.outcome with
  | .ok s => s.status == .downloaded
  | .error (.transfer ..) | .error (.checksumMismatch ..) | .error (.io _) => true
  | _ => false

/-- What the calls of a run into a destination add up to. -/
structure Lifecycle (c : Config) (d : σ) (e : ε) (r : Run σ ε) : Prop where
  /-- Validators are kept only after the completion with success was answered well. -/
  trace : CallTrace (∃ a body, c.attempt? d e = some (a, body) ∧
    (Dest.complete (attemptedCopy c a body d).dest true).1 = .ok ()) (calls r.events)
  /-- A body that is taken is completed once, unless its display is refused. -/
  completed : ∀ a body, c.answer? d e = some a → c.body? a = some body →
    (∀ x, ¬ c.Hindered body.length x) → r.events.countP Event.isCompletion = 1
  /-- Then the run does not return, and nothing is done to the destination. -/
  hindered : ∀ a body x, c.answer? d e = some a → c.body? a = some body →
    c.Hindered body.length x → r.outcome = .crash x ∧ calls r.events = [.closed]
  /-- Without a body nothing is completed. -/
  spared : (∀ a, c.answer? d e = some a → c.body? a = none) →
    r.events.countP Event.isCompletion = 0
  /-- The flag says whether all of the body was read, written and flushed, and passed. -/
  flag : ∀ a body, c.attempt? d e = some (a, body) →
    ∀ b, .completed b ∈ r.events → (b = true ↔ BodyArrives c.checksum body d)
  /-- No other outcome comes after an attempt. -/
  outcome : (c.attempt? d e).isSome → r.followsTransfer
  /-- The response is closed once if there is one. -/
  closings : r.events.count .closed = if (c.answer? d e).isSome then 1 else 0

variable {c : Config} {d : σ} {e : ε} {a : Answer ρ} {body : ReaderBody ρ}

/-! ## Counting calls -/

theorem countP_calls (p : Event → Bool) (hp : ∀ ev, p ev → ev.isCall) (es : List Event) :
    es.countP p = (calls es).countP p := by
  rw [calls, List.countP_filter]
  exact List.countP_congr fun ev _ => by simpa using hp ev

theorem countP_isCompletion (es : List Event) :
    es.countP Event.isCompletion = (calls es).countP Event.isCompletion := by
  refine countP_calls _ (fun ev hev => ?_) es
  cases ev with
  | completed b => rfl
  | _ => cases hev

theorem count_closed (es : List Event) : es.count .closed = (calls es).count .closed :=
  countP_calls _ (by rintro ev hev; simp_all [Event.isCall]) es

theorem completed_mem_iff {es : List Event} {b : Bool} :
    .completed b ∈ es ↔ .completed b ∈ calls es := by
  simp [calls, Event.isCall, Event.changesDest]

/-! ## The calls of an attempt -/

/-- The copy of a body does nothing, fails to open the sink, or opens it, uses it and lets it go. -/
theorem calls_attemptedCopy (c : Config) (a : Answer ρ) (body : ReaderBody ρ) (d : σ) :
    calls (attemptedCopy c a body d).events = [] ∧
        (attemptedCopy c a body d).outcome.isOk = false ∨
      calls (attemptedCopy c a body d).events = [.sinkOpened] ∧
        (attemptedCopy c a body d).outcome.isOk = false ∨
      ∃ ws n, (∀ w ∈ ws, w.usesSink) ∧
        calls (attemptedCopy c a body d).events = .sinkOpened :: ws ++ [.sinkClosed n] := by
  unfold attemptedCopy
  cases hb : body.source with
  | none =>
    rw [copyBody_of_unreadable hb]
    exact .inl ⟨rfl, rfl⟩
  | some r =>
    cases ho : (Dest.openSink d).1 with
    | error f =>
      rw [copyBody_of_unopened hb ho]
      exact .inr (.inl ⟨rfl, rfl⟩)
    | ok u =>
      obtain ⟨ws, n, hw, hc⟩ := calls_fill a.url c.checksum r (Dest.openSink d).2
      rw [copyBody_of_opened hb ho]
      exact .inr (.inr ⟨ws, n, hw, by simp [hc, Event.isCall, Event.changesDest]⟩)

/-- Keeping validators calls at most the one setter and then the other. -/
theorem persist_calls (time : Option Timestamp) (tag : Option String) (d : σ) :
    ∃ (time' : Option Timestamp) (tag' : Option String), (persist time tag d).events =
      (time'.map .lastModifiedSet).toList ++ (tag'.map .etagSet).toList := by
  have ht : (keepTime d time).events = (time.map .lastModifiedSet).toList := by
    cases time <;> rfl
  have hs (d : σ) : (keepTag d tag).events = (tag.map .etagSet).toList := by
    cases tag <;> rfl
  unfold persist
  dsimp only
  split
  · exact ⟨time, none, by simp [ht]⟩
  · exact ⟨time, tag, by simp [ht, hs]⟩

/-- The calls of an attempt, with what is kept after it. -/
def attemptCalls (c : Config) (a : Answer ρ) (body : ReaderBody ρ) (d : σ)
    (time : Option Timestamp) (tag : Option String) : List Event :=
  calls (attemptedCopy c a body d).events ++
    [.completed (attemptedCopy c a body d).outcome.isOk, .closed] ++
    ((time.map .lastModifiedSet).toList ++ (tag.map .etagSet).toList)

theorem callTrace_attemptCalls {stored : Prop} {time : Option Timestamp} {tag : Option String}
    (hs : time.isSome ∨ tag.isSome → (attemptedCopy c a body d).outcome.isOk ∧ stored) :
    CallTrace stored (attemptCalls c a body d time tag) := by
  unfold attemptCalls
  rcases calls_attemptedCopy c a body d with ⟨hc, hf⟩ | ⟨hc, hf⟩ | ⟨ws, n, hw, hc⟩
  · obtain ⟨rfl, rfl⟩ : time = none ∧ tag = none := by
      simpa [hf, Option.isSome_iff_ne_none] using hs
    rw [hc, hf]
    exact .unreadable
  · obtain ⟨rfl, rfl⟩ : time = none ∧ tag = none := by
      simpa [hf, Option.isSome_iff_ne_none] using hs
    rw [hc, hf]
    exact .unopened
  · rw [hc]
    simpa using CallTrace.completed hw n _ time tag hs

/-- The event is neither a completion nor the closing of the response. -/
def Event.IsAside (ev : Event) : Prop := ev.isCompletion = false ∧ ev ≠ .closed

theorem Event.isAside_of_usesSink {ev : Event} (h : ev.usesSink) : ev.IsAside := by
  cases ev with
  | written n k => exact ⟨rfl, Event.noConfusion⟩
  | flushed => exact ⟨rfl, Event.noConfusion⟩
  | _ => cases h

theorem isAside_of_copying (c : Config) (a : Answer ρ) (body : ReaderBody ρ) (d : σ) :
    ∀ ev ∈ calls (attemptedCopy c a body d).events, ev.IsAside := by
  intro ev hev
  rcases calls_attemptedCopy c a body d with ⟨hc, -⟩ | ⟨hc, -⟩ | ⟨ws, n, hw, hc⟩
  · rw [hc] at hev
    cases hev
  · rw [hc, List.mem_singleton] at hev
    subst hev
    exact ⟨rfl, Event.noConfusion⟩
  · rw [hc, List.mem_append, List.mem_cons, List.mem_singleton] at hev
    rcases hev with (rfl | hev) | rfl
    · exact ⟨rfl, Event.noConfusion⟩
    · exact Event.isAside_of_usesSink (hw ev hev)
    · exact ⟨rfl, Event.noConfusion⟩

theorem isAside_of_keeping (time : Option Timestamp) (tag : Option String) :
    ∀ ev ∈ (time.map Event.lastModifiedSet).toList ++ (tag.map Event.etagSet).toList,
      ev.IsAside := by
  intro ev hev
  rcases List.mem_append.1 hev with hev | hev
  · cases time with
    | none => cases hev
    | some t =>
      rw [List.mem_singleton.1 hev]
      exact ⟨rfl, Event.noConfusion⟩
  · cases tag with
    | none => cases hev
    | some t =>
      rw [List.mem_singleton.1 hev]
      exact ⟨rfl, Event.noConfusion⟩

theorem counts_of_isAside {es : List Event} (h : ∀ ev ∈ es, ev.IsAside) :
    es.countP Event.isCompletion = 0 ∧ es.count .closed = 0 ∧ ∀ b, .completed b ∉ es := by
  refine ⟨List.countP_eq_zero.2 fun ev hev => ?_, List.count_eq_zero.2 fun hm => ?_, ?_⟩
  · rw [(h ev hev).1]
    exact Bool.false_ne_true
  · exact (h _ hm).2 rfl
  · intro b hm
    cases (h _ hm).1

/-- The completion of an attempt is the only one, and so is the closing of the response. -/
theorem counts_attemptCalls (c : Config) (a : Answer ρ) (body : ReaderBody ρ) (d : σ)
    (time : Option Timestamp) (tag : Option String) :
    (attemptCalls c a body d time tag).countP Event.isCompletion = 1 ∧
      (attemptCalls c a body d time tag).count .closed = 1 ∧
      ∀ b, .completed b ∈ attemptCalls c a body d time tag →
        b = (attemptedCopy c a body d).outcome.isOk := by
  obtain ⟨hl, hl', hlm⟩ := counts_of_isAside (isAside_of_copying c a body d)
  obtain ⟨hr, hr', hrm⟩ := counts_of_isAside (isAside_of_keeping time tag)
  refine ⟨?_, ?_, fun b hb => ?_⟩
  · rw [attemptCalls, List.countP_append, List.countP_append, hl, hr]
    rfl
  · rw [attemptCalls, List.count_append, List.count_append, hl', hr']
    rfl
  · rw [attemptCalls, List.mem_append, List.mem_append] at hb
    rcases hb with (hb | hb) | hb
    · exact absurd hb (hlm b)
    · simpa using hb
    · exact absurd hb (hrm b)

/-- What is called in an attempt, and how the run ends then. -/
theorem calls_of_attempted (h : c.attempt? d e = some (a, body)) :
    (run c (some d) e).followsTransfer ∧ ∃ time tag,
      (time.isSome ∨ tag.isSome → (attemptedCopy c a body d).outcome.isOk ∧
        (attemptedCompletion c a body d).1 = .ok ()) ∧
      calls (run c (some d) e).events = attemptCalls c a body d time tag := by
  rcases stored_or_failed c a body d with ⟨n, hn, hs⟩ | hs
  · obtain ⟨-, hc, -, ho⟩ := run_of_stored h hn hs
    have hok : (attemptedCopy c a body d).outcome.isOk = true := by rw [hn]; rfl
    obtain ⟨time, tag, hp⟩ := persist_calls (c.remoteTime a.response.headers)
      (c.remoteTag a.response.headers) (attemptedCompletion c a body d).2
    refine ⟨?_, time, tag, fun _ => ⟨hok, hs⟩, by rw [hc, hp, attemptCalls, hok]⟩
    rw [Run.followsTransfer, ho]
    cases (persist (c.remoteTime a.response.headers) (c.remoteTag a.response.headers)
      (attemptedCompletion c a body d).2).outcome <;> rfl
  · obtain ⟨-, hc, f, ho, hf⟩ := run_of_failed h hs
    refine ⟨?_, none, none, by simp, by rw [hc]; simp [attemptCalls]⟩
    rw [Run.followsTransfer, ho]
    cases f <;> simp_all [isOfTransfer]

omit [Source ρ] in
/-- A body that is taken is attempted exactly if its display is not refused. -/
theorem isSome_attempt?_iff (ha : c.answer? d e = some a) (hb : c.body? a = some body) :
    (c.attempt? d e).isSome ↔ ∀ x, ¬ c.Hindered body.length x := by
  have hh (x : Crash) : displayCrash? c (Dest.describe d) body.length = some x ↔
      c.Hindered body.length x := displayCrash?_eq_some_iff
  cases hx : displayCrash? c (Dest.describe d) body.length with
  | none =>
    rw [attempt?_eq_some_iff.2 ⟨ha, hb, hx⟩]
    simp [← hh, hx]
  | some x =>
    have hn : ¬ (c.attempt? d e).isSome := by simp [Config.attempt?, ha, hb, hx]
    exact iff_of_false hn fun h => h x ((hh x).1 hx)

/-- **The lifecycle**: whatever a run meets, its calls keep to the rules. -/
theorem lifecycle_run (c : Config) (d : σ) (e : ε) : Lifecycle c d e (run c (some d) e) := by
  have hindered (a : Answer ρ) (body : ReaderBody ρ) (x : Crash) (ha : c.answer? d e = some a)
      (hb : c.body? a = some body) (hx : c.Hindered body.length x) :
      (run c (some d) e).outcome = .crash x ∧ calls (run c (some d) e).events = [.closed] := by
    obtain ⟨-, hc, ho⟩ := run_of_crashed ha hb (displayCrash?_eq_some_iff.2 hx)
    exact ⟨ho, hc⟩
  cases h : c.attempt? d e with
  | some x =>
    obtain ⟨a, body⟩ := x
    obtain ⟨ha, hb, -⟩ := attempt?_eq_some_iff.1 h
    obtain ⟨ho, time, tag, hs, hc⟩ := calls_of_attempted h
    obtain ⟨hn, hk, hm⟩ := counts_attemptCalls c a body d time tag
    refine ⟨?_, fun _ _ _ _ _ => ?_, hindered, fun hf => ?_, ?_, fun _ => ho, ?_⟩
    · rw [hc]
      refine callTrace_attemptCalls fun hv => ?_
      obtain ⟨hok, hd⟩ := hs hv
      exact ⟨hok, a, body, h, by rw [← hd, attemptedCompletion, hok]⟩
    · rw [countP_isCompletion, hc, hn]
    · rw [hf a ha] at hb
      cases hb
    · rintro a' body' h' b hb'
      obtain ⟨rfl, rfl⟩ : a = a' ∧ body = body' := by simpa [h] using h'
      rw [completed_mem_iff, hc] at hb'
      rw [hm b hb']
      exact isOk_copyBody_iff
    · rw [count_closed, hc, hk, ha]
      rfl
  | none =>
    obtain ⟨-, hc, -⟩ := run_of_unattempted h
    refine ⟨?_, fun a body ha hb hn => ?_, hindered, fun _ => ?_, by simp [h], by simp [h], ?_⟩
    · rw [hc]
      split
      · exact .spared
      · exact .unanswered
    · have hs := (isSome_attempt?_iff ha hb).2 hn
      rw [h] at hs
      cases hs
    · rw [countP_isCompletion, hc]
      split <;> rfl
    · rw [count_closed, hc]
      split <;> rfl

/-- A configuration whose display is refused, as the characters of its bars are not equally wide. -/
def Config.uneven : Config :=
  { Config.new with
    url := some "http://[::1]/f"
    style := ⟨⟨none, some "日xy", true, false⟩, ⟨none, some "日xy", true, false⟩⟩ }

end Refetch.Download
