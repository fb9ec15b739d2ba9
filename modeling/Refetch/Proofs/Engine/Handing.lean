import Refetch.Proofs.Engine.Transports
import Refetch.Proofs.Engine.Unchunking
import Refetch.Proofs.Header.Lookup
/-!
# Handing out the body of a response

1. A response is made of the last answer that the network gave (`HttpEngine.exists_responseOf`):
   no step of a chain of requests comes after it, and no other try.
2. The first call decides. It takes the body, if there is one, or closes the response, and all calls
   after it find nothing (`Response.handleEach_cons`).
3. So a body is handed out once at most, not after the response was closed, and never if the method
   or the status has none. It yields the bytes of the answer (`HttpEngine.handsOut_exchange`).
-/

namespace Refetch

open Http

variable {ν : Type} [Network ν]

/-! ## Answers -/

/-- The network was asked, and gave these answers, one after the other. -/
inductive Answered : ν → List WireAnswer → ν → Prop
  | start (n : ν) : Answered n [] n
  | answer {n m : ν} {answers : List WireAnswer} {a : WireAnswer} (h : Answered n answers m)
      (w : WireRequest) (hs : (Network.send m w).1 = some a) :
      Answered n (answers ++ [a]) (Network.send m w).2
  | silence {n m : ν} {answers : List WireAnswer} (h : Answered n answers m)
      (w : WireRequest) (hs : (Network.send m w).1 = none) :
      Answered n answers (Network.send m w).2

/-- The chain took the network there, and its result is the last answer. -/
def Http.Chain.Concludes (n : ν) (c : Chain ν) : Prop :=
  ∃ answers, Answered n answers c.network ∧
    ∀ a u, c.result = .ok (a, u) → ∃ before, answers = before ++ [a]

namespace Http

variable {n m : ν} {answers : List WireAnswer} {clock : Timestamp} {jar : CookieJar} {h : Hop}

theorem Chain.concludes_of_error (hn : Answered n answers m) (f : HttpFault) :
    Chain.Concludes n ⟨.error f, jar, m⟩ := ⟨answers, hn, nofun⟩

/-- Only the name of a failure changes. -/
theorem Chain.Concludes.mapError {c : Chain ν} (hc : c.Concludes n) (f : HttpFault → HttpFault) :
    Chain.Concludes n { c with result := c.result.mapError f } := by
  obtain ⟨answers, hn, hlast⟩ := hc
  refine ⟨answers, hn, fun a u hr => hlast a u ?_⟩
  cases hres : c.result with
  | error f => rw [hres] at hr; cases hr
  | ok x => rw [hres] at hr; cases hr; rfl

/-- **A chain of requests** ends with the last answer. -/
theorem concludes_follow (left : Nat) (hn : Answered n answers m) :
    (follow clock left h jar m).Concludes n := by
  induction left using Nat.strong_induction_on generalizing h jar m answers with
  | _ left ih =>
    cases hr : Network.reaches m h.url with
    | false =>
      rw [follow_of_unreached hr]
      exact Chain.concludes_of_error hn _
    | true =>
      cases hs : (Network.send m (h.toWire clock jar)).1 with
      | none =>
        rw [follow_of_unanswered hr hs]
        exact Chain.concludes_of_error (hn.silence _ hs) _
      | some a =>
        rw [follow_of_answered hr hs]
        cases h.next? a with
        | none => exact ⟨_, hn.answer _ hs, fun a' u hr => ⟨answers, by cases hr; rfl⟩⟩
        | some next =>
          cases left with
          | zero => exact Chain.concludes_of_error (hn.answer _ hs) _
          | succ left =>
            dsimp only
            split
            · exact ih left (Nat.lt_succ_self left) (hn.answer _ hs)
            · exact Chain.concludes_of_error (hn.answer _ hs) _

/-- A chain that is tried again ends with the last answer of the last try. -/
theorem concludes_persevere (maxRedirects left past : Nat) (hn : Answered n answers m) :
    (persevere clock maxRedirects h left past jar m).Concludes n := by
  induction left generalizing past jar m answers with
  | zero => exact (concludes_follow maxRedirects hn).mapError _
  | succ left ih =>
    have hc : (follow clock maxRedirects h jar m).Concludes n := concludes_follow maxRedirects hn
    rw [persevere]
    split
    · obtain ⟨answers', hn', -⟩ := hc
      exact ih (past + 1) hn'
    · exact hc.mapError _

end Http

namespace HttpEngine

variable {e : HttpEngine ν} {r : Request} {p : Response ChunkReader}

theorem concludes_dispatch (e : HttpEngine ν) (method : Method) (u : Url) (fields : WireHeaders)
    (loaded : Loaded) : (e.dispatch method u fields loaded).Concludes e.network := by
  have hstart : Answered e.network [] e.network := .start e.network
  unfold dispatch
  split
  · exact Chain.concludes_of_error hstart _
  · exact Chain.concludes_of_error hstart _
  · split_ifs
    · exact Chain.concludes_of_error hstart _
    · cases e.config.transport with
      | streaming => exact (concludes_follow _ hstart).mapError _
      | buffering => exact concludes_persevere _ _ _ hstart

/-- **A response is made of the last answer.** -/
theorem exists_responseOf (h : (e.exchange r).1 = .ok p) : ∃ before a u,
    Answered e.network (before ++ [a]) (e.exchange r).2.network ∧
      p = responseOf e.config.transport r.method a u := by
  have hnot {url : Url} (hs : Stopped e url (e.exchange r)) : False := by
    obtain ⟨cause, hc⟩ := hs.outcome
    rw [hc] at h
    cases h
  cases hu : r.url with
  | none =>
    rw [exchange_of_unlocated hu] at h
    cases h
  | some url =>
    cases hw : r.headers.toWire with
    | error f =>
      rw [exchange_of_unwired hu hw] at h
      cases h
    | crash c =>
      rw [exchange_of_crowded hu hw] at h
      cases h
    | ok wire =>
      cases hf : e.fields r url wire with
      | error f => exact (hnot (stopped_of_unfielded hu hw hf)).elim
      | ok fields =>
        cases hl : load e.config.transport r.body with
        | error f => exact (hnot (stopped_of_unloaded hu hw hl)).elim
        | ok loaded =>
          rw [exchange_of_loaded ⟨hu, hw, hf⟩ hl] at h ⊢
          obtain ⟨answers, hn, hlast⟩ :=
            concludes_dispatch e r.method (withoutCredential url) fields loaded
          dsimp only at h ⊢
          cases hc : (e.dispatch r.method (withoutCredential url) fields loaded).result with
          | error f =>
            rw [hc] at h
            cases h
          | ok x =>
            obtain ⟨a, u⟩ := x
            obtain ⟨before, rfl⟩ := hlast a u hc
            rw [hc] at h
            cases h
            exact ⟨before, a, u, hn, rfl⟩

end HttpEngine

/-! ## Calls -/

namespace Response

variable {ρ : Type}

/-- A call on a response. -/
inductive Handling
  | takeBody
  | close
  deriving DecidableEq

/-- The body that a call gives, if any, and the response after it. -/
def handle (p : Response ρ) : Handling → Option (ReaderBody ρ) × Response ρ
  | .takeBody => p.takeBody
  | .close => (none, p.close)

/-- What calls give, one after the other, and the response after them. -/
def handleEach (p : Response ρ) : List Handling → List (Option (ReaderBody ρ)) × Response ρ
  | [] => ([], p)
  | c :: cs =>
    ((p.handle c).1 :: ((p.handle c).2.handleEach cs).1, ((p.handle c).2.handleEach cs).2)

variable {p : Response ρ}

/-- Any call leaves a response without a body. -/
theorem handle_snd (p : Response ρ) (c : Handling) :
    (p.handle c).2 = { p with entity := none } := by
  cases c <;> rfl

/-- Without a body no call gives one or changes anything. -/
theorem handleEach_of_none (h : p.entity = none) (calls : List Handling) :
    p.handleEach calls = (List.replicate calls.length none, p) := by
  have hp : ({ p with entity := none } : Response ρ) = p := by rw [← h]
  induction calls with
  | nil => rfl
  | cons c calls ih =>
    have hc : (p.handle c).1 = none := by
      cases c with
      | takeBody => exact h
      | close => rfl
    rw [handleEach, handle_snd, hp, ih, hc, List.length_cons, List.replicate_succ]

/-- **The first call decides.** -/
theorem handleEach_cons (p : Response ρ) (c : Handling) (calls : List Handling) :
    p.handleEach (c :: calls) =
      ((p.handle c).1 :: List.replicate calls.length none, { p with entity := none }) := by
  rw [handleEach, handle_snd, handleEach_of_none rfl]

theorem head?_handleEach {body : ReaderBody ρ} (h : p.entity = some body) (after : List Handling) :
    (p.handleEach (.takeBody :: after)).1.head? = some (some body) := by
  rw [handleEach_cons]
  exact congrArg some h

theorem handleEach_concat_snd (p : Response ρ) (calls : List Handling) (c : Handling) :
    (p.handleEach (calls ++ [c])).2 = { p with entity := none } := by
  cases calls with
  | nil => exact handle_snd p c
  | cons c' calls => rw [List.cons_append, handleEach_cons]

/-- No body goes with this status to this method. -/
def Bodiless (method : Method) (status : Nat) : Prop :=
  method.name = "HEAD" ∨ 100 ≤ status ∧ status < 200 ∨ status = 204 ∨ status = 304

theorem permitsBody_iff (method : Method) (status : Nat) :
    Status.permitsBody method status = true ↔ ¬ Bodiless method status := by
  simp only [Status.permitsBody, Bodiless, Bool.and_eq_true, bne_iff_ne, ne_eq, Bool.not_eq_true',
    Bool.and_eq_false_iff, decide_eq_false_iff_not]
  tauto

/-- How a response of this transport, made of an answer to this method, hands out its body. -/
structure HandsOut (p : Response ChunkReader) (t : Transport) (method : Method) (a : WireAnswer) :
    Prop where
  /-- Whatever the calls, one of them gives a body at most. -/
  once : ∀ calls, ((p.handleEach calls).1.filterMap id).length ≤ 1
  /-- After a closing call none does. -/
  closed : ∀ before after, ∀ x ∈ ((p.handleEach (before ++ [.close])).2.handleEach after).1,
    x = none
  bodiless : Bodiless method a.status → ∀ calls, ∀ x ∈ (p.handleEach calls).1, x = none
  /-- A call that takes the body before any other call gets it: with the declared length and media
  type of the headers, and a reader for the bytes of the answer. The reader fails after them if the
  connection did. -/
  first : ¬ Bodiless method a.status → ∀ after, ∃ body reader,
    (p.handleEach (.takeBody :: after)).1.head? = some (some body) ∧
      body.length = p.headers.contentLength? ∧
      (∀ v, body.contentType = some v ↔ p.headers.First contentType v) ∧
      body.source = some reader ∧
      Source.Yields reader a.pieces.flatten (if a.broken then some (bodyFailure t) else none)
  /-- Closing a response again changes nothing, and no call changes more than the body. -/
  idempotent : ∀ calls,
    (p.handleEach (calls ++ [.close, .close])).2 = (p.handleEach (calls ++ [.close])).2
  kept : ∀ calls, ∃ entity, (p.handleEach calls).2 = { p with entity := entity }

theorem entity_responseOf {t : Transport} {method : Method} {a : WireAnswer} {u : Url}
    (hb : ¬ Bodiless method a.status) : (responseOf t method a u).entity =
      some ⟨some (.new a.pieces (if a.broken then some (bodyFailure t) else none)),
        (responseOf t method a u).headers.contentLength?,
        (responseOf t method a u).headers.get? contentType⟩ :=
  if_pos ((permitsBody_iff method a.status).2 hb)

theorem handsOut_responseOf (t : Transport) (method : Method) (a : WireAnswer) (u : Url) :
    (responseOf t method a u).HandsOut t method a := by
  have hnone {calls : List Handling} {p : Response ChunkReader} (hp : p.entity = none) :
      ∀ x ∈ (p.handleEach calls).1, x = none := by
    rw [handleEach_of_none hp]
    exact fun x hx => List.eq_of_mem_replicate hx
  refine ⟨fun calls => ?once, fun before after => ?closed, fun hb calls => ?bodiless,
    fun hb after => ?first, fun calls => ?idempotent, fun calls => ?kept⟩
  case once =>
    cases calls with
    | nil => exact Nat.zero_le 1
    | cons c calls =>
      rw [handleEach_cons, List.filterMap_cons]
      split <;> simp
  case closed =>
    rw [handleEach_concat_snd]
    exact hnone rfl
  case bodiless =>
    refine hnone ?_
    exact if_neg fun hp => (permitsBody_iff method a.status).1 hp hb
  case first =>
    exact ⟨_, _, head?_handleEach (entity_responseOf hb) after, rfl,
      fun v => HeaderList.get?_eq_some_iff, rfl, ChunkReader.yields _ _⟩
  case idempotent => rw [List.append_cons, handleEach_concat_snd, handleEach_concat_snd]
  case kept =>
    cases calls with
    | nil => exact ⟨_, rfl⟩
    | cons c calls => exact ⟨none, by rw [handleEach_cons]⟩

end Response

namespace HttpEngine

/-- **A response hands out its body** once, with either transport: the bytes of the last answer that
the network gave. -/
theorem handsOut_exchange {e : HttpEngine ν} {r : Request} {p : Response ChunkReader}
    (h : (Engine.exchange e r).1 = .ok p) : ∃ before a,
      Answered e.network (before ++ [a]) (Engine.exchange e r).2.network ∧
        p.status = a.status ∧ p.headers = .ofWire a.headers ∧
        p.HandsOut e.config.transport r.method a := by
  obtain ⟨before, a, u, hn, rfl⟩ := exists_responseOf h
  exact ⟨before, a, hn, rfl, rfl, Response.handsOut_responseOf ..⟩

/-- An engine whose peers answer with two bytes, after an empty piece. -/
def serving (t : Transport) : HttpEngine Answering :=
  ⟨⟨t, 10, 0, .empty⟩, [], ⟨0⟩, ⟨[⟨200,
    ⟨[("content-length", [Text.Utf8.encode "2"]),
      ("content-type", [Text.Utf8.encode "text/plain"])]⟩,
    [[], [104, 105]], false⟩]⟩⟩

/-- A request for it. -/
def getting : Request := { posting 0 with method := .get, body := none }

theorem handsOut_serving : ∃ p, (Engine.exchange (serving .buffering) getting).1 = .ok p ∧
    ∃ before a, Answered (serving .buffering).network (before ++ [a])
      (Engine.exchange (serving .buffering) getting).2.network ∧
        p.status = a.status ∧ p.headers = .ofWire a.headers ∧
        p.HandsOut .buffering .get a := by
  have ho : (Engine.exchange (serving .buffering) getting).1.isOk = true := by decide +kernel
  cases hp : (Engine.exchange (serving .buffering) getting).1 with
  | ok p => exact ⟨p, rfl, handsOut_exchange hp⟩
  | error f => rw [hp] at ho; cases ho
  | crash c => rw [hp] at ho; cases ho

end HttpEngine

end Refetch
