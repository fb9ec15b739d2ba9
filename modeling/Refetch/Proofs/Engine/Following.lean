import Mathlib.Tactic
import Refetch.Engine.Http
/-!
# Chains of requests

What reaches the peers is written down by a network between them and the engine (`Recorder`).

1. Two requests that differ in their upload only leave the same behind, if the peers answer them the
   same (`send_alike`).
2. Two chains that start with such requests go on alike, if the first answer does not ask for the
   body again, which one of them may not be able to send (`follow_alike`). After the first
   redirection no body is left.
3. The first request of a chain is the first that reaches a peer (`received_follow`).
-/

namespace Refetch

variable {ν : Type} [Network ν]

/-! ## Recorders -/

/-- A network that writes down what reaches its peers. -/
structure Recorder (ν : Type) where
  network : ν
  received : List WireRequest

instance : Network (Recorder ν) where
  reaches r u := Network.reaches r.network u
  send r w := ((Network.send r.network w).1, ⟨(Network.send r.network w).2, r.received ++ [w]⟩)

/-- The requests are the same up to what is uploaded. -/
def WireRequest.Alike (v w : WireRequest) : Prop :=
  { v with framing := w.framing, body := w.body } = w

/-- The same requests reached the peers, up to what is uploaded, and left the same network. -/
structure Recorder.Alike (m n : Recorder ν) : Prop where
  network : m.network = n.network
  received : List.Forall₂ WireRequest.Alike m.received n.received

theorem send_alike {m n : Recorder ν} (h : m.Alike n) {v w : WireRequest} (hw : v.Alike w)
    (hs : Network.send m.network v = Network.send m.network w) :
    (Network.send m v).1 = (Network.send n w).1 ∧
      (Network.send m v).2.Alike (Network.send n w).2 := by
  rw [h.network] at hs
  have hs' : Network.send m.network v = Network.send n.network w := by rw [h.network, hs]
  exact ⟨congrArg (·.1) hs', congrArg (·.2) hs', List.rel_append h.received (.cons hw .nil)⟩

/-! ## Hops -/

namespace Http

/-- Where an answer leads. -/
def target? (url : Url) (a : WireAnswer) : Option Url :=
  ((a.headers.get? "location").bind fun v => (Text.Utf8.decode v).toOption).bind
    (Redirect.resolve? url)

/-- The answer asks to send a body again, to where it leads. -/
def AsksAgain (method : Method) (url : Url) (a : WireAnswer) : Prop :=
  (∃ m, Redirect.next? a.status method = some (m, true)) ∧ (target? url a).isSome

theorem next?_of_redirected {h : Hop} {a : WireAnswer} {method : Method} {keeps : Bool}
    (hd : Redirect.next? a.status h.method = some (method, keeps)) : h.next? a =
      if keeps && h.body.isSome && !h.repeatable then none
      else (target? h.url a).map fun target =>
        ⟨method, target, Redirect.headers h.url target keeps h.headers,
          if keeps then h.framing else .none, if keeps then h.body else none, h.repeatable⟩ := by
  unfold Hop.next? target?
  rw [hd]
  dsimp only
  cases (a.headers.get? "location").bind fun v => (Text.Utf8.decode v).toOption <;> rfl

/-- The hops differ at most in what is uploaded and in whether that can be done again. -/
structure Hop.Alike (h k : Hop) : Prop where
  same : { h with framing := k.framing, body := k.body, repeatable := k.repeatable } = k
  body : h.body.isSome = k.body.isSome
  framing : h.body = none → h.framing = k.framing

variable {clock : Timestamp} {jar : CookieJar} {h k : Hop} {a : WireAnswer}

theorem Hop.Alike.toWire (hk : h.Alike k) :
    (h.toWire clock jar).Alike (k.toWire clock jar) := by
  rw [← hk.same]
  rfl

/-- Hops without a body are sent as the same. -/
theorem Hop.Alike.toWire_eq (hk : h.Alike k) (hb : h.body = none) :
    h.toWire clock jar = k.toWire clock jar := by
  have hb' : k.body = none := by simpa [hb] using hk.body.symm
  rw [← hk.same, ← hk.framing hb, hb', ← hb]
  rfl

/-- The next hops are alike, if the body is not asked for again. They have no body then. -/
theorem Hop.Alike.next? (hk : h.Alike k) (ha : h.body.isSome → ¬ AsksAgain h.method h.url a) :
    h.next? a = none ∧ k.next? a = none ∨
      ∃ h' k', h.next? a = some h' ∧ k.next? a = some k' ∧ h'.Alike k' ∧ h'.body = none := by
  obtain ⟨method, url, headers, framing, body, repeatable⟩ := h
  obtain ⟨method', url', headers', framing', body', repeatable'⟩ := k
  obtain ⟨rfl, rfl, rfl⟩ : method = method' ∧ url = url' ∧ headers = headers' := by
    simpa using hk.same
  have hbody : body = none → body' = none := fun hb => by simpa [hb] using hk.body.symm
  have hframing : body = none → framing = framing' := hk.framing
  dsimp only at ha
  cases hd : Redirect.next? a.status method with
  | none =>
    unfold Hop.next?
    rw [hd]
    exact .inl ⟨rfl, rfl⟩
  | some next =>
    obtain ⟨method', keeps⟩ := next
    rw [next?_of_redirected hd, next?_of_redirected hd]
    dsimp only
    cases ht : target? url a with
    | none => exact .inl ⟨ite_self _, ite_self _⟩
    | some target =>
      refine .inr ?_
      cases keeps with
      | false => exact ⟨_, _, rfl, rfl, ⟨rfl, rfl, fun _ => rfl⟩, rfl⟩
      | true =>
        -- a body would be asked for again
        obtain rfl : body = none := by
          by_contra hb
          exact ha (Option.isSome_iff_ne_none.2 hb) ⟨⟨method', hd⟩, by rw [ht]; rfl⟩
        obtain rfl := hbody rfl
        obtain rfl := hframing rfl
        exact ⟨_, _, rfl, rfl, ⟨rfl, rfl, fun _ => rfl⟩, rfl⟩

/-- The peers answer both hops the same, and do not ask for the body again. -/
structure Hop.Twins (clock : Timestamp) (jar : CookieJar) (n : ν) (h k : Hop) : Prop where
  alike : h.Alike k
  send : Network.send n (h.toWire clock jar) = Network.send n (k.toWire clock jar)
  once : h.body.isSome → ∀ a, (Network.send n (h.toWire clock jar)).1 = some a →
    ¬ AsksAgain h.method h.url a

/-- There is no body to ask for. -/
theorem Hop.Alike.twins (hk : h.Alike k) (hb : h.body = none) (n : ν) :
    Hop.Twins clock jar n h k :=
  ⟨hk, by rw [hk.toWire_eq hb], by simp [hb]⟩

/-! ## Chains -/

section Follow

variable {left : Nat} {n : ν}

theorem follow_of_unreached (hr : Network.reaches n h.url = false) :
    follow clock left h jar n = ⟨.error (.send h.url), jar, n⟩ := by
  unfold follow
  rw [if_neg (by simp [hr])]

theorem follow_of_unanswered (hr : Network.reaches n h.url = true)
    (hs : (Network.send n (h.toWire clock jar)).1 = none) : follow clock left h jar n =
      ⟨.error (.send h.url), jar, (Network.send n (h.toWire clock jar)).2⟩ := by
  unfold follow
  rw [if_pos hr]
  split
  · rw [‹Network.send n _ = _›]
  · simp [‹Network.send n _ = _›] at hs

theorem follow_of_answered (hr : Network.reaches n h.url = true)
    (hs : (Network.send n (h.toWire clock jar)).1 = some a) : follow clock left h jar n =
      match h.next? a, left with
      | none, _ => ⟨.ok (a, h.url), jar.update clock h.url (setCookies a),
          (Network.send n (h.toWire clock jar)).2⟩
      | some _, 0 => ⟨.error (.redirections h.url), jar.update clock h.url (setCookies a),
          (Network.send n (h.toWire clock jar)).2⟩
      | some next, left + 1 =>
        if isHttp next.url then
          follow clock left next (jar.update clock h.url (setCookies a))
            (Network.send n (h.toWire clock jar)).2
        else ⟨.error (.scheme next.url), jar.update clock h.url (setCookies a),
          (Network.send n (h.toWire clock jar)).2⟩ := by
  conv_lhs => unfold follow
  rw [if_pos hr]
  split
  · simp [‹Network.send n _ = _›] at hs
  · obtain rfl : _ = a := by simpa [‹Network.send n _ = _›] using hs
    rewrite [‹Network.send n _ = _›]
    cases h.next? _ <;> cases left <;> rfl

end Follow

/-- The chains ended alike. -/
structure Chain.Alike (c d : Chain (Recorder ν)) : Prop where
  result : c.result = d.result
  jar : c.jar = d.jar
  network : c.network.Alike d.network

theorem reaches_alike {m n : Recorder ν} (hm : m.Alike n) (u : Url) :
    Network.reaches m u = Network.reaches n u := by
  show Network.reaches m.network u = Network.reaches n.network u
  rw [hm.network]

/-- **Chains that start alike** end alike, if the peers answer the same and do not ask for the body
again. -/
theorem follow_alike (left : Nat) {m n : Recorder ν} (hm : m.Alike n)
    (hk : Hop.Twins clock jar m.network h k) :
    Chain.Alike (follow clock left h jar m) (follow clock left k jar n) := by
  induction left using Nat.strong_induction_on generalizing h k jar m n with
  | _ left ih =>
    have hurl : h.url = k.url := by rw [← hk.alike.same]
    obtain ⟨hanswer, hnet⟩ := send_alike hm hk.alike.toWire hk.send
    cases hr : Network.reaches m h.url with
    | false =>
      have hr' : Network.reaches n k.url = false := by rw [← hurl, ← reaches_alike hm, hr]
      rw [follow_of_unreached hr, follow_of_unreached hr', hurl]
      exact ⟨rfl, rfl, hm⟩
    | true =>
      have hr' : Network.reaches n k.url = true := by rw [← hurl, ← reaches_alike hm, hr]
      cases hs : (Network.send m (h.toWire clock jar)).1 with
      | none =>
        rw [follow_of_unanswered hr hs, follow_of_unanswered hr' (hanswer ▸ hs), hurl]
        exact ⟨rfl, rfl, hnet⟩
      | some a =>
        rw [follow_of_answered hr hs, follow_of_answered hr' (hanswer ▸ hs), ← hurl]
        rcases hk.alike.next? fun hb => hk.once hb a hs with
          ⟨hn, hn'⟩ | ⟨h', k', hn, hn', hnext, hb⟩
        · rw [hn, hn']
          exact ⟨rfl, rfl, hnet⟩
        · have hurl' : h'.url = k'.url := by rw [← hnext.same]
          rw [hn, hn']
          cases left with
          | zero => exact ⟨rfl, rfl, hnet⟩
          | succ left =>
            dsimp only
            rw [← hurl']
            split
            · exact ih left (Nat.lt_succ_self left) hnet (hnext.twins hb _)
            · exact ⟨rfl, rfl, hnet⟩

/-- After the first request the chain is at its end, or goes on with another hop. -/
theorem network_follow (clock : Timestamp) (left : Nat) (h : Hop) (jar : CookieJar) (n : ν)
    (hr : Network.reaches n h.url = true) :
    (follow clock left h jar n).network = (Network.send n (h.toWire clock jar)).2 ∨
      ∃ less < left, ∃ next jar', (follow clock left h jar n).network =
        (follow clock less next jar' (Network.send n (h.toWire clock jar)).2).network := by
  cases hs : (Network.send n (h.toWire clock jar)).1 with
  | none =>
    rw [follow_of_unanswered hr hs]
    exact .inl rfl
  | some a =>
    rw [follow_of_answered hr hs]
    cases h.next? a with
    | none => exact .inl rfl
    | some next =>
      cases left with
      | zero => exact .inl rfl
      | succ left =>
        dsimp only
        split
        · exact .inr ⟨left, Nat.lt_succ_self left, next, _, rfl⟩
        · exact .inl rfl

/-- What reached the peers before stays written down. -/
theorem received_begins (clock : Timestamp) (left : Nat) (h : Hop) (jar : CookieJar)
    (n : Recorder ν) : n.received <+: (follow clock left h jar n).network.received := by
  induction left using Nat.strong_induction_on generalizing h jar n with
  | _ left ih =>
    have hsent : n.received <+: (Network.send n (h.toWire clock jar)).2.received :=
      List.prefix_append ..
    cases hr : Network.reaches n h.url with
    | false =>
      rw [follow_of_unreached hr]
    | true =>
      rcases network_follow clock left h jar n hr with hn | ⟨less, hl, next, jar', hn⟩
      · rw [hn]
        exact hsent
      · rw [hn]
        exact hsent.trans (ih less hl next jar' _)

/-- **The first request** of a chain is the first that reaches a peer. -/
theorem received_follow (clock : Timestamp) (left : Nat) (h : Hop) (jar : CookieJar)
    (n : Recorder ν) (hr : Network.reaches n h.url = true) :
    n.received ++ [h.toWire clock jar] <+: (follow clock left h jar n).network.received := by
  rcases network_follow clock left h jar n hr with hn | ⟨less, -, next, jar', hn⟩
  · rw [hn]
    exact List.prefix_rfl
  · rw [hn]
    exact received_begins clock less next jar' (Network.send n (h.toWire clock jar)).2

end Http

end Refetch
