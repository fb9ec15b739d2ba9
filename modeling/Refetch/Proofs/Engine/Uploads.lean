import Refetch.Engine.Http
import Refetch.Proofs.Io.Reading
/-!
# What is uploaded

A stream and a buffered body are read from the same source in two ways. What gets through to a peer
is all or nothing in both (`Payload.uploaded?`).

1. A stream ends before the first fault, so what is sent of it is a beginning of what the source
   gives until then (`pump_begins`): the declared number of bytes, and never fewer
   (`stream_declared`). Without a declared length it is everything, and there is no fault
   (`stream_undeclared`). A source without a fault is sent as far as declared
   (`stream_of_faultless`).
2. A buffered body is everything that the source gives, and no fault does more than interrupt
   (`open_of_readAll`, `uploaded?_of_lasting`).
3. Both are the same for a source that keeps its word (`Script.Honest`): it gives as many bytes as
   declared before any fault and no byte more, or fails both (`uploaded?_of_honest`).
-/

namespace Refetch

namespace Script

section Read

variable {s rest : Script} {n : Nat} {bs : Bytes} {e : IoError} {totals : List Nat}

theorem read_ok (hn : 0 < n) (h : Source.read s n = ⟨.ok bs, rest, totals⟩) :
    lead s = bs ++ lead rest ∧ contents s = bs ++ contents rest ∧ faults s = faults rest := by
  have hl := (lead_read hn).1 bs (by rw [h])
  have hc := (contents_read hn).1 bs (by rw [h])
  have hf := (faults_read hn).1 bs (by rw [h])
  rw [h] at hl hc hf
  exact ⟨hl, hc, hf⟩

theorem read_end (hn : 0 < n) (h : Source.read s n = ⟨.ok [], rest, totals⟩) :
    lead s = [] ∧ contents s = [] ∧ faults s = [] :=
  ⟨(lead_read hn).2.2 (by rw [h]), (contents_read hn).2.2.1 (by rw [h]),
    (faults_read hn).2.2 (by rw [h])⟩

theorem read_error (hn : 0 < n) (h : Source.read s n = ⟨.error e, rest, totals⟩) :
    lead s = [] ∧ faults s ≠ [] := by
  have hf := (faults_read hn).2.1 e (by rw [h])
  refine ⟨(lead_read hn).2.1 e (by rw [h]), ?_⟩
  rw [hf]
  exact List.cons_ne_nil _ _

end Read

end Script

namespace Upload

open Script

variable {reachable : Bool} {length : Option Nat} {n done total : Nat} {hn : 0 < n} {s : Script}
  {bs : Bytes}

/-! ## Streams -/

theorem exists_of_map {ε α β : Type} {f : α → β} {x : Except ε α} {b : β} (h : x.map f = .ok b) :
    ∃ a, x = .ok a ∧ f a = b := by
  cases x with
  | error e => cases h
  | ok a => exact ⟨a, rfl, Except.ok.inj h⟩

/-- What is sent is a beginning of what comes before the first fault. -/
theorem pump_begins (h : pump reachable length n hn done s = .ok bs) : bs <+: lead s := by
  fun_induction pump reachable length n hn done s generalizing bs with
  | case1 done s hd =>
    cases h
    exact List.nil_prefix
  | case2 done s hd rest totals hr =>
    cases h
    exact List.nil_prefix
  | case3 => cases h
  | case4 => cases h
  | case5 done s hd b bs' rest totals hr hx hlt ih =>
    obtain ⟨more, hm, rfl⟩ := exists_of_map h
    rw [(read_ok hn hr).1]
    exact (List.prefix_append_right_inj _).2 (ih hm)

/-- A source that gives the declared bytes and has no fault before is sent as declared. -/
theorem pump_declared (h : done + (lead s).length = total) :
    pump true (some total) n hn done s = .ok (lead s) := by
  fun_induction pump true (some total) n hn done s with
  | case1 done s hd =>
    obtain rfl := Option.some.inj hd
    rw [List.length_eq_zero_iff.1 (Nat.add_eq_left.1 h)]
  | case2 done s hd rest totals hr => rw [(read_end hn hr).1]
  | case3 done s hd e rest totals hr =>
    -- a fault comes only after the declared bytes
    rw [(read_error hn hr).1] at h
    exact absurd (congrArg some h) hd
  | case4 done s hd b bs rest totals hr hx => cases hx
  | case5 done s hd b bs rest totals hr hx hlt ih =>
    rw [(read_ok hn hr).1] at h ⊢
    rw [List.length_append, ← Nat.add_assoc] at h
    rw [ih h]
    rfl

/-- Without a fault the stream ends with its source, or at its declared length. -/
theorem pump_faultless (h : faults s = []) : ∃ bs, pump true length n hn done s = .ok bs ∧
    (bs = contents s ∨ length = some (done + bs.length)) := by
  fun_induction pump true length n hn done s with
  | case1 done s hd => exact ⟨[], rfl, .inr hd.symm⟩
  | case2 done s hd rest totals hr => exact ⟨[], rfl, .inl (read_end hn hr).2.1.symm⟩
  | case3 done s hd e rest totals hr => exact absurd h (read_error hn hr).2
  | case4 done s hd b bs rest totals hr hx => cases hx
  | case5 done s hd b bs rest totals hr hx hlt ih =>
    obtain ⟨-, hc, hf⟩ := read_ok hn hr
    obtain ⟨more, hm, hend⟩ := ih (hf ▸ h)
    rw [hm]
    refine ⟨_, rfl, hend.imp (fun hmore => ?_) fun hl => ?_⟩
    · rw [hc, hmore]
    · rw [hl, List.length_append, Nat.add_assoc]

/-- Without a declared length everything is sent, unless there is a fault. -/
theorem pump_undeclared (h : pump reachable none n hn done s = .ok bs) :
    faults s = [] ∧ bs = contents s := by
  fun_induction pump reachable none n hn done s generalizing bs with
  | case1 done s hd => cases hd
  | case2 done s hd rest totals hr =>
    obtain ⟨-, hc, hf⟩ := read_end hn hr
    cases h
    exact ⟨hf, hc.symm⟩
  | case3 => cases h
  | case4 => cases h
  | case5 done s hd b bs' rest totals hr hx hlt ih =>
    obtain ⟨-, hc, hf⟩ := read_ok hn hr
    obtain ⟨more, hm, rfl⟩ := exists_of_map h
    obtain ⟨hnone, rfl⟩ := ih hm
    exact ⟨hf.trans hnone, hc.symm⟩

/-- What is read is a beginning of what comes before the first fault. -/
theorem collect_begins (h : collect reachable length s = .ok bs) : bs <+: lead s := by
  unfold collect at h
  split at h
  · cases h
    exact List.nil_prefix
  · exact pump_begins h

theorem cut_of_le (h : total ≤ bs.length) : cut total bs = .ok (bs.take total) :=
  if_neg (Nat.not_lt.2 h)

theorem cut_of_lt (h : bs.length < total) : cut total bs = .error .short := if_pos h

/-- What gets through of a stream that is framed as it is known. -/
def stream (reachable : Bool) (length : Option Nat) (s : Script) : Except UploadFault Bytes :=
  (collect reachable length s).bind fun bs =>
    match length with
    | some n => cut n bs
    | none => .ok bs

/-- **A stream of declared length** is sent as this many bytes, the first that the source gives
before any fault, or not at all. -/
theorem stream_declared (h : stream reachable (some total) s = .ok bs) :
    bs = (lead s).take total ∧ bs.length = total := by
  unfold stream at h
  cases hc : collect reachable (some total) s with
  | error f => rw [hc] at h; cases h
  | ok sent =>
    obtain ⟨rest, hl⟩ := collect_begins hc
    rw [hc] at h
    rcases Nat.lt_or_ge sent.length total with hlt | hle
    · exact absurd ((cut_of_lt hlt).symm.trans h) nofun
    · obtain rfl := Except.ok.inj ((cut_of_le hle).symm.trans h)
      rw [← hl, List.take_append_of_le_length hle]
      exact ⟨rfl, List.length_take_of_le hle⟩

theorem stream_of_declared (h : (lead s).length = total) :
    stream true (some total) s = .ok (lead s) := by
  have hc : collect true (some total) s = .ok (lead s) := by
    unfold collect
    split
    · obtain rfl := Option.some.inj ‹_›
      rw [List.length_eq_zero_iff.1 h]
    · exact pump_declared (by omega)
  unfold stream
  rw [hc]
  exact (cut_of_le h.ge).trans (by rw [List.take_of_length_le h.le])

/-- **A stream without a fault** is sent as far as declared, if it is long enough. -/
theorem stream_of_faultless (h : faults s = []) : stream true length s =
    match length with
    | none => .ok (contents s)
    | some n => if n ≤ (contents s).length then .ok ((contents s).take n) else .error .short := by
  obtain ⟨bs, hc, hend⟩ : ∃ bs, collect true length s = .ok bs ∧
      (bs = contents s ∨ length = some bs.length) := by
    unfold collect
    split
    · exact ⟨[], rfl, .inr ‹some 0 = length›.symm⟩
    · obtain ⟨bs, hp, hend⟩ := pump_faultless h
      exact ⟨bs, hp, hend.imp_right (·.trans (by rw [Nat.zero_add]))⟩
  have hbegins : bs <+: contents s := lead_of_faultless h ▸ collect_begins hc
  unfold stream
  rw [hc]
  cases length with
  | none =>
    obtain rfl : bs = contents s := hend.resolve_right nofun
    rfl
  | some n =>
    show cut n bs = if n ≤ (contents s).length then _ else _
    rcases hend with rfl | hl
    · split
      · exact cut_of_le ‹_›
      · exact cut_of_lt (Nat.not_le.1 ‹_›)
    · obtain rfl : n = bs.length := Option.some.inj hl
      rw [cut_of_le (Nat.le_refl _), if_pos hbegins.length_le, List.take_length,
        ← List.prefix_iff_eq_take.1 hbegins]

/-- **A stream of no declared length** is sent whole, unless there is a fault. -/
theorem stream_undeclared (h : stream reachable none s = .ok bs) :
    faults s = [] ∧ bs = contents s := by
  unfold stream at h
  cases hc : collect reachable none s with
  | error f => rw [hc] at h; cases h
  | ok sent =>
    rw [hc] at h
    cases h
    unfold collect at hc
    split at hc
    · cases ‹some 0 = none›
    · exact pump_undeclared hc

end Upload

/-! ## Buffered bodies -/

namespace Payload

/-- A body is read whole, unless a fault does more than interrupt. -/
theorem readAll_of_open {p : Payload} {s : Script} (h : p.openReader.1 = .ok s) :
    p.readAll = match s.faults.find? fun e => !e.isInterrupted with
      | some e => .error e
      | none => .ok s.contents := by
  unfold readAll
  rw [h]
  dsimp only
  rw [Script.failure_readToEnd]
  cases hf : s.faults.find? fun e => !e.isInterrupted with
  | some e => rfl
  | none =>
    dsimp only
    rw [Script.data_readToEnd ((Script.failure_readToEnd s).trans hf)]

end Payload

namespace Script

variable {s : Script}

/-- The source fails for good. -/
def Fails (s : Script) : Prop := ∃ e ∈ s.faults, e.isInterrupted = false

theorem find?_of_fails (h : s.Fails) :
    ∃ e, s.faults.find? (fun e => !e.isInterrupted) = some e := by
  obtain ⟨e, he, hi⟩ := h
  refine Option.ne_none_iff_exists'.1 fun hn => ?_
  simpa [hi] using List.find?_eq_none.1 hn e he

theorem find?_of_lasting (h : ¬ s.Fails) :
    s.faults.find? (fun e => !e.isInterrupted) = none := by
  refine List.find?_eq_none.2 fun e he => ?_
  rw [Bool.not_eq_true', Bool.not_eq_false]
  by_contra hi
  exact h ⟨e, he, Bool.eq_false_iff.2 hi⟩

end Script

/-- **A body that is read whole** is all that its source gives, and the source does not fail. -/
theorem Payload.open_of_readAll {p : Payload} {bs : Bytes} (h : p.readAll = .ok bs) :
    ∃ s, p.openReader.1 = .ok s ∧ ¬ s.Fails ∧ bs = s.contents := by
  cases ho : p.openReader.1 with
  | error f =>
    rw [readAll, ho] at h
    cases h
  | ok s =>
    rw [readAll_of_open ho] at h
    by_cases hf : s.Fails
    · obtain ⟨e, he⟩ := Script.find?_of_fails hf
      rw [he] at h
      cases h
    · rw [Script.find?_of_lasting hf] at h
      cases h
      exact ⟨s, rfl, hf, rfl⟩

/-! ## Both -/

namespace Script

variable {s : Script} {length : Option Nat}

/-- The source keeps its word. It gives as many bytes as declared, and nothing interrupts it before
that; or it fails for good, and has a fault before the last declared byte. -/
def Honest (length : Option Nat) (s : Script) : Prop :=
  match length with
  | some n => s.lead.length = n ∧ s.contents.length = n ∧ ¬ s.Fails ∨ s.lead.length < n ∧ s.Fails
  | none => s.faults = [] ∨ s.Fails

theorem stream_of_honest (h : s.Honest length) :
    ¬ s.Fails ∧ Upload.stream true length s = .ok s.contents ∨
      s.Fails ∧ ∃ f, Upload.stream true length s = .error f := by
  have hnot (hn : ∀ bs, Upload.stream true length s ≠ .ok bs) :
      ∃ f, Upload.stream true length s = .error f := by
    cases hs : Upload.stream true length s with
    | error f => exact ⟨f, rfl⟩
    | ok bs => exact absurd hs (hn bs)
  cases length with
  | none =>
    rcases h with hf | hf
    · refine .inl ⟨?_, Upload.stream_of_faultless hf⟩
      rintro ⟨e, he, -⟩
      rw [hf] at he
      cases he
    · refine .inr ⟨hf, hnot fun bs hs => ?_⟩
      obtain ⟨e, he, -⟩ := hf
      rw [(Upload.stream_undeclared hs).1] at he
      cases he
  | some n =>
    rcases h with ⟨hl, hc, hf⟩ | ⟨hl, hf⟩
    · have heq : s.lead = s.contents := (lead_begins s).eq_of_length (hl.trans hc.symm)
      exact .inl ⟨hf, heq ▸ Upload.stream_of_declared hl⟩
    · refine .inr ⟨hf, hnot fun bs hs => ?_⟩
      obtain ⟨rfl, hb⟩ := Upload.stream_declared hs
      rw [List.length_take] at hb
      omega

end Script

namespace BytesBody

theorem contents_openReader (b : BytesBody) : b.openReader.contents = b.data := List.append_nil _

end BytesBody

namespace Payload

variable {p : Payload}

/-- The source that the body gives away keeps its word. -/
def Honest (p : Payload) : Prop := ∀ s, p.openReader.1 = .ok s → s.Honest p.contentLength?

/-- What gets through to a peer that takes it. -/
def uploaded? (p : Payload) : Transport → Option Bytes
  | .streaming => p.openReader.1.toOption.bind fun s =>
      (Upload.stream true p.contentLength? s).toOption
  | .buffering => p.readAll.toOption

/-- The bytes are those of the body, as this transport takes them. A stream is cut to its declared
length, and has no fault before; a buffered body is all that the source gives, which does not fail
for good. -/
def Uploads (p : Payload) (bs : Bytes) : Transport → Prop
  | .streaming => ∃ s, p.openReader.1 = .ok s ∧
      match p.contentLength? with
      | some n => bs = s.lead.take n ∧ bs.length = n
      | none => s.faults = [] ∧ bs = s.contents
  | .buffering => ∃ s, p.openReader.1 = .ok s ∧ ¬ s.Fails ∧ bs = s.contents

theorem ok_of_toOption {ε α : Type} {x : Except ε α} {a : α} (h : x.toOption = some a) :
    x = .ok a := by
  cases x with
  | error e => cases h
  | ok b => rw [Option.some.inj h]

/-- **What gets through** are the bytes of the body. -/
theorem uploads_of_uploaded {t : Transport} {bs : Bytes} (h : p.uploaded? t = some bs) :
    p.Uploads bs t := by
  cases t with
  | streaming =>
    obtain ⟨s, ho, hs⟩ := Option.bind_eq_some_iff.1 h
    have hbs := ok_of_toOption hs
    refine ⟨s, ok_of_toOption ho, ?_⟩
    cases hc : p.contentLength? with
    | some n => exact Upload.stream_declared (hc ▸ hbs)
    | none => exact Upload.stream_undeclared (hc ▸ hbs)
  | buffering => exact open_of_readAll (ok_of_toOption h)

/-- **A buffered body** gets through as it is, if its source does not fail for good. -/
theorem uploaded?_of_lasting {s : Script} (ho : p.openReader.1 = .ok s) (hf : ¬ s.Fails) :
    p.uploaded? .buffering = some s.contents := by
  unfold uploaded?
  rw [readAll_of_open ho, Script.find?_of_lasting hf]
  rfl

/-- **A streamed body** without a fault gets through as far as declared, if it is long enough. -/
theorem uploaded?_of_faultless {s : Script} (ho : p.openReader.1 = .ok s) (hf : s.faults = []) :
    p.uploaded? .streaming =
      match p.contentLength? with
      | none => some s.contents
      | some n => if n ≤ s.contents.length then some (s.contents.take n) else none := by
  unfold uploaded?
  rw [ho]
  dsimp only [Except.toOption, Option.bind_some]
  rw [Upload.stream_of_faultless hf]
  cases p.contentLength? with
  | none => rfl
  | some n =>
    dsimp only
    by_cases hn : n ≤ s.contents.length
    · rw [if_pos hn, if_pos hn]
    · rw [if_neg hn, if_neg hn]

/-- **Both transports** take the same of a body that keeps its word. -/
theorem uploaded?_of_honest (hp : p.Honest) : p.uploaded? .streaming = p.uploaded? .buffering := by
  unfold uploaded?
  cases ho : p.openReader.1 with
  | error f =>
    rw [readAll, ho]
    rfl
  | ok s =>
    rw [readAll_of_open ho]
    dsimp only [Except.toOption, Option.bind_some]
    rcases Script.stream_of_honest (hp s ho) with ⟨hf, hs⟩ | ⟨hf, f, hs⟩
    · rw [Script.find?_of_lasting hf, hs]
    · obtain ⟨e, he⟩ := Script.find?_of_fails hf
      rw [he, hs]

end Payload

end Refetch
