import Mathlib.Tactic
import Refetch.Io.Copy
/-!
# What a copy copies

A copy is compared with draining its source: reading it to the end with the same piece size.

1. `writeAll` offers all of the bytes; it fails exactly when the sink did not accept them all.
2. A copy ends well exactly when the source drains without failure and the sink accepted all that
   it gave (`outcome_copyFrom_eq_ok_iff`). Its count is then the number of bytes drained.
3. A relation between a sink and the bytes it accepted that every write keeps, is kept by the whole
   copy (`Keeps.copyFrom`): what arrives is always a beginning of what the source gives.
-/

namespace Refetch

/-- The bytes that the answer to an offer says were accepted. -/
def Sink.taken : Except IoError Nat → Nat
  | .ok n => n
  | .error _ => 0

namespace Traffic

@[simp] theorem accepted_nil : accepted [] = 0 := rfl

@[simp] theorem accepted_cons_total (n : Nat) (ts : List Traffic) :
    accepted (.total n :: ts) = accepted ts := rfl

@[simp] theorem accepted_cons_offer (n k : Nat) (ts : List Traffic) :
    accepted (.offer n k :: ts) = k + accepted ts := rfl

@[simp] theorem accepted_append (ts us : List Traffic) :
    accepted (ts ++ us) = accepted ts + accepted us := by
  induction ts with
  | nil => simp
  | cons t ts ih => cases t <;> simp [ih, Nat.add_assoc]

@[simp] theorem accepted_map_total (ns : List Nat) : accepted (ns.map total) = 0 := by
  induction ns with
  | nil => rfl
  | cons n ns ih => simp [ih]

/-- The totals that were reported during some traffic. -/
def totals (ts : List Traffic) : List Nat :=
  ts.filterMap fun
    | .total n => some n
    | .offer _ _ => none

@[simp] theorem totals_append (ts us : List Traffic) :
    totals (ts ++ us) = totals ts ++ totals us := List.filterMap_append

@[simp] theorem totals_map_total (ns : List Nat) : totals (ns.map total) = ns := by
  simp [totals, List.filterMap_map]

end Traffic

/-! ## Writing everything -/

section WriteAll

variable {σ : Type} [Sink σ] {s : σ} {bs : Bytes}

@[simp] theorem writeAll_nil (s : σ) : writeAll s [] = ⟨none, s, []⟩ := by
  rw [writeAll, dif_pos rfl]

theorem writeAll_of_ok_zero (hb : bs ≠ []) (h : (Sink.write s bs).1 = .ok 0) :
    writeAll s bs = ⟨some writeZero, (Sink.write s bs).2, [.offer bs.length 0]⟩ := by
  rw [writeAll, dif_neg hb]
  split <;> simp_all

theorem writeAll_of_ok_succ (hb : bs ≠ []) {n : Nat} (h : (Sink.write s bs).1 = .ok (n + 1)) :
    writeAll s bs =
      { writeAll (Sink.write s bs).2 (bs.drop (n + 1)) with
        traffic := .offer bs.length (n + 1) ::
          (writeAll (Sink.write s bs).2 (bs.drop (n + 1))).traffic } := by
  rw [writeAll, dif_neg hb]
  split <;> simp_all

theorem writeAll_of_interrupted (hb : bs ≠ []) {e : IoError} (h : (Sink.write s bs).1 = .error e)
    (he : e.isInterrupted) :
    writeAll s bs =
      { writeAll (Sink.write s bs).2 bs with
        traffic := .offer bs.length 0 :: (writeAll (Sink.write s bs).2 bs).traffic } := by
  rw [writeAll, dif_neg hb]
  split <;> simp_all

theorem writeAll_of_error (hb : bs ≠ []) {e : IoError} (h : (Sink.write s bs).1 = .error e)
    (he : e.isInterrupted = false) :
    writeAll s bs = ⟨some e, (Sink.write s bs).2, [.offer bs.length 0]⟩ := by
  rw [writeAll, dif_neg hb]
  split <;> simp_all

/-- The ways in which the writing of some bytes goes on after the first offer. -/
theorem writeAll_induction {motive : σ → Bytes → Prop} (nil : ∀ s, motive s [])
    (stuck : ∀ s bs, bs ≠ [] → (Sink.write s bs).1 = .ok 0 → motive s bs)
    (accepted : ∀ s bs n, bs ≠ [] → (Sink.write s bs).1 = .ok (n + 1) →
      motive (Sink.write s bs).2 (bs.drop (n + 1)) → motive s bs)
    (interrupted : ∀ s bs e, bs ≠ [] → (Sink.write s bs).1 = .error e → e.isInterrupted →
      motive (Sink.write s bs).2 bs → motive s bs)
    (failed : ∀ s bs e, bs ≠ [] → (Sink.write s bs).1 = .error e → e.isInterrupted = false →
      motive s bs) (s : σ) (bs : Bytes) : motive s bs := by
  induction s, bs using writeAll.induct with
  | case1 s => exact nil s
  | case2 s bs hb s' h => exact stuck s bs hb (by rw [h])
  | case3 s bs hb n s' h ih => exact accepted s bs n hb (by rw [h]) (by rw [h]; exact ih)
  | case4 s bs hb e s' h hi _ ih => exact interrupted s bs e hb (by rw [h]) hi (by rw [h]; exact ih)
  | case5 s bs hb e s' h hi => exact failed s bs e hb (by rw [h]) (by simpa using hi)

/-- The sink accepts no more than it is offered, and all of it unless the writing fails. -/
theorem accepted_writeAll (s : σ) (bs : Bytes) :
    Traffic.accepted (writeAll s bs).traffic ≤ bs.length ∧
      ((writeAll s bs).failure = none ↔
        Traffic.accepted (writeAll s bs).traffic = bs.length) := by
  induction s, bs using writeAll_induction with
  | nil s => simp
  | stuck s bs hb h =>
    have := List.length_pos_iff.2 hb
    rw [writeAll_of_ok_zero hb h]
    simp; omega
  | accepted s bs n hb h ih =>
    have hn : n + 1 ≤ bs.length := Sink.accepted_le h
    rw [writeAll_of_ok_succ hb h]
    rw [List.length_drop] at ih
    simp only [Traffic.accepted_cons_offer]
    refine ⟨by omega, ih.2.trans ⟨fun h => by omega, fun h => by omega⟩⟩
  | interrupted s bs e hb h he ih =>
    rw [writeAll_of_interrupted hb h he]
    simpa using ih
  | failed s bs e hb h he =>
    have := List.length_pos_iff.2 hb
    rw [writeAll_of_error hb h he]
    simp; omega

theorem accepted_writeAll_le (s : σ) (bs : Bytes) :
    Traffic.accepted (writeAll s bs).traffic ≤ bs.length := (accepted_writeAll s bs).1

theorem failure_writeAll_eq_none_iff :
    (writeAll s bs).failure = none ↔ Traffic.accepted (writeAll s bs).traffic = bs.length :=
  (accepted_writeAll s bs).2

@[simp] theorem totals_writeAll (s : σ) (bs : Bytes) :
    Traffic.totals (writeAll s bs).traffic = [] := by
  induction s, bs using writeAll_induction with
  | nil s => simp [Traffic.totals]
  | stuck s bs hb h => rw [writeAll_of_ok_zero hb h]; rfl
  | accepted s bs n hb h ih => rw [writeAll_of_ok_succ hb h]; exact ih
  | interrupted s bs e hb h he ih => rw [writeAll_of_interrupted hb h he]; exact ih
  | failed s bs e hb h he => rw [writeAll_of_error hb h he]; rfl

end WriteAll

/-! ## Reading everything -/

namespace Source

variable {ρ : Type} [Source ρ] {r : ρ}

/-- The ways in which the reading of a source goes on after the first piece. -/
theorem reading_induction {motive : ρ → Prop}
    (ended : ∀ r, (Source.read r bufferSize).result = .ok [] → motive r)
    (bytes : ∀ r bs, bs ≠ [] → (Source.read r bufferSize).result = .ok bs →
      motive (Source.read r bufferSize).rest → motive r)
    (interrupted : ∀ r e, (Source.read r bufferSize).result = .error e → e.isInterrupted →
      motive (Source.read r bufferSize).rest → motive r)
    (failed : ∀ r e, (Source.read r bufferSize).result = .error e → e.isInterrupted = false →
      motive r) (r : ρ) : motive r := by
  induction hn : Source.remaining r using Nat.strong_induction_on generalizing r with
  | _ n ih =>
    subst hn
    have later (h : (Source.read r bufferSize).result ≠ .ok []) :
        motive (Source.read r bufferSize).rest :=
      ih _ (Source.remaining_lt (by decide) h) _ rfl
    rcases h : (Source.read r bufferSize).result with e | bs
    · cases he : e.isInterrupted with
      | true => exact interrupted r e h he (later (by simp [h]))
      | false => exact failed r e h he
    · by_cases hb : bs = []
      · exact ended r (hb ▸ h)
      · exact bytes r bs hb h (later (by simp [h, hb]))

theorem readToEnd_of_end (h : (Source.read r bufferSize).result = .ok []) :
    readToEnd r =
      ⟨[], none, (Source.read r bufferSize).rest, (Source.read r bufferSize).totals⟩ := by
  rw [readToEnd, drainWith]
  split <;> simp_all [bufferSize]

theorem readToEnd_of_bytes {bs : Bytes} (hb : bs ≠ [])
    (h : (Source.read r bufferSize).result = .ok bs) :
    readToEnd r =
      ⟨bs ++ (readToEnd (Source.read r bufferSize).rest).data,
        (readToEnd (Source.read r bufferSize).rest).failure,
        (readToEnd (Source.read r bufferSize).rest).rest,
        (Source.read r bufferSize).totals ++
          (readToEnd (Source.read r bufferSize).rest).totals⟩ := by
  rw [readToEnd, drainWith]
  split <;> simp_all [bufferSize, readToEnd]

theorem readToEnd_of_interrupted {e : IoError} (h : (Source.read r bufferSize).result = .error e)
    (he : e.isInterrupted) :
    readToEnd r =
      { readToEnd (Source.read r bufferSize).rest with
        totals := (Source.read r bufferSize).totals ++
          (readToEnd (Source.read r bufferSize).rest).totals } := by
  rw [readToEnd, drainWith]
  split <;> simp_all [bufferSize, readToEnd]

theorem readToEnd_of_error {e : IoError} (h : (Source.read r bufferSize).result = .error e)
    (he : e.isInterrupted = false) :
    readToEnd r =
      ⟨[], some e, (Source.read r bufferSize).rest, (Source.read r bufferSize).totals⟩ := by
  rw [readToEnd, drainWith]
  split <;> simp_all [bufferSize]

/-- The number of bytes that a read gave. -/
def given : Except IoError Bytes → Nat
  | .ok bs => bs.length
  | .error _ => 0

/-- Reading pieces one after the other gave these results, and left that source. -/
inductive Reads : ρ → List (Except IoError Bytes) → ρ → Prop
  | nil (r : ρ) : Reads r [] r
  | cons {r r' : ρ} {xs : List (Except IoError Bytes)}
      (h : Reads (Source.read r bufferSize).rest xs r') :
      Reads r ((Source.read r bufferSize).result :: xs) r'

end Source

namespace Script

/-- A read takes its bytes from the front of the script. -/
theorem contents_read {s : Script} {n : Nat} (hn : 0 < n) :
    (∀ bs, (Source.read s n).result = .ok bs →
      contents s = bs ++ contents (Source.read s n).rest) ∧
    (∀ e, (Source.read s n).result = .error e →
      contents s = contents (Source.read s n).rest) ∧
    ((Source.read s n).result = .ok [] → contents s = []) ∧
    (Source.read s n).totals = [] := by
  simp only [Source.read]
  fun_induction read s n <;> grind [contents, List.append_assoc, List.take_append_drop]

/-- A script without failures is read to its end, faults that only interrupt left out. -/
theorem contents_readToEnd (s : Script) :
    contents s = (Source.readToEnd s).data ++ contents (Source.readToEnd s).rest ∧
      ((Source.readToEnd s).failure = none → (Source.readToEnd s).data = contents s) := by
  induction s using Source.reading_induction with
  | ended s h =>
    have hc := (contents_read (by decide)).2.2.1 h
    have hr := (contents_read (by decide)).1 _ h
    rw [Source.readToEnd_of_end h]
    exact ⟨hr, fun _ => hc.symm⟩
  | bytes s bs hb h ih =>
    have hr := (contents_read (by decide)).1 _ h
    rw [Source.readToEnd_of_bytes hb h]
    refine ⟨?_, fun hf => ?_⟩
    · rw [hr, List.append_assoc, ← ih.1]
    · rw [hr, ← ih.2 hf]
  | interrupted s e h he ih =>
    have hr := (contents_read (by decide)).2.1 _ h
    rw [Source.readToEnd_of_interrupted h he, hr]
    exact ih
  | failed s e h he =>
    have hr := (contents_read (by decide)).2.1 _ h
    rw [Source.readToEnd_of_error h he]
    exact ⟨hr, by simp⟩

/-- The faults of a script, in order. -/
def faults : Script → List IoError
  | [] => []
  | .bytes _ :: rest => faults rest
  | .fault e :: rest => e :: faults rest

theorem faults_read {s : Script} {n : Nat} (hn : 0 < n) :
    (∀ bs, (Source.read s n).result = .ok bs → faults s = faults (Source.read s n).rest) ∧
    (∀ e, (Source.read s n).result = .error e →
      faults s = e :: faults (Source.read s n).rest) ∧
    ((Source.read s n).result = .ok [] → faults s = []) := by
  simp only [Source.read]
  fun_induction read s n <;> grind [faults, List.take_eq_nil_iff]

/-- Reading fails with the first fault that does more than interrupt. -/
theorem failure_readToEnd (s : Script) :
    (Source.readToEnd s).failure = (faults s).find? fun e => !e.isInterrupted := by
  induction s using Source.reading_induction with
  | ended s h =>
    rw [Source.readToEnd_of_end h, (faults_read (by decide)).2.2 h]
    rfl
  | bytes s bs hb h ih =>
    rw [Source.readToEnd_of_bytes hb h, (faults_read (by decide)).1 _ h]
    exact ih
  | interrupted s e h he ih =>
    rw [Source.readToEnd_of_interrupted h he, (faults_read (by decide)).2.1 _ h, List.find?_cons,
      he]
    exact ih
  | failed s e h he =>
    rw [Source.readToEnd_of_error h he, (faults_read (by decide)).2.1 _ h, List.find?_cons, he]
    rfl

theorem data_readToEnd {s : Script} (h : (Source.readToEnd s).failure = none) :
    (Source.readToEnd s).data = contents s := (contents_readToEnd s).2 h

end Script

/-! ## Copying -/

section Copy

variable {ρ σ : Type} [Source ρ] [Sink σ] {r : ρ} {s : σ} {n : Nat}

theorem copyFrom_of_end (h : (Source.read r bufferSize).result = .ok []) :
    copyFrom n r s =
      ⟨.ok n, (Source.read r bufferSize).rest, s,
        (Source.read r bufferSize).totals.map .total⟩ := by
  rw [copyFrom]
  split <;> simp_all

theorem copyFrom_of_written {bs : Bytes} (hb : bs ≠ [])
    (h : (Source.read r bufferSize).result = .ok bs) (hw : (writeAll s bs).failure = none) :
    copyFrom n r s =
      { copyFrom (n + bs.length) (Source.read r bufferSize).rest (writeAll s bs).sink with
        traffic := (Source.read r bufferSize).totals.map .total ++ (writeAll s bs).traffic ++
          (copyFrom (n + bs.length) (Source.read r bufferSize).rest
            (writeAll s bs).sink).traffic } := by
  rw [copyFrom]
  split
  · simp_all
  · rename_i b bs' rest totals hr
    obtain rfl : b :: bs' = bs := by simpa [hr] using h
    simp only [hr]
    split
    · rename_i hw'; simp [hw']
    · rename_i hw'; simp [hw'] at hw
  · simp_all

theorem copyFrom_of_unwritten {bs : Bytes} (hb : bs ≠ []) {e : IoError}
    (h : (Source.read r bufferSize).result = .ok bs) (hw : (writeAll s bs).failure = some e) :
    copyFrom n r s =
      ⟨.error e, (Source.read r bufferSize).rest, (writeAll s bs).sink,
        (Source.read r bufferSize).totals.map .total ++ (writeAll s bs).traffic⟩ := by
  rw [copyFrom]
  split
  · simp_all
  · rename_i b bs' rest totals hr
    obtain rfl : b :: bs' = bs := by simpa [hr] using h
    simp only [hr]
    split
    · rename_i hw'; simp [hw'] at hw
    · rename_i hw'; simp [hw'] at hw; simp [hw', hw]
  · simp_all

theorem copyFrom_of_interrupted {e : IoError} (h : (Source.read r bufferSize).result = .error e)
    (he : e.isInterrupted) :
    copyFrom n r s =
      { copyFrom n (Source.read r bufferSize).rest s with
        traffic := (Source.read r bufferSize).totals.map .total ++
          (copyFrom n (Source.read r bufferSize).rest s).traffic } := by
  rw [copyFrom]
  split <;> simp_all

theorem copyFrom_of_error {e : IoError} (h : (Source.read r bufferSize).result = .error e)
    (he : e.isInterrupted = false) :
    copyFrom n r s =
      ⟨.error e, (Source.read r bufferSize).rest, s,
        (Source.read r bufferSize).totals.map .total⟩ := by
  rw [copyFrom]
  split <;> simp_all

/-- **When a copy ends well**: its source has no failure, and the sink accepted all of it. The count
is then that of the bytes. -/
theorem outcome_copyFrom_eq_ok_iff {m : Nat} :
    (copyFrom n r s).outcome = .ok m ↔
      (Source.readToEnd r).failure = none ∧
        Traffic.accepted (copyFrom n r s).traffic = (Source.readToEnd r).data.length ∧
        m = n + (Source.readToEnd r).data.length := by
  induction r using Source.reading_induction generalizing n s with
  | ended r h =>
    rw [copyFrom_of_end h, Source.readToEnd_of_end h]
    simp [eq_comm]
  | bytes r bs hb h ih =>
    rw [Source.readToEnd_of_bytes hb h]
    cases hf : (writeAll s bs).failure with
    | none =>
      have := failure_writeAll_eq_none_iff.1 hf
      rw [copyFrom_of_written hb h hf]
      simp only [ih, Traffic.accepted_append, Traffic.accepted_map_total, List.length_append]
      refine and_congr_right fun _ => ?_
      omega
    | some e =>
      have : Traffic.accepted (writeAll s bs).traffic ≠ bs.length := fun ha => by
        simp [failure_writeAll_eq_none_iff.2 ha] at hf
      have := accepted_writeAll_le s bs
      rw [copyFrom_of_unwritten hb h hf]
      simp only [Traffic.accepted_append, Traffic.accepted_map_total, List.length_append,
        reduceCtorEq, false_iff]
      omega
  | interrupted r e h he ih =>
    rw [Source.readToEnd_of_interrupted h he, copyFrom_of_interrupted h he]
    simpa using ih
  | failed r e h he =>
    rw [copyFrom_of_error h he, Source.readToEnd_of_error h he]
    simp

/-- A copy that ends well uses its source up, and passes on every total. -/
theorem copyFrom_of_ok {m : Nat} (hc : (copyFrom n r s).outcome = .ok m) :
    (copyFrom n r s).source = (Source.readToEnd r).rest ∧
      Traffic.totals (copyFrom n r s).traffic = (Source.readToEnd r).totals := by
  induction r using Source.reading_induction generalizing n s with
  | ended r h =>
    rw [copyFrom_of_end h, Source.readToEnd_of_end h]
    simp
  | bytes r bs hb h ih =>
    cases hf : (writeAll s bs).failure with
    | none =>
      rw [copyFrom_of_written hb h hf] at hc ⊢
      rw [Source.readToEnd_of_bytes hb h]
      obtain ⟨hs, ht⟩ := ih hc
      exact ⟨hs, by simp [ht]⟩
    | some e =>
      rw [copyFrom_of_unwritten hb h hf] at hc
      cases hc
  | interrupted r e h he ih =>
    rw [copyFrom_of_interrupted h he] at hc ⊢
    rw [Source.readToEnd_of_interrupted h he]
    obtain ⟨hs, ht⟩ := ih hc
    exact ⟨hs, by simp [ht]⟩
  | failed r e h he =>
    rw [copyFrom_of_error h he] at hc
    cases hc

variable (σ) in
/-- The sink accepts whatever it is offered. -/
def Sink.Accepting : Prop := ∀ (s : σ) bs, (Sink.write s bs).1 = .ok bs.length

theorem failure_writeAll_of_accepting (hσ : Sink.Accepting σ) (s : σ) (bs : Bytes) :
    (writeAll s bs).failure = none := by
  cases bs with
  | nil => rw [writeAll_nil]
  | cons b bs =>
    rw [writeAll_of_ok_succ (by simp) (hσ s (b :: bs))]
    simp

/-- A copy into a sink that accepts everything ends well if its source has no failure. -/
theorem accepted_copyFrom_of_accepting (hσ : Sink.Accepting σ) (n : Nat) (r : ρ) (s : σ) :
    Traffic.accepted (copyFrom n r s).traffic = (Source.readToEnd r).data.length := by
  induction r using Source.reading_induction generalizing n s with
  | ended r h => simp [copyFrom_of_end h, Source.readToEnd_of_end h]
  | bytes r bs hb h ih =>
    have hf := failure_writeAll_of_accepting hσ s bs
    rw [copyFrom_of_written hb h hf, Source.readToEnd_of_bytes hb h]
    simp [ih, failure_writeAll_eq_none_iff.1 hf]
  | interrupted r e h he ih =>
    rw [copyFrom_of_interrupted h he, Source.readToEnd_of_interrupted h he]
    simpa using ih n s
  | failed r e h he => simp [copyFrom_of_error h he, Source.readToEnd_of_error h he]

/-- A relation between the bytes that a sink accepted and the sink, which every write keeps. -/
def Keeps (I : Bytes → σ → Prop) : Prop :=
  ∀ bs s chunk, I bs s →
    I (bs ++ chunk.take (Sink.taken (Sink.write s chunk).1)) (Sink.write s chunk).2

namespace Keeps

variable {I : Bytes → σ → Prop} {bs : Bytes}

theorem writeAll (hI : Keeps I) (hs : I bs s) (chunk : Bytes) :
    I (bs ++ chunk.take (Traffic.accepted (writeAll s chunk).traffic)) (writeAll s chunk).sink := by
  induction s, chunk using writeAll_induction generalizing bs with
  | nil s => simpa using hs
  | stuck s chunk hb h =>
    rw [writeAll_of_ok_zero hb h]
    simpa [h, Sink.taken] using hI bs s chunk hs
  | accepted s chunk n hb h ih =>
    have hw := hI bs s chunk hs
    simp only [h, Sink.taken] at hw
    rw [writeAll_of_ok_succ hb h]
    simpa [List.take_add] using ih hw
  | interrupted s chunk e hb h he ih =>
    have hw := hI bs s chunk hs
    simp only [h, Sink.taken, List.take_zero, List.append_nil] at hw
    rw [writeAll_of_interrupted hb h he]
    simpa using ih hw
  | failed s chunk e hb h he =>
    rw [writeAll_of_error hb h he]
    simpa [h, Sink.taken] using hI bs s chunk hs

/-- **What a copy has copied**: however it ends, the sink took a beginning of what the source
gives. -/
theorem copyFrom (hI : Keeps I) (hs : I bs s) (n : Nat) (r : ρ) :
    I (bs ++ (Source.readToEnd r).data.take (Traffic.accepted (copyFrom n r s).traffic))
      (copyFrom n r s).sink := by
  induction r using Source.reading_induction generalizing n s bs with
  | ended r h =>
    rw [copyFrom_of_end h]
    simpa using hs
  | bytes r chunk hb h ih =>
    have hw := hI.writeAll hs chunk
    rw [Source.readToEnd_of_bytes hb h]
    cases hf : (Refetch.writeAll s chunk).failure with
    | none =>
      have ha := failure_writeAll_eq_none_iff.1 hf
      rw [ha, List.take_length] at hw
      rw [copyFrom_of_written hb h hf]
      simpa [ha, List.take_length_add_append] using ih hw (n + chunk.length)
    | some e =>
      rw [copyFrom_of_unwritten hb h hf]
      simpa [List.take_append_of_le_length (accepted_writeAll_le s chunk)] using hw
  | interrupted r e h he ih =>
    rw [copyFrom_of_interrupted h he, Source.readToEnd_of_interrupted h he]
    simpa using ih hs n
  | failed r e h he =>
    rw [copyFrom_of_error h he]
    simpa using hs

end Keeps

end Copy

/-! ## Sources over sources -/

/-- What is read from a source is what is read from another one beneath it. -/
def Source.Follows {ρ ρ' : Type} [Source ρ] [Source ρ'] (inner : ρ → ρ') : Prop :=
  ∀ r n, (Source.read r n).result = (Source.read (inner r) n).result ∧
    inner (Source.read r n).rest = (Source.read (inner r) n).rest

namespace Source.Follows

variable {ρ ρ' ρ'' σ : Type} [Source ρ] [Source ρ'] [Source ρ''] [Sink σ] {inner : ρ → ρ'}
  {inner' : ρ' → ρ''}

theorem comp (hf' : Follows inner') (hf : Follows inner) : Follows fun r => inner' (inner r) :=
  fun r n => ⟨(hf r n).1.trans (hf' (inner r) n).1,
    (congrArg inner' (hf r n).2).trans (hf' (inner r) n).2⟩

theorem readToEnd (hf : Follows inner) (r : ρ) :
    (Source.readToEnd r).data = (Source.readToEnd (inner r)).data ∧
      (Source.readToEnd r).failure = (Source.readToEnd (inner r)).failure := by
  induction r using reading_induction with
  | ended r h =>
    have h' := (hf r bufferSize).1 ▸ h
    rw [readToEnd_of_end h, readToEnd_of_end h']
    exact ⟨rfl, rfl⟩
  | bytes r bs hb h ih =>
    have h' := (hf r bufferSize).1 ▸ h
    rw [(hf r bufferSize).2] at ih
    rw [readToEnd_of_bytes hb h, readToEnd_of_bytes hb h']
    exact ⟨by rw [ih.1], ih.2⟩
  | interrupted r e h he ih =>
    have h' := (hf r bufferSize).1 ▸ h
    rw [(hf r bufferSize).2] at ih
    rw [readToEnd_of_interrupted h he, readToEnd_of_interrupted h' he]
    exact ih
  | failed r e h he =>
    have h' := (hf r bufferSize).1 ▸ h
    rw [readToEnd_of_error h he, readToEnd_of_error h' he]
    exact ⟨rfl, rfl⟩

/-- The sink cannot tell the two sources apart. -/
theorem copyFrom (hf : Follows inner) (n : Nat) (r : ρ) (s : σ) :
    (copyFrom n r s).outcome = (copyFrom n (inner r) s).outcome ∧
      (Refetch.copyFrom n r s).sink = (Refetch.copyFrom n (inner r) s).sink ∧
      Traffic.accepted (Refetch.copyFrom n r s).traffic =
        Traffic.accepted (Refetch.copyFrom n (inner r) s).traffic := by
  induction r using reading_induction generalizing n s with
  | ended r h =>
    have h' := (hf r bufferSize).1 ▸ h
    rw [copyFrom_of_end h, copyFrom_of_end h']
    simp
  | bytes r bs hb h ih =>
    have h' := (hf r bufferSize).1 ▸ h
    rw [(hf r bufferSize).2] at ih
    cases hw : (writeAll s bs).failure with
    | none =>
      obtain ⟨ho, hs, ha⟩ := ih (n + bs.length) (writeAll s bs).sink
      rw [copyFrom_of_written hb h hw, copyFrom_of_written hb h' hw]
      exact ⟨ho, hs, by simp [ha]⟩
    | some e =>
      rw [copyFrom_of_unwritten hb h hw, copyFrom_of_unwritten hb h' hw]
      simp
  | interrupted r e h he ih =>
    have h' := (hf r bufferSize).1 ▸ h
    rw [(hf r bufferSize).2] at ih
    obtain ⟨ho, hs, ha⟩ := ih n s
    rw [copyFrom_of_interrupted h he, copyFrom_of_interrupted h' he]
    exact ⟨ho, hs, by simp [ha]⟩
  | failed r e h he =>
    have h' := (hf r bufferSize).1 ▸ h
    rw [copyFrom_of_error h he, copyFrom_of_error h' he]
    simp

end Source.Follows

end Refetch
