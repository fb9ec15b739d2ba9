import Refetch.Io.Source
/-!
# Copying

A sink accepts some of the bytes offered to it, or fails. Copying reads pieces of at most 8192 bytes
and offers each to the sink until all of it is accepted. Interrupted calls are repeated, and a sink
that accepts nothing ends the copy.

1. `writeAll` ends because a write either accepts something or, if interrupted, uses up some of the
   sink's patience.
2. `copy` ends because the source is finite.

The traffic of a copy is the list of totals reported and of offers made, in order.
-/

namespace Refetch

class Sink (σ : Type) where
  /-- Offers bytes; answers how many were accepted. -/
  write : σ → Bytes → Except IoError Nat × σ
  /-- Bounds the number of interrupted writes in a row. -/
  patience : σ → Nat
  accepted_le : ∀ {s : σ} {bs : Bytes} {n : Nat}, (write s bs).1 = .ok n → n ≤ bs.length
  patience_lt : ∀ {s : σ} {bs : Bytes} {e : IoError},
    (write s bs).1 = .error e → e.isInterrupted → patience (write s bs).2 < patience s

/-- What an observer sees of a copy. -/
inductive Traffic
  /-- The source reported that it gave so many bytes so far. -/
  | total (bytes : Nat)
  /-- So many bytes were offered to the sink, and so many accepted. -/
  | offer (bytes accepted : Nat)
  deriving Repr, DecidableEq

/-- The failure of a sink that accepts nothing. -/
def writeZero : IoError := .custom .writeZero "failed to write whole buffer"

structure Written (σ : Type) where
  failure : Option IoError
  sink : σ
  traffic : List Traffic

/-- Offers the bytes until all are accepted. -/
def writeAll {σ : Type} [Sink σ] (s : σ) (bs : Bytes) : Written σ :=
  if hb : bs = [] then ⟨none, s, []⟩
  else
    match h : Sink.write s bs with
    | (.ok 0, s') => ⟨some writeZero, s', [.offer bs.length 0]⟩
    | (.ok (n + 1), s') =>
      let w := writeAll s' (bs.drop (n + 1))
      { w with traffic := .offer bs.length (n + 1) :: w.traffic }
    | (.error e, s') =>
      if hi : e.isInterrupted then
        have : Sink.patience s' < Sink.patience s := by
          have := @Sink.patience_lt _ _ s bs e (by rw [h]) hi
          rwa [h] at this
        let w := writeAll s' bs
        { w with traffic := .offer bs.length 0 :: w.traffic }
      else ⟨some e, s', [.offer bs.length 0]⟩
termination_by (bs.length, Sink.patience s)
decreasing_by
  · have := List.length_pos_iff.2 hb
    left
    simp only [List.length_drop]
    omega
  · right
    assumption

structure Copied (ρ σ : Type) where
  /-- The number of bytes copied, or the failure that ended the copy. -/
  outcome : Except IoError Nat
  source : ρ
  sink : σ
  traffic : List Traffic

/-- The size of the buffer that pieces are read into. -/
def bufferSize : Nat := 8192

/-- Copies everything that is left of the source; `done` bytes were copied before. -/
def copyFrom {ρ σ : Type} [Source ρ] [Sink σ] (done : Nat) (r : ρ) (s : σ) : Copied ρ σ :=
  match h : Source.read r bufferSize with
  | ⟨.ok [], rest, totals⟩ => ⟨.ok done, rest, s, totals.map .total⟩
  | ⟨.ok (b :: bs), rest, totals⟩ =>
    have : Source.remaining rest < Source.remaining r := by
      have := Source.remaining_lt (r := r) (n := bufferSize) (by decide) (by rw [h]; simp)
      rwa [h] at this
    match writeAll s (b :: bs) with
    | ⟨none, s', offers⟩ =>
      let c := copyFrom (done + (b :: bs).length) rest s'
      { c with traffic := totals.map .total ++ offers ++ c.traffic }
    | ⟨some e, s', offers⟩ => ⟨.error e, rest, s', totals.map .total ++ offers⟩
  | ⟨.error e, rest, totals⟩ =>
    if e.isInterrupted then
      have : Source.remaining rest < Source.remaining r := by
        have := Source.remaining_lt (r := r) (n := bufferSize) (by decide) (by rw [h]; simp)
        rwa [h] at this
      let c := copyFrom done rest s
      { c with traffic := totals.map .total ++ c.traffic }
    else ⟨.error e, rest, s, totals.map .total⟩
termination_by Source.remaining r

def copy {ρ σ : Type} [Source ρ] [Sink σ] (r : ρ) (s : σ) : Copied ρ σ := copyFrom 0 r s

/-- The bytes that the sink accepted during some traffic. -/
def Traffic.accepted : List Traffic → Nat
  | [] => 0
  | .total _ :: rest => accepted rest
  | .offer _ n :: rest => n + accepted rest

end Refetch
