import Refetch.Dest.Basic
/-!
# Destinations with planned failures

A destination that keeps nothing but validators. Its plan says which calls fail and how little a
write may accept, so that it shows how a user of destinations deals with every failure.
-/

namespace Refetch

/-- A failure of writes that comes once so many bytes were accepted, any number of times or a
limited one. Interruptions come a limited number of times. -/
structure WriteFault where
  after : Nat
  times : Option Nat
  error : IoError
  finite : error.isInterrupted → times.isSome

structure FaultPlan where
  openSink : Option IoError := none
  flush : Option IoError := none
  commit : Option IoError := none
  discard : Option IoError := none
  setEtag : Option IoError := none
  setLastModified : Option IoError := none
  write : Option WriteFault := none
  /-- The most that one write accepts. -/
  maxWrite : Option Nat := none
  /-- The most that all writes together accept. -/
  zeroAfter : Option Nat := none

structure FaultyDest where
  plan : FaultPlan
  etag : Option String
  lastModified : Option Timestamp
  /-- The bytes accepted since the sink was opened. -/
  accepted : Nat
  /-- The writes that failed since the sink was opened. -/
  failures : Nat

namespace FaultyDest

def new (plan : FaultPlan) (etag : Option String := none)
    (lastModified : Option Timestamp := none) : FaultyDest :=
  ⟨plan, etag, lastModified, 0, 0⟩

/-- The fault that can still occur. -/
def fault? (d : FaultyDest) : Option WriteFault :=
  d.plan.write.filter fun f => f.times.all (d.failures < ·)

/-- The smaller of a number and what a limit leaves of it. -/
def limit (n used : Nat) : Option Nat → Nat
  | none => n
  | some most => min n (most - used)

theorem limit_le (n used : Nat) (most : Option Nat) : limit n used most ≤ n := by
  cases most with
  | none => exact Nat.le_refl n
  | some m => exact Nat.min_le_left n _

/-- How many of `n` bytes a write accepts if it does not fail. -/
def room (d : FaultyDest) (n : Nat) : Nat :=
  limit (limit (limit n 0 d.plan.maxWrite) d.accepted d.plan.zeroAfter) d.accepted
    (d.fault?.map (·.after))

theorem room_le (d : FaultyDest) (n : Nat) : d.room n ≤ n :=
  Nat.le_trans (limit_le ..) (Nat.le_trans (limit_le ..) (limit_le ..))

/-- The fault that a write meets now. -/
def dueFault? (d : FaultyDest) : Option WriteFault :=
  d.fault?.filter fun f => decide (f.after ≤ d.accepted)

def write (d : FaultyDest) (bs : Bytes) : Except IoError Nat × FaultyDest :=
  match d.dueFault? with
  | some f => (.error f.error, { d with failures := d.failures + 1 })
  | none =>
    let n := d.room bs.length
    (.ok n, { d with accepted := d.accepted + n })

/-- The number of failures that are left, if they are limited. -/
def patience (d : FaultyDest) : Nat :=
  match d.plan.write with
  | some f => (f.times.getD 0) - d.failures
  | none => 0

theorem write_le {d : FaultyDest} {bs : Bytes} {n : Nat} (h : (d.write bs).1 = .ok n) :
    n ≤ bs.length := by
  unfold write at h
  split at h
  · cases h
  · cases h; exact d.room_le bs.length

theorem patience_write_lt {d : FaultyDest} {bs : Bytes} {e : IoError}
    (h : (d.write bs).1 = .error e) (hi : e.isInterrupted) :
    patience (d.write bs).2 < patience d := by
  unfold write at h ⊢
  split at h
  · rename_i f hf
    cases h
    have hp : d.plan.write = some f ∧ f.times.all (d.failures < ·) := by
      simp only [dueFault?, fault?, Option.filter_eq_some_iff] at hf
      exact hf.1
    obtain ⟨t, ht⟩ := Option.isSome_iff_exists.1 (f.finite hi)
    have := hp.2
    simp only [ht, Option.all_some, decide_eq_true_eq] at this
    simp only [patience, hp.1, ht, Option.getD_some]
    omega
  · cases h

/-- Meets a planned failure or carries on. -/
def attempt (d : FaultyDest) (fault : Option IoError) (next : FaultyDest) :
    Except IoError Unit × FaultyDest :=
  match fault with
  | some e => (.error e, d)
  | none => (.ok (), next)

instance : Dest FaultyDest where
  write := write
  patience := patience
  accepted_le := write_le
  patience_lt := patience_write_lt
  openSink d := d.attempt d.plan.openSink { d with accepted := 0, failures := 0 }
  flush d := d.attempt d.plan.flush d
  closeSink d := (.ok (), d)
  complete d success := d.attempt (if success then d.plan.commit else d.plan.discard) d
  etag d := d.etag
  lastModified d := d.lastModified
  setEtag d t := d.attempt d.plan.setEtag { d with etag := some t }
  setLastModified d t := d.attempt d.plan.setLastModified { d with lastModified := some t }
  describe _ := "<dest>"

end FaultyDest

end Refetch
