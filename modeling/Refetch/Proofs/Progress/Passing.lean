import Refetch.Proofs.Io.Reading
import Refetch.Proofs.Progress.Totals
/-!
# What passes through a progress stream

A stream is read with buffers of any size, also with empty ones, and after failures. It is compared
with its source, read in the same way on its own.

1. `reportedEach` are the totals of such reads, read by read. What announces its reads reports of
   each the bytes collected so far (`Announces.getElem?_reportedEach`), and counts them
   (`Announces.total_readEach`).
2. All totals together are those that should be heard of the reads
   (`Announces.flatten_reportedEach`), so that they never fall, never exceed what was collected, and
   end with it.
-/

namespace Refetch

open Source (collected given)

variable {ρ ρ' : Type} [Source ρ] [Source ρ']

/-- The totals that reads with buffers of these sizes report, read by read. -/
def Source.reportedEach (r : ρ) : List Nat → List (List Nat)
  | [] => []
  | n :: ns => (Source.read r n).totals :: reportedEach (Source.read r n).rest ns

theorem Source.length_collected_cons (x : Except IoError Bytes) (xs : List (Except IoError Bytes)) :
    (collected (x :: xs)).length = given x + (collected xs).length := by
  rcases x with e | bs
  · rw [collected, given, Nat.zero_add]
  · rw [collected, given, List.length_append]

namespace Progress

variable {total : Nat} {xs : List (Except IoError Bytes)}

theorem gathered_eq (xs : List (Except IoError Bytes)) : gathered xs = (collected xs).length := by
  induction xs with
  | nil => rfl
  | cons x xs ih => rw [gathered, ih, Source.length_collected_cons]

/-- No total that is heard exceeds what was given. -/
theorem le_gathered_of_mem_announced {p : Nat} (h : p ∈ announced total xs) :
    p ≤ total + gathered xs := by
  induction xs generalizing total with
  | nil => cases h
  | cons x xs ih =>
    rw [gathered, ← Nat.add_assoc]
    rcases List.mem_append.1 h with h | h
    · rw [eq_of_mem_announce h]
      exact Nat.le_add_right ..
    · exact ih h

namespace Announces

variable {inner : ρ' → ρ} {total : ρ' → Nat}

/-- **What was counted** are the bytes that were collected. -/
theorem total_readEach (h : Announces inner total) (r : ρ') (sizes : List Nat) :
    total (Source.readEach r sizes).2 =
      total r + (collected (Source.readEach r sizes).1).length := by
  induction sizes generalizing r with
  | nil => rfl
  | cons n ns ih =>
    rw [Source.readEach, ih, h.rest, Source.length_collected_cons, Nat.add_assoc]

/-- **What is reported of a read** comes from the bytes that were collected before it and from what
it gave itself. -/
theorem getElem?_reportedEach (h : Announces inner total) (r : ρ') (sizes : List Nat) (i : Nat) :
    (Source.reportedEach r sizes)[i]? = (Source.readEach r sizes).1[i]?.map
      (announce (total r + (collected ((Source.readEach r sizes).1.take i)).length)) := by
  induction sizes generalizing r i with
  | nil => rfl
  | cons n ns ih =>
    rw [Source.reportedEach, Source.readEach]
    cases i with
    | zero => exact congrArg some (h.totals r n)
    | succ i =>
      rw [List.getElem?_cons_succ, List.getElem?_cons_succ, List.take_succ_cons,
        Source.length_collected_cons, ← Nat.add_assoc, ← h.rest]
      exact ih _ i

theorem flatten_reportedEach (h : Announces inner total) (r : ρ') (sizes : List Nat) :
    (Source.reportedEach r sizes).flatten = announced (total r) (Source.readEach r sizes).1 := by
  induction sizes generalizing r with
  | nil => rfl
  | cons n ns ih =>
    rw [Source.reportedEach, List.flatten_cons, ih, h.totals, h.rest, Source.readEach, announced]

end Announces

/-- A stream over a source that is read with buffers of these sizes, beside the source that is read
so on its own. -/
structure Transparent (r : ρ) (sizes : List Nat) : Prop where
  /-- Each read gives the same, bytes or a failure. -/
  results : (Source.readEach (Stream.new r) sizes).1 = (Source.readEach r sizes).1
  /-- The source beneath the stream is left the same. -/
  rest : (Source.readEach (Stream.new r) sizes).2.inner = (Source.readEach r sizes).2
  /-- A read that gives bytes reports the total with them, and one that fails for good the total
  before it. Others report nothing. -/
  reported : ∀ i, (Source.reportedEach (Stream.new r) sizes)[i]? =
    (Source.readEach r sizes).1[i]?.map
      (announce (collected ((Source.readEach r sizes).1.take i)).length)
  rising : (Source.reportedEach (Stream.new r) sizes).flatten.Pairwise (· ≤ ·)
  bounded : ∀ p ∈ (Source.reportedEach (Stream.new r) sizes).flatten,
    p ≤ (collected (Source.readEach r sizes).1).length
  /-- The stream counted what was given. -/
  total : (Source.readEach (Stream.new r) sizes).2.total =
    (collected (Source.readEach r sizes).1).length
  /-- Once there were bytes, the last total is that of all of them. -/
  last : collected (Source.readEach r sizes).1 ≠ [] →
    (Source.reportedEach (Stream.new r) sizes).flatten.getLast? =
      some (collected (Source.readEach r sizes).1).length

/-- A stream over a source that reports nothing itself is transparent. -/
theorem transparent_of_silent (hs : Stream.Silent ρ) (r : ρ) (sizes : List Nat) :
    Transparent r sizes := by
  have ha := Stream.announces hs
  obtain ⟨hres, hrest⟩ := ha.follows.readEach (Stream.new r) sizes
  have hzero (n : Nat) : (Stream.new r).total + n = n := Nat.zero_add n
  have hflat : (Source.reportedEach (Stream.new r) sizes).flatten =
      announced 0 (Source.readEach r sizes).1 := by
    rw [ha.flatten_reportedEach, hres]
    rfl
  refine ⟨hres, hrest, fun i => ?reported, hflat ▸ pairwise_announced 0 _, fun p hp => ?bounded,
    ?total, fun hne => ?last⟩
  case reported => rw [ha.getElem?_reportedEach, hres, hzero]; rfl
  case bounded =>
    rw [hflat] at hp
    have hle := le_gathered_of_mem_announced hp
    rwa [gathered_eq, Nat.zero_add] at hle
  case total => rw [ha.total_readEach, hres, hzero]; rfl
  case last =>
    rw [hflat]
    cases hl : (announced 0 (Source.readEach r sizes).1).getLast? with
    | some p => rw [getLast?_announced hl, gathered_eq, Nat.zero_add]
    | none =>
      -- nothing was heard, so that there were no bytes
      have hg := gathered_of_announced_eq_nil (List.getLast?_eq_none_iff.1 hl)
      rw [gathered_eq] at hg
      exact absurd (List.length_eq_zero_iff.1 hg) hne

/-- **A stream is transparent** over any script, and over the body of any response: it gives what
they give, read by read, and the totals that it reports are exact. -/
theorem transparent_readers (s : Script) (c : ChunkReader) (sizes : List Nat) :
    Transparent s sizes ∧ Transparent c sizes :=
  ⟨transparent_of_silent Stream.silent_script s sizes,
    transparent_of_silent Stream.silent_chunkReader c sizes⟩

end Progress

end Refetch
