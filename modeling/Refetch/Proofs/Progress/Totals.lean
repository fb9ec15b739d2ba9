import Refetch.Engine.Chunks
import Refetch.Progress.Stream
import Refetch.Proofs.Io.Copying
/-!
# What a progress stream reports

1. A stream gives what its source gives (`Stream.follows_inner`).
2. Over a source that reports nothing itself, the totals of a stream rise from what was given
   before, and the last of them counts everything (`Stream.getLast?_totals`).
3. `announced` are the totals that should be heard of some reads: they rise, and the last one counts
   everything (`pairwise_announced`, `getLast?_announced`). A copy through sources that `Announce`
   what they read lets them be heard, each before the bytes of its read are offered
   (`Announces.copyFrom`).
-/

namespace Refetch.Progress

namespace Stream

variable {ρ : Type} [Source ρ]

theorem follows_inner : Source.Follows (inner : Stream ρ → ρ) :=
  fun s n => ⟨read_result s n, read_inner s n⟩

/-- The source reports no totals of its own: it knows of no observer. -/
def Silent (ρ : Type) [Source ρ] : Prop := ∀ (r : ρ) n, (Source.read r n).totals = []

theorem silent_script : Silent Script := by
  intro s n
  simp only [Source.read]
  fun_induction Script.read s n <;> simp_all

theorem totals_refill (n : Nat) (chunks : List Bytes) (failure : Option IoError) :
    (ChunkReader.refill n chunks failure).totals = [] := by
  fun_induction ChunkReader.refill n chunks failure with
  | case1 => rfl
  | case2 => rfl
  | case3 _ _ ih => exact ih
  | case4 => rfl

/-- The bodies of real responses are silent, as scripted ones are. -/
theorem silent_chunkReader : Silent ChunkReader := by
  intro r n
  simp only [Source.read, ChunkReader.read]
  split
  · rfl
  · split
    · exact totals_refill ..
    · rfl

variable {s : Stream ρ} {n : Nat}

theorem read_of_end (h : (Source.read s n).result = .ok []) :
    (Source.read s n).totals = (Source.read s.inner n).totals := by
  have := read_result s n
  simp only [Source.read, read] at h this ⊢
  split <;> simp_all

theorem read_of_bytes {bs : Bytes} (hb : bs ≠ []) (h : (Source.read s n).result = .ok bs) :
    (Source.read s n).rest.total = s.total + bs.length ∧
      (Source.read s n).totals = (Source.read s.inner n).totals ++ [s.total + bs.length] := by
  have := read_result s n
  simp only [Source.read, read] at h this ⊢
  split <;> simp_all

theorem read_of_interrupted {e : IoError} (h : (Source.read s n).result = .error e)
    (he : e.isInterrupted) :
    (Source.read s n).rest.total = s.total ∧
      (Source.read s n).totals = (Source.read s.inner n).totals := by
  have := read_result s n
  simp only [Source.read, read] at h this ⊢
  split <;> simp_all

/-- **The last total**: once the end is reached it counts all bytes, unless there were none. -/
theorem getLast?_totals (hs : Silent ρ) (h : (Source.readToEnd s).failure = none) :
    (Source.readToEnd s).totals.getLast? =
      if (Source.readToEnd s).data = [] then none
      else some (s.total + (Source.readToEnd s).data.length) := by
  induction s using Source.reading_induction with
  | ended s hr =>
    rw [Source.readToEnd_of_end hr]
    simp [read_of_end hr, hs s.inner]
  | bytes s bs hb hr ih =>
    obtain ⟨ht, hts⟩ := read_of_bytes hb hr
    rw [Source.readToEnd_of_bytes hb hr] at h ⊢
    rw [hs s.inner, List.nil_append] at hts
    rw [List.getLast?_append, ih h, ht, hts]
    split <;> simp_all [Nat.add_assoc]
  | interrupted s e hr he ih =>
    obtain ⟨ht, hts⟩ := read_of_interrupted hr he
    rw [Source.readToEnd_of_interrupted hr he] at h ⊢
    rw [hts, hs s.inner, List.nil_append, ← ht]
    exact ih h
  | failed s e hr he =>
    rw [Source.readToEnd_of_error hr he] at h
    cases h

end Stream

/-! ## Announcements -/

open Source (given)

/-- What should be heard of a read that comes after so many bytes. -/
def announce (total : Nat) : Except IoError Bytes → List Nat
  | .ok [] => []
  | .ok (b :: bs) => [total + (b :: bs).length]
  | .error e => if e.isInterrupted then [] else [total]

/-- What should be heard of some reads. -/
def announced (total : Nat) : List (Except IoError Bytes) → List Nat
  | [] => []
  | x :: xs => announce total x ++ announced (total + given x) xs

/-- The number of bytes that some reads gave. -/
def gathered : List (Except IoError Bytes) → Nat
  | [] => 0
  | x :: xs => given x + gathered xs

variable {total : Nat} {x : Except IoError Bytes} {xs : List (Except IoError Bytes)}

/-- The total after the read is what is heard of it, if anything is. -/
theorem eq_of_mem_announce {p : Nat} (h : p ∈ announce total x) : p = total + given x := by
  rcases x with e | bs
  · simp only [announce] at h
    split at h
    · cases h
    · exact List.mem_singleton.1 h
  · cases bs with
    | nil => cases h
    | cons b bs => exact List.mem_singleton.1 h

theorem le_of_mem_announced {p : Nat} (h : p ∈ announced total xs) : total ≤ p := by
  induction xs generalizing total with
  | nil => cases h
  | cons x xs ih =>
    rcases List.mem_append.1 h with h | h
    · rw [eq_of_mem_announce h]
      exact Nat.le_add_right ..
    · exact Nat.le_trans (Nat.le_add_right ..) (ih h)

/-- Totals never fall. -/
theorem pairwise_announced (total : Nat) (xs : List (Except IoError Bytes)) :
    (announced total xs).Pairwise (· ≤ ·) := by
  induction xs generalizing total with
  | nil => exact .nil
  | cons x xs ih =>
    refine List.pairwise_append.2 ⟨?_, ih _, ?_⟩
    · refine List.pairwise_of_forall_mem_list fun p hp q hq => ?_
      rw [eq_of_mem_announce hp, eq_of_mem_announce hq]
    · intro p hp q hq
      rw [eq_of_mem_announce hp]
      exact le_of_mem_announced hq

/-- If nothing is heard, nothing was given. -/
theorem gathered_of_announced_eq_nil (h : announced total xs = []) : gathered xs = 0 := by
  induction xs generalizing total with
  | nil => rfl
  | cons x xs ih =>
    obtain ⟨hx, hxs⟩ := List.append_eq_nil_iff.1 h
    have hg : given x = 0 := by
      rcases x with e | bs
      · rfl
      · cases bs with
        | nil => rfl
        | cons b bs => cases hx
    rw [gathered, hg, ih hxs]

/-- **The last total** that is heard counts everything. -/
theorem getLast?_announced {p : Nat} (h : (announced total xs).getLast? = some p) :
    p = total + gathered xs := by
  induction xs generalizing total p with
  | nil => cases h
  | cons x xs ih =>
    rw [announced, List.getLast?_append] at h
    rw [gathered, ← Nat.add_assoc]
    cases hl : (announced (total + given x) xs).getLast? with
    | some q =>
      obtain rfl : q = p := by simpa [hl] using h
      exact ih hl
    | none =>
      -- Nothing was given after the last total that is heard.
      rw [hl, Option.none_or] at h
      rw [eq_of_mem_announce (List.mem_of_getLast? h),
        gathered_of_announced_eq_nil (List.getLast?_eq_none_iff.1 hl), Nat.add_zero]

/-- The total is heard before a failure surfaces. -/
theorem announced_ne_nil {e : IoError} (he : e.isInterrupted = false) (h : .error e ∈ xs) :
    announced total xs ≠ [] := by
  induction xs generalizing total with
  | nil => cases h
  | cons x xs ih =>
    intro hn
    obtain ⟨hx, hxs⟩ := List.append_eq_nil_iff.1 hn
    rcases List.mem_cons.1 h with rfl | h
    · simp [announce, he] at hx
    · exact ih h hxs

/-- The traffic of a copy, read by read: what is heard of a read comes first, then its bytes are
offered. A read whose bytes are not all accepted is the last one. -/
inductive Observed : Nat → List (Except IoError Bytes) → List Traffic → Prop
  | nil (total : Nat) : Observed total [] []
  | cons {total : Nat} {x : Except IoError Bytes} {xs : List (Except IoError Bytes)}
      {offers ts : List Traffic} (ho : Traffic.totals offers = [])
      (ha : Traffic.accepted offers = given x ∨ xs = []) (h : Observed (total + given x) xs ts) :
      Observed total (x :: xs) ((announce total x).map .total ++ offers ++ ts)

theorem Observed.totals {ts : List Traffic} (h : Observed total xs ts) :
    Traffic.totals ts = announced total xs := by
  induction h with
  | nil total => rfl
  | cons ho ha h ih =>
    rw [Traffic.totals_append, Traffic.totals_append, Traffic.totals_map_total, ho,
      List.append_nil, ih, announced]

variable {ρ ρ' ρ'' σ : Type} [Source ρ] [Source ρ'] [Source ρ''] [Sink σ]

/-- What is read from a source is what is read from another one beneath it, and each read lets be
heard what should be heard of it. -/
structure Announces (inner : ρ' → ρ) (total : ρ' → Nat) : Prop where
  follows : Source.Follows inner
  rest : ∀ r n, total (Source.read r n).rest = total r + given (Source.read r n).result
  totals : ∀ r n, (Source.read r n).totals = announce (total r) (Source.read r n).result

/-- A stream announces what it gives. -/
theorem Stream.announces (hs : Silent ρ) :
    Announces (Stream.inner : Stream ρ → ρ) Stream.total where
  follows := follows_inner
  rest s n := by
    have := read_result s n
    simp only [Source.read, read] at this ⊢
    split <;> simp_all [given]
  totals s n := by
    have := read_result s n
    have := hs s.inner n
    simp only [Source.read, read] at *
    split <;> simp_all [announce]

/-- What passes totals on announces what the source beneath it does. -/
theorem Announces.comp {inner : ρ' → ρ} {total : ρ' → Nat} (h : Announces inner total)
    {outer : ρ'' → ρ'} (hf : Source.Follows outer)
    (ht : ∀ r n, (Source.read r n).totals = (Source.read (outer r) n).totals) :
    Announces (fun r => inner (outer r)) (fun r => total (outer r)) where
  follows := h.follows.comp hf
  rest r n := by rw [(hf r n).2, h.rest, ← (hf r n).1]
  totals r n := by rw [ht, h.totals, ← (hf r n).1]

/-- One more read before a copy that is heard. -/
theorem Announces.observed {inner : ρ' → ρ} {total : ρ' → Nat} (h : Announces inner total)
    {r : ρ'} {n : Nat} {xs : List (Except IoError Bytes)} {ts : List Traffic}
    (offers : List Traffic) (ho : Traffic.totals offers = [])
    (ha : Traffic.accepted offers = given (Source.read r n).result ∨ xs = [])
    (hx : Observed (total (Source.read r n).rest) xs ts) :
    Observed (total r) ((Source.read (inner r) n).result :: xs)
      ((Source.read r n).totals.map .total ++ offers ++ ts) := by
  rw [h.rest] at hx
  rw [h.totals, ← (h.follows r n).1]
  exact .cons ho ha hx

/-- **What is heard of a copy**, however it ends: the reads that it makes, as they come. -/
theorem Announces.copyFrom {inner : ρ' → ρ} {total : ρ' → Nat} (h : Announces inner total)
    (n : Nat) (r : ρ') (s : σ) :
    ∃ xs, Source.Reads (inner r) xs (Refetch.copyFrom n (inner r) s).source ∧
      Observed (total r) xs (Refetch.copyFrom n r s).traffic := by
  -- The copies of the two sources go on in step, so one induction serves both.
  induction r using Source.reading_induction generalizing n s with
  | ended r hr =>
    have hi := (h.follows r bufferSize).1 ▸ hr
    rw [copyFrom_of_end hr, copyFrom_of_end hi]
    exact ⟨_, .cons (.nil _), by simpa using h.observed [] rfl (.inr rfl) (.nil _)⟩
  | bytes r bs hb hr ih =>
    have hi := (h.follows r bufferSize).1 ▸ hr
    rw [(h.follows r bufferSize).2] at ih
    cases hw : (writeAll s bs).failure with
    | none =>
      have ha : Traffic.accepted (writeAll s bs).traffic =
          given (Source.read r bufferSize).result := by
        rw [hr, failure_writeAll_eq_none_iff.1 hw, given]
      obtain ⟨xs, hx, ho⟩ := ih (n + bs.length) (writeAll s bs).sink
      rw [copyFrom_of_written hb hr hw, copyFrom_of_written hb hi hw]
      exact ⟨_, .cons hx, h.observed _ (totals_writeAll s bs) (.inl ha) ho⟩
    | some e =>
      rw [copyFrom_of_unwritten hb hr hw, copyFrom_of_unwritten hb hi hw]
      exact ⟨_, .cons (.nil _), by
        simpa using h.observed _ (totals_writeAll s bs) (.inr rfl) (.nil _)⟩
  | interrupted r e hr he ih =>
    have hi := (h.follows r bufferSize).1 ▸ hr
    rw [(h.follows r bufferSize).2] at ih
    obtain ⟨xs, hx, ho⟩ := ih n s
    rw [copyFrom_of_interrupted hr he, copyFrom_of_interrupted hi he]
    exact ⟨_, .cons hx, by simpa using h.observed [] rfl (.inl (by rw [hr]; rfl)) ho⟩
  | failed r e hr he =>
    have hi := (h.follows r bufferSize).1 ▸ hr
    rw [copyFrom_of_error hr he, copyFrom_of_error hi he]
    exact ⟨_, .cons (.nil _), by simpa using h.observed [] rfl (.inr rfl) (.nil _)⟩

end Refetch.Progress
