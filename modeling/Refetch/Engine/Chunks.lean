import Refetch.Io.Source
/-!
# Chunk readers

The body of a response comes in chunks. A reader hands them out in pieces of any size: it keeps the
chunk under way and how much of it was given, passes over empty chunks, and reports a failure only
after all bytes before it.
-/

namespace Refetch

structure ChunkReader where
  /-- The chunk under way. -/
  pending : Bytes
  /-- How much of it was given. -/
  offset : Nat
  /-- The chunks to come. -/
  chunks : List Bytes
  /-- What is met after the last chunk. -/
  failure : Option IoError
  deriving Repr, DecidableEq

namespace ChunkReader

def new (chunks : List Bytes) (failure : Option IoError) : ChunkReader := ⟨[], 0, chunks, failure⟩

/-- The bytes that are left of the chunk under way. -/
def available (r : ChunkReader) : Bytes := r.pending.drop r.offset

/-- Gives at most `n` bytes of the chunk under way. -/
def give (r : ChunkReader) (n : Nat) : Pull ChunkReader :=
  let bs := r.available.take n
  ⟨.ok bs, { r with offset := r.offset + bs.length }, []⟩

/-- Goes on to the first chunk that is not empty and gives some of it. -/
def refill (n : Nat) : List Bytes → Option IoError → Pull ChunkReader
  | [], none => ⟨.ok [], new [] none, []⟩
  | [], some e => ⟨.error e, new [] none, []⟩
  | [] :: rest, failure => refill n rest failure
  | (b :: bs) :: rest, failure => give ⟨b :: bs, 0, rest, failure⟩ n

def read (r : ChunkReader) (n : Nat) : Pull ChunkReader :=
  if n = 0 then ⟨.ok [], r, []⟩
  else if r.available = [] then refill n r.chunks r.failure
  else r.give n

/-- One for every byte, every chunk and the failure. -/
def measure (r : ChunkReader) : Nat :=
  r.available.length + r.chunks.flatten.length + r.chunks.length + r.failure.toList.length

theorem length_give_le {r : ChunkReader} {n : Nat} {bs : Bytes}
    (h : (r.give n).result = .ok bs) : bs.length ≤ n := by
  cases h; exact List.length_take_le n r.available

theorem length_refill_le {n : Nat} {chunks : List Bytes} {failure : Option IoError} {bs : Bytes}
    (h : (refill n chunks failure).result = .ok bs) : bs.length ≤ n := by
  fun_induction refill n chunks failure with
  | case1 => cases h; exact Nat.zero_le n
  | case2 => cases h
  | case3 _ _ ih => exact ih h
  | case4 => exact length_give_le h

theorem length_read_le {r : ChunkReader} {n : Nat} {bs : Bytes} (h : (r.read n).result = .ok bs) :
    bs.length ≤ n := by
  unfold read at h
  split at h
  · cases h; exact Nat.zero_le n
  · split at h
    · exact length_refill_le h
    · exact length_give_le h

theorem measure_give_lt {r : ChunkReader} {n : Nat} (hn : 0 < n) (ha : r.available ≠ []) :
    measure (r.give n).rest < measure r := by
  have := List.length_pos_iff.2 ha
  have hd : ((r.give n).rest.available).length < r.available.length := by
    simp only [give, available, List.length_drop, List.length_take] at this ⊢
    omega
  simp only [measure, give] at hd ⊢
  omega

theorem measure_refill_lt {n : Nat} {chunks : List Bytes} {failure : Option IoError} (hn : 0 < n)
    (h : (refill n chunks failure).result ≠ .ok []) :
    measure (refill n chunks failure).rest <
      chunks.flatten.length + chunks.length + failure.toList.length := by
  fun_induction refill n chunks failure with
  | case1 => exact absurd rfl h
  | case2 => simp [measure, new, available]
  | case3 _ _ ih =>
    have := ih h
    simp only [List.flatten_cons, List.nil_append, List.length_cons]
    omega
  | case4 b bs rest failure =>
    have := measure_give_lt (r := ⟨b :: bs, 0, rest, failure⟩) hn (by simp [available])
    simp only [measure, available, List.drop_zero, List.length_cons] at this
    simp only [List.flatten_cons, List.length_append, List.length_cons]
    simp only [measure, available] at *
    omega

theorem measure_read_lt {r : ChunkReader} {n : Nat} (hn : 0 < n)
    (h : (r.read n).result ≠ .ok []) : measure (r.read n).rest < measure r := by
  unfold read at h ⊢
  rw [if_neg (by omega)] at h ⊢
  split
  · rename_i ha
    rw [if_pos ha] at h
    have := measure_refill_lt hn h
    unfold measure at this ⊢
    omega
  · rename_i ha
    exact measure_give_lt hn ha

instance : Source ChunkReader where
  read := read
  remaining := measure
  length_le := length_read_le
  remaining_lt := measure_read_lt

end ChunkReader

end Refetch
