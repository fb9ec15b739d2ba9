import Refetch.Proofs.Engine.Unchunking
/-!
# Delivering chunks

What a chunk reader delivers is known from the script that it follows. What it keeps between two reads
is not: the chunk under way, how much of that was given, and the chunks to come.

1. No more of the chunk under way was given than there is of it (`Placed`). Every read keeps this
   (`placed_read`), so it holds after any reads (`placed_readEach`).
2. A read asks for no chunk while the one under way has bytes left, and otherwise passes over empty
   ones up to one that it can give something of (`advances_read`). So no read waits for more chunks
   than there are, and none takes an empty chunk for the end (`rest_of_end`).
3. Together with the bytes and failures of the script this is all that a caller can see
   (`delivers_new`).
-/

namespace Refetch

open Source (readEach collected failures Spent)

namespace Source

/-- A failure comes after those of the reads before. -/
theorem failures_concat (results : List (Except IoError Bytes)) (e : IoError) :
    failures (results ++ [.error e]) = failures results ++ [e] := by
  induction results with
  | nil => rfl
  | cons x results ih =>
    cases x with
    | ok bs => exact ih
    | error e' => exact congrArg (e' :: ·) ih

end Source

namespace ChunkReader

variable {r : ChunkReader} {n : Nat} {chunks : List Bytes} {failure : Option IoError}

/-! ## The place in the chunk under way -/

/-- No more of the chunk under way was given than there is. -/
def Placed (r : ChunkReader) : Prop := r.offset ≤ r.pending.length

theorem placed_new (chunks : List Bytes) (failure : Option IoError) : (new chunks failure).Placed :=
  Nat.le_refl 0

theorem placed_give (h : r.Placed) (n : Nat) : (r.give n).rest.Placed := by
  simp only [Placed, give, available, List.length_take, List.length_drop] at h ⊢
  omega

theorem placed_refill (n : Nat) (chunks : List Bytes) (failure : Option IoError) :
    (refill n chunks failure).rest.Placed := by
  fun_induction refill n chunks failure with
  | case1 => exact placed_new [] none
  | case2 => exact placed_new [] none
  | case3 rest failure ih => exact ih
  | case4 b bs rest failure => exact placed_give (Nat.zero_le _) n

/-- **Every read keeps the place** within the chunk. -/
theorem placed_read (h : r.Placed) (n : Nat) : (Source.read r n).rest.Placed := by
  show (r.read n).rest.Placed
  unfold read
  split_ifs
  · exact h
  · exact placed_refill n r.chunks r.failure
  · exact placed_give h n

theorem placed_readEach (h : r.Placed) (sizes : List Nat) : (readEach r sizes).2.Placed := by
  induction sizes generalizing r with
  | nil => exact h
  | cons n ns ih => exact ih (placed_read h n)

/-! ## The chunks that a read asks for -/

/-- Of the chunks to come these are gone: empty ones, and one that is not empty after them if there is
one, which is then under way. -/
inductive Passes (chunks : List Bytes) (r : ChunkReader) : Prop
  | all (h : ∀ c ∈ chunks, c = []) (hr : r = new [] none)
  | some (empties : List Bytes) (chunk : Bytes) (he : ∀ c ∈ empties, c = []) (hc : chunk ≠ [])
    (h : chunks = empties ++ chunk :: r.chunks) (hp : r.pending = chunk)

theorem passes_refill (n : Nat) (chunks : List Bytes) (failure : Option IoError) :
    Passes chunks (refill n chunks failure).rest := by
  fun_induction refill n chunks failure with
  | case1 => exact .all (List.forall_mem_nil _) rfl
  | case2 => exact .all (List.forall_mem_nil _) rfl
  | case3 rest failure ih =>
    cases ih with
    | all h hr => exact .all (List.forall_mem_cons.2 ⟨rfl, h⟩) hr
    | some empties chunk he hc h hp =>
      exact .some ([] :: empties) chunk (List.forall_mem_cons.2 ⟨rfl, he⟩) hc
        (congrArg ([] :: ·) h) hp
  | case4 b bs rest failure =>
    exact .some [] (b :: bs) (List.forall_mem_nil _) (List.cons_ne_nil b bs) rfl rfl

/-- **What a read asks for**: nothing if the buffer is empty or bytes of the chunk under way are left,
and else chunks up to the first that is not empty. -/
theorem advances_read (r : ChunkReader) (n : Nat) :
    if n = 0 ∨ r.available ≠ [] then (Source.read r n).rest.chunks = r.chunks
    else Passes r.chunks (Source.read r n).rest := by
  show if _ then (r.read n).rest.chunks = _ else Passes _ (r.read n).rest
  rcases Nat.eq_zero_or_pos n with rfl | hn
  · rw [if_pos (.inl rfl), read, if_pos rfl]
  · rw [read, if_neg (Nat.ne_of_gt hn)]
    by_cases ha : r.available = []
    · rw [if_neg (by simp [ha, Nat.ne_of_gt hn]), if_pos ha]
      exact passes_refill n r.chunks r.failure
    · rw [if_pos (.inr ha), if_neg ha]
      rfl

/-- Some bytes of a chunk under way are given. -/
theorem give_ne_nil (ha : r.available ≠ []) (hn : 0 < n) : (r.give n).result ≠ .ok [] := by
  intro h
  have := List.length_pos_iff.2 ha
  have hl := congrArg List.length (Except.ok.inj h)
  simp only [List.length_take, List.length_nil] at hl
  omega

/-- **Nothing is given** only at the end, when there is nothing left to ask for. -/
theorem rest_of_end (hn : 0 < n) (h : (Source.read r n).result = .ok []) :
    (Source.read r n).rest = new [] none := by
  have hrefill (chunks : List Bytes) (failure : Option IoError)
      (h : (refill n chunks failure).result = .ok []) :
      (refill n chunks failure).rest = new [] none := by
    fun_induction refill n chunks failure with
    | case1 => rfl
    | case2 => rfl
    | case3 rest failure ih => exact ih h
    | case4 b bs rest failure =>
      exact (give_ne_nil (r := ⟨b :: bs, 0, rest, failure⟩) (List.cons_ne_nil b bs) hn h).elim
  change (r.read n).result = .ok [] at h
  show (r.read n).rest = _
  rw [read, if_neg (Nat.ne_of_gt hn)] at h ⊢
  by_cases ha : r.available = []
  · rw [if_pos ha] at h ⊢
    exact hrefill r.chunks r.failure h
  · rw [if_neg ha] at h
    exact (give_ne_nil ha hn h).elim

/-! ## What is delivered -/

/-- Reading delivers these chunks and then the failure, if there is one, whatever the buffers. -/
structure Delivers (r : ChunkReader) (chunks : List Bytes) (failure : Option IoError) : Prop where
  /-- What was given is the first part of the chunks, one after the other. -/
  begins : ∀ sizes, collected (readEach r sizes).1 <+: chunks.flatten
  /-- A read gives no more than fits into the buffer. -/
  fits : ∀ sizes n bs, (Source.read (readEach r sizes).2 n).result = .ok bs → bs.length ≤ n
  /-- As long as bytes are left, a buffer that is not empty gets some. -/
  fills : ∀ sizes n, 0 < n → collected (readEach r sizes).1 ≠ chunks.flatten →
    ∃ b bs, (Source.read (readEach r sizes).2 n).result = .ok (b :: bs)
  /-- Another buffer than an empty one stays empty only at the end: all bytes were given, the failure
  was met, and no chunk is left. -/
  ended : ∀ sizes n, (Source.read (readEach r sizes).2 n).result = .ok [] → n = 0 ∨
    collected (readEach r sizes).1 = chunks.flatten ∧
      failures (readEach r sizes).1 = failure.toList ∧
      (Source.read (readEach r sizes).2 n).rest = new [] none
  /-- The failure is met once, and after all bytes. -/
  failed : ∀ sizes n e, (Source.read (readEach r sizes).2 n).result = .error e →
    collected (readEach r sizes).1 = chunks.flatten ∧ failures (readEach r sizes).1 = [] ∧
      failure = some e
  /-- The end is reached by so many reads with buffers that are not empty. -/
  ends : ∀ sizes : List Nat,
    chunks.flatten.length + chunks.length + failure.toList.length ≤
      (sizes.filter (0 < ·)).length → Spent (readEach r sizes).2
  placed : ∀ sizes, (readEach r sizes).2.Placed
  /-- No chunk is asked for while bytes of the one under way are left, and else those up to the first
  that is not empty. -/
  advances : ∀ sizes n, if n = 0 ∨ (readEach r sizes).2.available ≠ []
    then (Source.read (readEach r sizes).2 n).rest.chunks = (readEach r sizes).2.chunks
    else Passes (readEach r sizes).2.chunks (Source.read (readEach r sizes).2 n).rest

theorem measure_upcoming (chunks : List Bytes) (failure : Option IoError) :
    Script.measure (upcoming chunks failure) =
      chunks.flatten.length + chunks.length + failure.toList.length := by
  induction chunks with
  | nil => cases failure <;> rfl
  | cons c chunks ih =>
    have hm : Script.measure (upcoming (c :: chunks) failure) =
        c.length + 1 + Script.measure (upcoming chunks failure) := rfl
    rw [hm, ih, List.flatten_cons, List.length_append, List.length_cons]
    omega

/-- **A new reader delivers its chunks** and then the failure. -/
theorem delivers_new (chunks : List Bytes) (failure : Option IoError) :
    Delivers (new chunks failure) chunks failure := by
  have hy := yields chunks failure
  refine ⟨fun sizes => (hy.begins sizes).1, fun _ _ _ => Source.length_le,
    fun sizes n hn hne => ?fills, fun sizes n h => ?ended, fun sizes n e h => ?failed,
    fun sizes hs => ?ends, placed_readEach (placed_new chunks failure),
    fun sizes => advances_read _⟩
  case fills =>
    cases h : (Source.read (readEach (new chunks failure) sizes).2 n).result with
    | error e => exact absurd (hy.failed sizes n e h) hne
    | ok bs =>
      cases bs with
      | nil => exact absurd (hy.ended sizes n hn h).1 hne
      | cons b bs => exact ⟨b, bs, rfl⟩
  case ended =>
    rcases Nat.eq_zero_or_pos n with hn | hn
    · exact .inl hn
    · obtain ⟨hc, hf⟩ := hy.ended sizes n hn h
      exact .inr ⟨hc, hf, rest_of_end hn h⟩
  case failed =>
    -- with this failure there are no more of them than the stream has
    have hb := (hy.begins (sizes ++ [n])).2
    rw [Source.readEach_concat, h, Source.failures_concat] at hb
    refine ⟨hy.failed sizes n e h, ?_⟩
    cases failure with
    | none => simp at hb
    | some e' =>
      have hl := hb.length_le
      rw [List.length_append, Option.toList_some, List.length_singleton] at hl
      have hnil := List.length_eq_zero_iff.1 (Nat.le_zero.1 (Nat.le_of_succ_le_succ hl))
      rw [hnil] at hb
      simpa [hnil, eq_comm] using hb
  case ends =>
    rw [follows_script.spent_iff, (follows_script.readEach _ sizes).2]
    exact Script.spent_readEach ((measure_upcoming chunks failure).trans_le hs)

example : (readEach (new [[1, 2], [], [3]] none) [1, 0, 4, 4, 4]).1 =
    [.ok [1], .ok [], .ok [2], .ok [3], .ok []] := by decide

end ChunkReader

end Refetch
