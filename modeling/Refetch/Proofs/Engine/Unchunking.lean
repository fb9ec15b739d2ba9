import Refetch.Engine.Chunks
import Refetch.Proofs.Io.Yielding
/-!
# Bodies in chunks

A chunk reader reads as a script does that has what is left of the chunk under way, then the other
chunks, then the failure (`ChunkReader.follows_script`). So what is known of scripts is known of it:
it yields the bytes of its chunks, and the failure after them (`ChunkReader.yields`).
-/

namespace Refetch

open Source (Yields)

namespace Script

/-- A script that has these chunks first. -/
theorem contents_ofChunks_append (chunks : List Bytes) (s : Script) :
    contents (ofChunks chunks ++ s) = chunks.flatten ++ contents s := by
  induction chunks with
  | nil => rfl
  | cons bs chunks ih =>
    rw [List.flatten_cons, List.append_assoc, ← ih]
    rfl

theorem lead_ofChunks_append (chunks : List Bytes) (s : Script) :
    lead (ofChunks chunks ++ s) = chunks.flatten ++ lead s := by
  induction chunks with
  | nil => rfl
  | cons bs chunks ih =>
    rw [List.flatten_cons, List.append_assoc, ← ih]
    rfl

theorem faults_ofChunks_append (chunks : List Bytes) (s : Script) :
    faults (ofChunks chunks ++ s) = faults s := by
  induction chunks with
  | nil => rfl
  | cons bs chunks ih => exact ih

/-- A read does not go beyond the piece that it finds. -/
theorem read_bytes {bs : Bytes} (hb : bs ≠ []) {n : Nat} (hn : 0 < n) (s : Script) :
    Source.read (Piece.bytes bs :: s) n =
      if bs.drop n = [] then ⟨.ok bs, s, []⟩
      else ⟨.ok (bs.take n), .bytes (bs.drop n) :: s, []⟩ := by
  obtain ⟨n, rfl⟩ := Nat.exists_eq_add_one.2 hn
  obtain ⟨b, bs, rfl⟩ := List.exists_cons_of_ne_nil hb
  simp only [Source.read, read, List.isEmpty_iff]

end Script

namespace ChunkReader

variable {r : ChunkReader} {n : Nat}

/-! ## Chunk readers and scripts -/

/-- The chunks to come, and then the failure. -/
def upcoming (chunks : List Bytes) (failure : Option IoError) : Script :=
  Script.ofChunks chunks ++ failure.toList.map .fault

/-- What is left to be read. -/
def script (r : ChunkReader) : Script :=
  if r.available = [] then upcoming r.chunks r.failure
  else .bytes r.available :: upcoming r.chunks r.failure

theorem available_give (r : ChunkReader) (n : Nat) :
    (r.give n).rest.available = r.available.drop n := by
  rw [give, available, available, ← List.drop_drop, List.length_take, List.drop_eq_drop_iff]
  simp

theorem give_script (ha : r.available ≠ []) (hn : 0 < n) :
    (r.give n).result = (Source.read r.script n).result ∧
      (r.give n).rest.script = (Source.read r.script n).rest := by
  have hg : (r.give n).rest.script =
      if r.available.drop n = [] then upcoming r.chunks r.failure
      else .bytes (r.available.drop n) :: upcoming r.chunks r.failure := by
    rw [script, available_give]
    rfl
  rw [script, if_neg ha, Script.read_bytes ha hn, hg]
  split
  · -- what is asked for is all that is left of the chunk
    refine ⟨?_, rfl⟩
    rw [give, List.take_of_length_le (List.drop_eq_nil_iff.1 ‹_›)]
  · exact ⟨rfl, rfl⟩

theorem refill_script (hn : 0 < n) (chunks : List Bytes) (failure : Option IoError) :
    (refill n chunks failure).result = (Source.read (upcoming chunks failure) n).result ∧
      (refill n chunks failure).rest.script = (Source.read (upcoming chunks failure) n).rest := by
  obtain ⟨n, rfl⟩ := Nat.exists_eq_add_one.2 hn
  fun_induction refill (n + 1) chunks failure with
  | case1 => exact ⟨rfl, rfl⟩
  | case2 e => exact ⟨rfl, rfl⟩
  | case3 rest failure ih => exact ih
  | case4 b bs rest failure =>
    have ha : (ChunkReader.mk (b :: bs) 0 rest failure).available ≠ [] := List.cons_ne_nil _ _
    exact give_script ha hn

/-- **A chunk reader reads as its script does.** -/
theorem follows_script : Source.Follows script := by
  intro r n
  rcases Nat.eq_zero_or_pos n with rfl | hn
  · rw [Script.read_zero]
    exact ⟨rfl, rfl⟩
  · show (r.read n).result = _ ∧ script (r.read n).rest = _
    rw [read, if_neg (Nat.ne_of_gt hn)]
    by_cases ha : r.available = []
    · rw [if_pos ha, script, if_pos ha]
      exact refill_script hn r.chunks r.failure
    · rw [if_neg ha]
      exact give_script ha hn

/-! ## What a chunk reader yields -/

theorem contents_upcoming (chunks : List Bytes) (failure : Option IoError) :
    Script.contents (upcoming chunks failure) = chunks.flatten := by
  rw [upcoming, Script.contents_ofChunks_append]
  cases failure <;> exact List.append_nil _

theorem lead_upcoming (chunks : List Bytes) (failure : Option IoError) :
    Script.lead (upcoming chunks failure) = chunks.flatten := by
  rw [upcoming, Script.lead_ofChunks_append]
  cases failure <;> exact List.append_nil _

theorem faults_upcoming (chunks : List Bytes) (failure : Option IoError) :
    Script.faults (upcoming chunks failure) = failure.toList := by
  rw [upcoming, Script.faults_ofChunks_append]
  cases failure <;> rfl

/-- **A new reader** yields the bytes of its chunks, one after the other, and then the failure. -/
theorem yields (chunks : List Bytes) (failure : Option IoError) :
    Yields (new chunks failure) chunks.flatten failure := by
  refine follows_script.yields ?_
  have h : Yields (upcoming chunks failure) _ failure := Script.yields
    ((lead_upcoming chunks failure).trans (contents_upcoming chunks failure).symm)
    (faults_upcoming chunks failure)
  rwa [contents_upcoming] at h

end ChunkReader

end Refetch
