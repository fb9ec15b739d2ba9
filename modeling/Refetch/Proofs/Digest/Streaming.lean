import Refetch.Digest.Stream
import Refetch.Proofs.Io.Copying
/-!
# Digests taken in pieces

1. Whole blocks can be taken in as they come; what is left over goes before the next bytes
   (`absorb_append`).
2. Hence a hasher that has taken some bytes, in any pieces, finishes with the digest of them all
   (`Hasher.Took.finish`).
3. A hashing source gives what its source gives, and at its end the hasher has taken all of it.
-/

namespace Refetch.Digest

namespace BlockHash

variable (h : BlockHash)

theorem absorb_of_short {s : h.State} {bs : Bytes} (hs : bs.length < h.blockSize) :
    h.absorb s bs = (s, bs) := by
  rw [absorb, if_pos ((isShort_iff h bs).2 hs)]

theorem absorb_of_long {s : h.State} {bs : Bytes} (hl : h.blockSize ≤ bs.length) :
    h.absorb s bs = h.absorb (h.step s (bs.take h.blockSize)) (bs.drop h.blockSize) := by
  rw [absorb, if_neg (by rw [isShort_iff]; omega)]

/-- **Bytes in two parts**: the second part goes on from the state and the rest of the first. -/
theorem absorb_append (s : h.State) (bs cs : Bytes) :
    h.absorb s (bs ++ cs) = h.absorb (h.absorb s bs).1 ((h.absorb s bs).2 ++ cs) := by
  induction hn : bs.length using Nat.strong_induction_on generalizing s bs with
  | _ n ih =>
    by_cases hs : bs.length < h.blockSize
    · rw [absorb_of_short h hs]
    · have hp := h.blockSize_pos
      have hl : h.blockSize ≤ bs.length := by omega
      have hd : (bs.drop h.blockSize).length < n := by rw [List.length_drop]; omega
      rw [absorb_of_long h (show h.blockSize ≤ (bs ++ cs).length by simp; omega),
        absorb_of_long h hl, List.take_append_of_le_length hl, List.drop_append_of_le_length hl]
      exact ih _ hd _ _ rfl

end BlockHash

namespace Hasher

variable {h : BlockHash} {a : Hasher h} {bs cs : Bytes}

/-- The hasher is where it is after these bytes. -/
def Took (a : Hasher h) (bs : Bytes) : Prop :=
  h.absorb h.initial bs = (a.state, a.pending) ∧ a.length = bs.length

theorem took_new : Took (new : Hasher h) [] := ⟨h.absorb_of_short h.blockSize_pos, rfl⟩

theorem Took.update (ha : a.Took bs) (cs : Bytes) : (a.update cs).Took (bs ++ cs) := by
  refine ⟨?_, by simp [Hasher.update, ha.2]⟩
  rw [BlockHash.absorb_append, ha.1]
  rfl

theorem Took.finish (ha : a.Took bs) : a.finish = h.digest bs := by
  rw [BlockHash.digest, BlockHash.absorb_append, ha.1, ← ha.2]
  rfl

end Hasher

namespace Hashing

variable {h : BlockHash} {ρ : Type} [Source ρ]

theorem follows_inner : Source.Follows (inner : Hashing h ρ → ρ) :=
  fun r n => ⟨read_result r n, read_inner r n⟩

variable {r : Hashing h ρ} {n : Nat} {bs : Bytes}

theorem totals_read : (Source.read r n).totals = (Source.read r.inner n).totals := by
  simp only [Source.read, read]
  split <;> rfl

theorem hasher_of_bytes (hr : (Source.read r n).result = .ok bs) :
    (Source.read r n).rest.hasher = r.hasher.update bs := by
  simp only [Source.read, read] at hr ⊢
  split <;> simp_all

theorem hasher_of_error {e : IoError} (hr : (Source.read r n).result = .error e) :
    (Source.read r n).rest.hasher = r.hasher := by
  simp only [Source.read, read] at hr ⊢
  split <;> simp_all

/-- Wherever the reading stops, the hasher took what was read. -/
theorem took_readToEnd (hr : r.hasher.Took bs) :
    (Source.readToEnd r).rest.hasher.Took (bs ++ (Source.readToEnd r).data) := by
  induction r using Source.reading_induction generalizing bs with
  | ended r h =>
    rw [Source.readToEnd_of_end h, hasher_of_bytes h]
    exact hr.update []
  | bytes r cs hb h ih =>
    rw [Source.readToEnd_of_bytes hb h, ← List.append_assoc]
    exact ih (by rw [hasher_of_bytes h]; exact hr.update cs)
  | interrupted r e h he ih =>
    rw [Source.readToEnd_of_interrupted h he]
    exact ih (by rw [hasher_of_error h]; exact hr)
  | failed r e h he =>
    rw [Source.readToEnd_of_error h he, hasher_of_error h, List.append_nil]
    exact hr

/-- A hashing source reports what its source reports. -/
theorem totals_readToEnd (r : Hashing h ρ) :
    (Source.readToEnd r).totals = (Source.readToEnd r.inner).totals := by
  induction r using Source.reading_induction with
  | ended r h =>
    have h' := (follows_inner r bufferSize).1 ▸ h
    rw [Source.readToEnd_of_end h, Source.readToEnd_of_end h', totals_read]
  | bytes r cs hb h ih =>
    have h' := (follows_inner r bufferSize).1 ▸ h
    rw [(follows_inner r bufferSize).2] at ih
    rw [Source.readToEnd_of_bytes hb h, Source.readToEnd_of_bytes hb h', totals_read, ih]
  | interrupted r e h he ih =>
    have h' := (follows_inner r bufferSize).1 ▸ h
    rw [(follows_inner r bufferSize).2] at ih
    rw [Source.readToEnd_of_interrupted h he, Source.readToEnd_of_interrupted h' he, totals_read,
      ih]
  | failed r e h he =>
    have h' := (follows_inner r bufferSize).1 ▸ h
    rw [Source.readToEnd_of_error h he, Source.readToEnd_of_error h' he, totals_read]

/-- A copy through a hashing source that ends well leaves the digest of everything. -/
theorem finish_copy {σ : Type} [Sink σ] {r : ρ} {s : σ} {m : Nat}
    (hc : (copy (new r : Hashing h ρ) s).outcome = .ok m) :
    (copy (new r : Hashing h ρ) s).source.hasher.finish = h.digest (Source.readToEnd r).data := by
  rw [copy] at hc ⊢
  rw [(copyFrom_of_ok hc).1, (took_readToEnd Hasher.took_new).finish, List.nil_append,
    (follows_inner.readToEnd (new r)).1, new]

end Hashing

end Refetch.Digest
