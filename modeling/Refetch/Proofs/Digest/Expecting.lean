import Refetch.Digest.Verify
import Refetch.Proofs.Digest.Streaming
import Refetch.Proofs.Text.Hexadecimal
/-!
# Digests that are expected

1. An accepted checksum stands for bytes, and a digest passes if it is these bytes
   (`Checksum.accepts_iff`). The case of the letters does not matter (`Checksum.parse_congr`).
2. The digest of a source that is read to its end, and that of a file, is the digest of all its bytes
   (`digestSource_eq`, `verifyFile_of_readFile`).
-/

namespace Refetch

namespace Digest

/-! ## Checksums -/

namespace HashKind

theorem length_of_ofDigitCount {n : Nat} {kind : HashKind} (h : ofDigitCount n = some kind) :
    n % 2 = 0 := by
  unfold ofDigitCount at h
  split at h <;> first | rfl | cases h

theorem detect?_eq_some_iff {hash : String} {kind : HashKind} : detect? hash = some kind ↔
    hash.toList.all Text.Hex.isDigit ∧ ofDigitCount hash.toList.length = some kind := by
  rw [detect?, Option.ite_none_right_eq_some]

end HashKind

namespace Checksum

variable {hash hash' : String} {k : Checksum} {expected : Bytes}

theorem parse_eq_ok_iff : parse hash = .ok k ↔
    HashKind.detect? (Text.trim hash) = some k.kind ∧ k.expected = lower (Text.trim hash) := by
  obtain ⟨kind, text⟩ := k
  simp only [parse]
  cases HashKind.detect? (Text.trim hash) <;> simp [eq_comm]

theorem lower_encode (bs : Bytes) : lower (Text.Hex.encode bs) = Text.Hex.encode bs := by
  rw [lower, Text.Hex.encode, String.toList_ofList, Text.Hex.map_toLower_encodeChars]

/-- **An accepted checksum** stands for the bytes that its digits write. -/
theorem expected_of_parse (h : parse hash = .ok k) :
    ∃ expected, Text.Hex.decode (Text.trim hash) = some expected ∧
      HashKind.ofDigitCount (Text.trim hash).toList.length = some k.kind ∧
      k.expected = Text.Hex.encode expected := by
  obtain ⟨hd, he⟩ := parse_eq_ok_iff.1 h
  obtain ⟨hall, hk⟩ := HashKind.detect?_eq_some_iff.1 hd
  obtain ⟨bs, hb⟩ := Text.Hex.exists_decodeChars hall (HashKind.length_of_ofDigitCount hk)
  refine ⟨bs, hb, hk, ?_⟩
  rw [he, lower, Text.Hex.encode, Text.Hex.encodeChars_of_decodeChars hb]

/-- **A digest passes** if it is the expected one. -/
theorem accepts_iff (h : k.expected = Text.Hex.encode expected) (data : Bytes) :
    k.accepts (k.kind.hexDigest data) = true ↔ k.kind.algorithm.digest data = expected := by
  rw [accepts, h, HashKind.hexDigest, lower_encode, lower_encode, beq_iff_eq,
    Text.Hex.encode_injective.eq_iff, eq_comm]

theorem lower_trim (s : String) : lower (Text.trim s) = Text.trim (lower s) := by
  simp only [lower, Text.trim, String.toList_ofList, Text.trimChars_map_toLower]

theorem detect?_lower (s : String) : HashKind.detect? (lower s) = HashKind.detect? s := by
  have hf : Text.Hex.isDigit ∘ Char.toLower = Text.Hex.isDigit :=
    funext fun c => congrArg Option.isSome (Text.Hex.value?_toLower c)
  simp only [HashKind.detect?, lower, String.toList_ofList, List.all_map, hf, List.length_map]

/-- The letters of a checksum may be of either case. -/
theorem parse_congr (hl : lower hash' = lower hash) (h : parse hash = .ok k) :
    parse hash' = .ok k := by
  have ht : lower (Text.trim hash') = lower (Text.trim hash) := by
    rw [lower_trim, hl, lower_trim]
  obtain ⟨hd, he⟩ := parse_eq_ok_iff.1 h
  exact parse_eq_ok_iff.2 ⟨by rw [← detect?_lower, ht, detect?_lower, hd], by rw [he, ht]⟩

end Checksum

/-! ## Sources and files -/

namespace Hasher

variable {h : BlockHash}

theorem accepting : Sink.Accepting (Hasher h) := fun _ _ => rfl

theorem keeps_took : Keeps fun bs (a : Hasher h) => a.Took bs := by
  intro bs a chunk ha
  show (a.update chunk).Took (bs ++ chunk.take chunk.length)
  rw [List.take_length]
  exact ha.update chunk

end Hasher

/-- **The digest of a source** is that of all that it gives. -/
theorem digestSource_eq {ρ : Type} [Source ρ] {r : ρ} (kind : HashKind)
    (h : (Source.readToEnd r).failure = none) :
    digestSource kind r = .ok (kind.hexDigest (Source.readToEnd r).data) := by
  have ha := accepted_copyFrom_of_accepting Hasher.accepting 0 r
    (Hasher.new : Hasher kind.algorithm)
  have hc : (copyFrom 0 r (Hasher.new : Hasher kind.algorithm)).sink.Took _ :=
    Hasher.keeps_took.copyFrom Hasher.took_new 0 r
  rw [ha, List.take_length, List.nil_append] at hc
  have ho := outcome_copyFrom_eq_ok_iff.2 ⟨h, ha, rfl⟩
  rw [digestSource, copy, ho, hc.finish]
  rfl

/-- What can be read is there. -/
theorem contains_of_readFile {fs : Storage.FileSystem} {p : Storage.Path} {data : Bytes}
    (hf : fs.readFile p = .ok data) : fs.contains p = true := by
  unfold Storage.FileSystem.readFile at hf
  unfold Storage.FileSystem.contains
  split at hf <;> simp_all

/-- **The verification of a file** compares the digest of its content. -/
theorem verifyFile_of_readFile {fs : Storage.FileSystem} {path hash : String} {k : Checksum}
    {data : Bytes} (hk : Checksum.parse hash = .ok k)
    (hf : fs.readFile (.ofText path) = .ok data) :
    verifyFile fs path (some hash) = .ok (k.accepts (k.kind.hexDigest data)) := by
  have hr : (Source.readToEnd (Script.ofChunks [data])).failure = none :=
    Script.failure_readToEnd _
  have hc := contains_of_readFile hf
  have hd : (Source.readToEnd (Script.ofChunks [data])).data = data := by
    rw [Script.data_readToEnd hr]
    simp [Script.ofChunks, Script.contents]
  simp only [verifyFile, hk, hc, hf, digestSource_eq k.kind hr, hd, if_true]

end Digest

end Refetch
