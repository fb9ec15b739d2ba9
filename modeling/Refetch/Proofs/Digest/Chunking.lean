import Refetch.Proofs.Digest.Spelling
import Refetch.Proofs.Io.Reading
/-!
# Digests do not depend on the pieces

1. A hasher that took bytes in pieces is where it is after one update with all of them
   (`Hasher.Took.hex`).
2. On the writing side, a script is copied into a hasher: its digest is that of its contents, unless
   a fault stops the copy (`digestSource_script`).
3. On the reading side, a hashing source passes on what the script gives, and took what it passed on
   (`Hashing.took_readEach`).
4. A file is verified against the bytes that the expected digest spells (`verifyFile_judged`).
-/

namespace Refetch.Digest

open Storage (FileSystem Path)

/-- The digest of bytes that are taken in at once, in hexadecimal. -/
def HashKind.atOnce (kind : HashKind) (bs : Bytes) : String :=
  Text.Hex.encode ((Hasher.new : Hasher kind.algorithm).update bs).finish

theorem HashKind.atOnce_eq (kind : HashKind) (bs : Bytes) : kind.atOnce bs = kind.hexDigest bs := by
  rw [atOnce, (Hasher.took_new.update bs).finish, List.nil_append, hexDigest]

variable {kind : HashKind} {s : Script} {bs : Bytes}

theorem Hasher.Took.hex {a : Hasher kind.algorithm} (ha : a.Took bs) :
    Text.Hex.encode a.finish = kind.atOnce bs := by
  rw [ha.finish, HashKind.atOnce_eq, HashKind.hexDigest]

/-! ## Copying into a hasher -/

theorem digestSource_script (kind : HashKind) (s : Script) :
    digestSource kind s =
      match s.fatal? with
      | none => .ok (kind.atOnce s.contents)
      | some e => .error e := by
  have hf : (Source.readToEnd s).failure = s.fatal? := s.failure_readToEnd
  rcases h : s.fatal? with _ | e
  · rw [h] at hf
    rw [digestSource_eq kind hf, Script.data_readToEnd hf, HashKind.atOnce_eq]
  · rw [h] at hf
    rw [digestSource, copy, outcome_copyFrom_of_accepting Hasher.accepting, hf]
    rfl

/-! ## Reading through a hasher -/

namespace Hashing

variable {ρ : Type} [Source ρ]

/-- What reads passed on, the hasher took. -/
theorem took_readEach {h : BlockHash} {r : Hashing h ρ} (hr : r.hasher.Took bs)
    (sizes : List Nat) :
    (Source.readEach r sizes).2.hasher.Took
      (bs ++ Source.collected (Source.readEach r sizes).1) := by
  induction sizes generalizing r bs with
  | nil => simpa [Source.readEach, Source.collected] using hr
  | cons n ns ih =>
    rw [Source.readEach]
    rcases hp : (Source.read r n).result with e | cs
    · rw [Source.collected]
      exact ih (by rwa [hasher_of_error hp])
    · rw [Source.collected, ← List.append_assoc]
      exact ih (by rw [hasher_of_bytes hp]; exact hr.update cs)

end Hashing

/-- A run of reads from a script through a hasher. -/
def readHashed (kind : HashKind) (s : Script) (sizes : List Nat) :
    List (Except IoError Bytes) × Hashing kind.algorithm Script :=
  Source.readEach (Hashing.new s) sizes

/-- The digest at the end of such a run, in hexadecimal. -/
def readDigest (kind : HashKind) (s : Script) (sizes : List Nat) : String :=
  Text.Hex.encode (readHashed kind s sizes).2.hasher.finish

/-- **Pieces leave no trace** in the digest of a script. -/
structure Uncut (kind : HashKind) (s : Script) : Prop where
  /-- Interruptions apart, a copy gives the digest of all bytes at once. -/
  copied : (∀ e ∈ s.faults, e.isInterrupted = true) →
    digestSource kind s = .ok (kind.atOnce s.contents)
  /-- Another fault stops it. -/
  stopped : ∀ e, s.fatal? = some e → digestSource kind s = .error e
  /-- A hashing source gives what the script gives, buffer by buffer. -/
  passed : ∀ sizes, (readHashed kind s sizes).1 = (Source.readEach s sizes).1
  /-- Wherever the reading stops, the digest is that of the bytes read so far. -/
  so_far : ∀ sizes,
    readDigest kind s sizes = kind.atOnce (Source.collected (readHashed kind s sizes).1)
  /-- Once it is drained, these are all bytes of the script, and the digest is that of the copy. -/
  drained : ∀ sizes, Source.Spent (readHashed kind s sizes).2 →
    Source.collected (readHashed kind s sizes).1 = s.contents ∧
      readDigest kind s sizes = kind.atOnce s.contents
  /-- Enough buffers that are not empty drain it. -/
  drains : ∀ sizes, s.measure ≤ (sizes.filter (0 < ·)).length →
    Source.Spent (readHashed kind s sizes).2

theorem uncut (kind : HashKind) (s : Script) : Uncut kind s := by
  have hf : Source.Follows (Hashing.inner : Hashing kind.algorithm Script → Script) :=
    Hashing.follows_inner
  have hsame (sizes : List Nat) : (readHashed kind s sizes).1 = (Source.readEach s sizes).1 ∧
      (readHashed kind s sizes).2.inner = (Source.readEach s sizes).2 :=
    hf.readEach (Hashing.new s) sizes
  have hnew : (Hashing.new s : Hashing kind.algorithm Script).hasher.Took [] := Hasher.took_new
  have hdigest (sizes : List Nat) :
      readDigest kind s sizes = kind.atOnce (Source.collected (readHashed kind s sizes).1) :=
    (Hashing.took_readEach hnew sizes).hex
  refine ⟨fun hi => ?copied, fun e he => ?stopped, fun sizes => (hsame sizes).1, hdigest,
    fun sizes hd => ?drained, fun sizes hn => ?drains⟩
  case copied => rw [digestSource_script, Script.fatal?_eq_none_iff.2 hi]
  case stopped => rw [digestSource_script, he]
  case drained =>
    rw [hf.spent_iff, (hsame sizes).2] at hd
    have hc : Source.collected (readHashed kind s sizes).1 = s.contents := by
      rw [(hsame sizes).1, Script.collected_of_spent hd]
    exact ⟨hc, by rw [hdigest, hc]⟩
  case drains =>
    rw [hf.spent_iff, (hsame sizes).2]
    exact Script.spent_readEach hn

/-! ## Files -/

variable {fs : FileSystem} {path hash : String}

/-- What the verification of a file against an expected digest finds. -/
structure Judged (fs : FileSystem) (path hash : String) : Prop where
  /-- A digest that is none is a setting that does not fit, whether there is a file or not. -/
  refused : (∃ fault, verifyFile fs path (some hash) = .error (.config fault)) ↔ ¬ IsDigest hash
  /-- A file that is missing has not the digest. -/
  missing : IsDigest hash → fs.contains (.ofText path) = false →
    verifyFile fs path (some hash) = .ok false
  /-- What is there and cannot be read is reported as such. -/
  unreadable : ∀ e, IsDigest hash → fs.contains (.ofText path) = true →
    fs.readFile (.ofText path) = .error e → verifyFile fs path (some hash) = .error (.io e)
  /-- A file passes if the digest of its whole content is the bytes that are spelled. -/
  compared : IsDigest hash → ∃ k expected, Checksum.parse hash = .ok k ∧ k.Stands hash expected ∧
    ∀ data, fs.readFile (.ofText path) = .ok data →
      verifyFile fs path (some hash) = .ok (decide (k.kind.algorithm.digest data = expected))

/-- A file is looked at only for a digest that is one. -/
theorem verifyFile_of_parse {k : Checksum} (hk : Checksum.parse hash = .ok k) :
    verifyFile fs path (some hash) =
      if fs.contains (.ofText path) then
        match fs.readFile (.ofText path) with
        | .error e => .error (.io e)
        | .ok data => .ok (k.accepts (k.kind.hexDigest data))
      else .ok false := by
  rcases hr : fs.readFile (.ofText path) with e | data
  · simp only [verifyFile, hk, hr]
  · rw [verifyFile_of_readFile hk hr, if_pos (contains_of_readFile hr)]

theorem verifyFile_judged (fs : FileSystem) (path hash : String) : Judged fs path hash := by
  rcases Checksum.parse_stands hash with ⟨hd, k, expected, hk, hs⟩ | ⟨hd, hk⟩
  · have hv : verifyFile fs path (some hash) = _ := verifyFile_of_parse hk
    refine ⟨iff_of_false ?refused (not_not.2 hd), fun _ hc => ?missing,
      fun e _ hc hr => ?unreadable, fun _ => ⟨k, expected, hk, hs,
      fun data hr => ?compared⟩⟩
    case refused =>
      rintro ⟨fault, hf⟩
      rw [hv] at hf
      split_ifs at hf
      split at hf <;> cases hf
    case missing => rw [hv, hc, if_neg Bool.false_ne_true]
    case unreadable => rw [hv, hc, if_pos rfl, hr]
    case compared =>
      have ha : k.accepts (k.kind.hexDigest data) = true ↔ k.kind.algorithm.digest data = expected :=
        hs.spelling _ _ (Checksum.lower_encode _)
      rw [verifyFile_of_readFile hk hr, Except.ok.injEq, Bool.eq_iff_iff, ha, decide_eq_true_iff]
  · have hv : verifyFile fs path (some hash) =
        .error (.config (.checksumFormat (Text.trim hash))) := by simp only [verifyFile, hk]
    exact ⟨iff_of_true ⟨_, hv⟩ hd, fun h => absurd h hd, fun _ h => absurd h hd,
      fun h => absurd h hd⟩

/-- **Digests do not depend on the pieces**, neither when a script is copied into a hasher nor when
it is read through one. A file is judged by the digest of its whole content. -/
theorem digests_uncut (kind : HashKind) (s : Script) (fs : FileSystem) (path hash : String) :
    Uncut kind s ∧ Judged fs path hash :=
  ⟨uncut kind s, verifyFile_judged fs path hash⟩

end Refetch.Digest
