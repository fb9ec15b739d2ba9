import Refetch.Proofs.Digest.Expecting
import Refetch.Proofs.Download.Filing
import Refetch.Proofs.Download.Lifecycle
/-!
# Checked downloads

A configuration expects a digest. A run that copies its body without a fault ends in one of two ways.

1. The digest of the whole body is the expected one. Then the body is committed, unless the sink
   cannot be flushed or the destination not be completed.
2. It is another one. Then the run fails with both digests, and what is kept stays.

The digest covers what ends in the file: a file that was downloaded so passes its verification.
-/

namespace Refetch.Download

open Digest (Checksum HashKind)

/-! ## Copies that are checked -/

section Copy

variable {ρ σ : Type} [Source ρ] [Dest σ] {url : Url} {k : Checksum} {r : ρ} {d : σ} {n : Nat}

/-- **A checked copy** without a fault stands or falls with the digest of all that was read. -/
theorem outcome_copyChecked (h : (copy r d).outcome = .ok n) :
    (copyChecked url (some k) (Progress.Stream.new r) d).outcome =
      if k.accepts (k.kind.hexDigest (Source.readToEnd r).data) then .ok n
      else .error (.checksumMismatch k.expected (k.kind.hexDigest (Source.readToEnd r).data)) := by
  have hd : (Source.readToEnd (Progress.Stream.new r)).data = (Source.readToEnd r).data :=
    (Progress.Stream.follows_inner.readToEnd (Progress.Stream.new r)).1
  have hc : (copy (Digest.Hashing.new (Progress.Stream.new r) :
      Digest.Hashing k.kind.algorithm _) d).outcome = .ok n :=
    ((follows_hashing k.kind.algorithm).copyFrom 0 (.new (Progress.Stream.new r)) d).1.trans h
  simp only [copyChecked, hc, Digest.Hashing.finish_copy hc, hd]
  rfl

variable {expected : Bytes}

theorem fill_of_mismatch (h : (copy r d).outcome = .ok n)
    (hk : k.expected = Text.Hex.encode expected)
    (hm : k.kind.algorithm.digest (Source.readToEnd r).data ≠ expected) :
    (fill url (some k) r d).outcome = .error (.checksumMismatch (Text.Hex.encode expected)
      (k.kind.hexDigest (Source.readToEnd r).data)) := by
  have hc : (copyChecked url (some k) _ d).outcome = _ := outcome_copyChecked h
  rw [if_neg (mt (Checksum.accepts_iff hk _).1 hm), hk] at hc
  simp only [fill, hc]

theorem fill_of_match (h : (copy r d).outcome = .ok n)
    (hk : k.expected = Text.Hex.encode expected)
    (hm : k.kind.algorithm.digest (Source.readToEnd r).data = expected) :
    (fill url (some k) r d).outcome = (match (Dest.flush (copy r d).sink).1 with
        | .error i => .error (.transfer url.render i)
        | .ok () => .ok n) ∧
      (fill url (some k) r d).dest = (Dest.closeSink (Dest.flush (copy r d).sink).2).2 := by
  have hc : (copyChecked url (some k) _ d).outcome = _ := outcome_copyChecked h
  rw [if_pos ((Checksum.accepts_iff hk _).2 hm)] at hc
  cases he : (Dest.flush (copy r d).sink).1 <;>
    simp only [fill, hc, (dest_copyChecked url (some k) r d).1, he, and_self]

end Copy

/-! ## Runs -/

variable {ρ σ ε τ : Type} [Source ρ] [Dest σ] [Engine ε ρ]
variable {c : Config} {d : σ} {e : ε} {a : Answer ρ} {body : ReaderBody ρ} {r : ρ}

/-- A run gets as far as copying a body into the open sink without a fault. -/
structure Copies (c : Config) (d : σ) (e : ε) (a : Answer ρ) (body : ReaderBody ρ) (r : ρ) :
    Prop where
  attempted : c.attempt? d e = some (a, body)
  source : body.source = some r
  opened : (Dest.openSink d).1 = .ok ()
  copied : ∃ n, (copy r (Dest.openSink d).2).outcome = .ok n

/-- The sink when the body is copied. -/
def filledSink (d : σ) (r : ρ) : σ := (copy r (Dest.openSink d).2).sink

/-- After the copy the sink can be flushed and, when it was let go, the destination be completed. -/
def Completes (d : σ) (r : ρ) : Prop :=
  (Dest.flush (filledSink d r)).1 = .ok () ∧
    (Dest.complete (Dest.closeSink (Dest.flush (filledSink d r)).2).2 true).1 = .ok ()

/-- What an expected digest does to a run that has copied a body. -/
structure Checked [Keeper σ τ] (kind : HashKind) (expected : Bytes) (a : Answer ρ) (r : ρ) (d : σ)
    (run : Run σ ε) (d' : σ) : Prop where
  dest : run.dest = some d'
  /-- The body is committed if its digest is the expected one and nothing fails afterwards. -/
  commits_iff : run.commits = true ↔
    kind.algorithm.digest (Source.readToEnd r).data = expected ∧ Completes d r
  /-- All of the body is committed, or nothing. -/
  kept : if run.commits then (Keeper.kept d').data = some (Source.readToEnd r).data
    else Keeper.kept d' = Keeper.kept d
  /-- Another digest is reported with the expected one, and no validator is kept. -/
  mismatch : kind.algorithm.digest (Source.readToEnd r).data ≠ expected →
    run.outcome = .error (.checksumMismatch (Text.Hex.encode expected)
      (kind.hexDigest (Source.readToEnd r).data)) ∧
    run.events.any Event.keepsValidator = false
  /-- With the expected digest only a failure afterwards stands in the way. -/
  stuck : kind.algorithm.digest (Source.readToEnd r).data = expected → ¬ Completes d r →
    ∃ i, run.outcome = .error (.transfer a.url.render i)

section Attempt

variable {k : Checksum} {expected : Bytes} (h : Copies c d e a body r) (hc : c.checksum = some k)
  (hk : k.expected = Text.Hex.encode expected)
include h hc hk

theorem attemptedCopy_of_mismatch
    (hm : k.kind.algorithm.digest (Source.readToEnd r).data ≠ expected) :
    (attemptedCopy c a body d).outcome = .error (.checksumMismatch (Text.Hex.encode expected)
      (k.kind.hexDigest (Source.readToEnd r).data)) := by
  obtain ⟨n, hn⟩ := h.copied
  rw [attemptedCopy, copyBody_of_opened h.source h.opened, hc]
  exact fill_of_mismatch hn hk hm

theorem attemptedCopy_of_match
    (hm : k.kind.algorithm.digest (Source.readToEnd r).data = expected) :
    ∃ n, (attemptedCopy c a body d).outcome = (match (Dest.flush (filledSink d r)).1 with
        | .error i => .error (.transfer a.url.render i)
        | .ok () => .ok n) ∧
      (attemptedCopy c a body d).dest =
        (Dest.closeSink (Dest.flush (filledSink d r)).2).2 := by
  obtain ⟨n, hn⟩ := h.copied
  rw [attemptedCopy, copyBody_of_opened h.source h.opened, hc]
  exact ⟨n, fill_of_match hn hk hm⟩

/-- The attempt is stored if the digest is the expected one and nothing fails afterwards. -/
theorem stored_iff : ((attemptedCopy c a body d).outcome.isOk ∧
      (attemptedCompletion c a body d).1 = .ok ()) ↔
    k.kind.algorithm.digest (Source.readToEnd r).data = expected ∧ Completes d r := by
  by_cases hm : k.kind.algorithm.digest (Source.readToEnd r).data = expected
  · obtain ⟨n, ho, hd⟩ := attemptedCopy_of_match h hc hk hm
    simp only [attemptedCompletion, ho, hd, hm, true_and, Completes]
    cases (Dest.flush (filledSink d r)).1 <;> simp [Except.isOk, Except.toBool]
  · rw [attemptedCopy_of_mismatch h hc hk hm]
    simp [hm, Except.isOk, Except.toBool]

/-- Where the digest is the expected one, a failure is that of the flush or of the completion. -/
theorem outcome_of_stuck (hm : k.kind.algorithm.digest (Source.readToEnd r).data = expected)
    (hn : ¬ Completes d r) :
    ∃ i, (run c (some d) e).outcome = .error (.transfer a.url.render i) := by
  obtain ⟨n, ho, hd⟩ := attemptedCopy_of_match h hc hk hm
  cases hf : (Dest.flush (filledSink d r)).1 with
  | error i =>
    rw [hf] at ho
    refine ⟨i, (run_of_incomplete h.attempted ?_).2.2⟩
    rw [ho, outcome_completeCopy_of_uncopied]
  | ok u =>
    rw [hf] at ho
    cases hs : (Dest.complete (Dest.closeSink (Dest.flush (filledSink d r)).2).2 true).1 with
    | ok u => exact absurd ⟨hf, hs⟩ hn
    | error i =>
      refine ⟨i, (run_of_incomplete h.attempted ?_).2.2⟩
      rw [ho, hd, outcome_completeCopy_of_uncompleted hs]

/-- With another digest the run fails, and keeps no validator. -/
theorem run_of_mismatch (hm : k.kind.algorithm.digest (Source.readToEnd r).data ≠ expected) :
    (run c (some d) e).outcome = .error (.checksumMismatch (Text.Hex.encode expected)
        (k.kind.hexDigest (Source.readToEnd r).data)) ∧
      (run c (some d) e).events.any Event.keepsValidator = false := by
  have ho := attemptedCopy_of_mismatch h hc hk hm
  obtain ⟨-, hcalls, hout⟩ := run_of_incomplete h.attempted
    (by rw [ho, outcome_completeCopy_of_uncopied])
  refine ⟨hout, List.any_eq_false.2 fun ev hev hv => ?_⟩
  -- a call that keeps a validator would be among the calls of the run
  have hcall : ev.isCall = true ∧ ev.usesSink = false := by
    cases ev <;> simp_all [Event.keepsValidator, Event.isCall, Event.changesDest, Event.usesSink]
  have hmem : ev ∈ calls (run c (some d) e).events := List.mem_filter.2 ⟨hev, hcall.1⟩
  rw [hcalls] at hmem
  rcases calls_attemptedCopy c a body d with ⟨hz, -⟩ | ⟨hz, -⟩ | ⟨ws, m, hw, hz⟩
  · rw [hz] at hmem
    cases ev <;> simp_all [Event.keepsValidator]
  · rw [hz] at hmem
    cases ev <;> simp_all [Event.keepsValidator]
  · have hws : ev ∉ ws := fun hm => by simp [hw ev hm] at hcall
    rw [hz] at hmem
    cases ev <;> simp_all [Event.keepsValidator]

end Attempt

/-- **What an expected digest does** to every run that copies its body. -/
theorem checked_run [Keeper σ τ] {k : Checksum} {expected : Bytes} (hi : Keeper.Idle d)
    (h : Copies c d e a body r) (hc : c.checksum = some k)
    (hk : k.expected = Text.Hex.encode expected) :
    ∃ d', Checked k.kind expected a r d (run c (some d) e) d' := by
  obtain ⟨d', hp⟩ := postState_run c hi e
  have hiff := stored_iff h hc hk
  have hsrc := (source?_of_attempted h.attempted).2
  refine ⟨d', hp.dest, ?_, ?_, fun hm => run_of_mismatch h hc hk hm,
    fun hm hn => outcome_of_stuck h hc hk hm hn⟩
  · rw [← hiff]
    rcases stored_or_failed c a body d with ⟨n, hn, hst⟩ | hf
    · simp [commits_of_stored h.attempted hn hst, hn, hst, Except.isOk, Except.toBool]
    · simp only [commits_of_failed h.attempted hf, Bool.false_eq_true, false_iff]
      exact hf
  · split
    · rename_i hcm
      obtain ⟨s, hs, -, hd⟩ := hp.committed hcm
      rw [hsrc, h.source] at hs
      obtain rfl := Option.some.inj hs
      exact hd
    · rename_i hcm
      exact hp.uncommitted (by simpa using hcm)

/-! ## Files -/

/-- **A downloaded file** passes the verification against the digest it was expected to have, written
with letters of either case. -/
theorem verifyFile_of_downloaded {d : OnDisk} {k : Checksum} {hash hash' : String} {s : Summary}
    (h : d.Sound) (hc : c.checksum = some k) (hk : Checksum.parse hash = .ok k)
    (hl : Checksum.lower hash' = Checksum.lower hash)
    (hs : (run c (some d) e).outcome = .ok s) (hd : s.status = .downloaded) :
    ∃ d', (run c (some d) e).dest = some d' ∧
      Digest.verifyFile d'.disk d.dest.path (some hash') = .ok true := by
  obtain ⟨a, body, r, d', -, -, hp, hd', -, -, -, hf⟩ := file_of_downloaded h hs hd
  refine ⟨d', hd', ?_⟩
  rw [Digest.verifyFile_of_readFile (Checksum.parse_congr hl hk) hf, hp k hc]

/-! ## Actions -/

theorem parse_of_expect {c₀ : Config} {hash : String} (h : c₀.expect hash = .ok c) :
    ∃ k, Checksum.parse hash = .ok k ∧ c.checksum = some k := by
  unfold Config.expect at h
  cases hk : Checksum.parse hash with
  | error f => simp [hk, Except.map] at h
  | ok k =>
    simp only [hk, Except.map, Except.ok.injEq] at h
    exact ⟨k, rfl, by rw [← h]⟩

/-- The digest of one byte, with blanks around it. -/
def digestOfOne : String :=
  " 559AEAD08264D5795D3909718CDD05ABD49572E84FE55590EEF31A88A08FDFFD\n"

theorem digest_one :
    some (HashKind.sha256.algorithm.digest [65]) = Text.Hex.decode (Text.trim digestOfOne) := by
  show some (Digest.sha256.digest [65]) = _
  rw [Digest.BlockHash.digest, Digest.BlockHash.absorb_of_long _ (by decide +kernel),
    Digest.BlockHash.absorb_of_short _ (by decide +kernel)]
  decide +kernel

/-- A configuration that expects the digest of one byte. -/
def Config.checking : Config := { Config.validating with
  checksum := some ⟨.sha256, "559aead08264d5795d3909718cdd05abd49572e84fe55590eef31a88a08fdffd"⟩ }

end Refetch.Download
