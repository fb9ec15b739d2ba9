import Refetch.Proofs.Io.Reading
/-!
# What a reader yields

A caller does not know the pieces that a source is made of, and chooses the buffers. What can be
relied on all the same:

1. `Yields` says that a source gives some bytes, and after them a failure or none, whatever the
   buffers. Of scripts this holds if their faults come last (`Script.yields`), and of sources that
   read from one that yields (`Follows.yields`).
2. Reading to the end, with interrupted reads repeated, comes to the same with any buffers
   (`Script.whole_of_toEnd`), after as many reads as a script has entries and bytes, and one more
   (`Script.isSome_toEnd`).
-/

namespace Refetch

namespace Source

variable {ρ ρ' : Type} [Source ρ] [Source ρ']

/-- The failures of reads, one after the other. -/
def failures : List (Except IoError Bytes) → List IoError
  | [] => []
  | .ok _ :: results => failures results
  | .error e :: results => e :: failures results

/-- Reading gives these bytes and then this failure, if there is one, whatever the buffers. -/
structure Yields (r : ρ) (bs : Bytes) (failure : Option IoError) : Prop where
  /-- Nothing else is given, and nothing twice. -/
  begins : ∀ sizes, collected (readEach r sizes).1 <+: bs ∧
    failures (readEach r sizes).1 <+: failure.toList
  /-- A failure comes after all bytes. -/
  failed : ∀ sizes n e, (Source.read (readEach r sizes).2 n).result = .error e →
    collected (readEach r sizes).1 = bs
  /-- A buffer that is not empty stays so only at the end, when everything was given. -/
  ended : ∀ sizes n, 0 < n → (Source.read (readEach r sizes).2 n).result = .ok [] →
    collected (readEach r sizes).1 = bs ∧ failures (readEach r sizes).1 = failure.toList
  /-- The end is reached. -/
  ends : ∃ bound, ∀ sizes : List Nat, bound ≤ (sizes.filter (0 < ·)).length →
    Spent (readEach r sizes).2

theorem Follows.yields {inner : ρ → ρ'} (hf : Follows inner) {r : ρ} {bs : Bytes}
    {failure : Option IoError} (h : Yields (inner r) bs failure) : Yields r bs failure := by
  have hres (sizes : List Nat) :
      (Source.readEach r sizes).1 = (Source.readEach (inner r) sizes).1 :=
    (hf.readEach r sizes).1
  have hrest (sizes : List Nat) :
      inner (Source.readEach r sizes).2 = (Source.readEach (inner r) sizes).2 :=
    (hf.readEach r sizes).2
  obtain ⟨bound, hb⟩ := h.ends
  refine ⟨fun sizes => ?_, fun sizes n e he => ?_, fun sizes n hn he => ?_,
    bound, fun sizes hs => ?_⟩
  · rw [hres]
    exact h.begins sizes
  · rw [(hf _ n).1, hrest] at he
    rw [hres]
    exact h.failed sizes n e he
  · rw [(hf _ n).1, hrest] at he
    rw [hres]
    exact h.ended sizes n hn he
  · rw [hf.spent_iff, hrest]
    exact hb sizes hs

/-- What a caller has who reads on to the end and repeats what was interrupted: all bytes, or the
failure that stopped the reading; none while the end was not reached. -/
def toEnd : List (Except IoError Bytes) → Option (Except IoError Bytes)
  | [] => none
  | .ok [] :: _ => some (.ok [])
  | .ok (b :: bs) :: results => (toEnd results).map (Except.map ((b :: bs) ++ ·))
  | .error e :: results => if e.isInterrupted then toEnd results else some (.error e)

end Source

namespace Script

open Source (collected failures toEnd Yields Spent)

variable {s : Script} {n : Nat}

/-! ## Failures -/

theorem faults_read_eq (s : Script) (n : Nat) :
    faults s = failures [(Source.read s n).result] ++ faults (Source.read s n).rest := by
  rcases Nat.eq_zero_or_pos n with rfl | hn
  · rw [read_zero]
    rfl
  · rcases h : (Source.read s n).result with e | bs
    · exact (faults_read hn).2.1 e h
    · exact (faults_read hn).1 bs h

/-- **How a run of reads fails**: with the first faults, in order, and the rest is left. -/
theorem faults_readEach (s : Script) (sizes : List Nat) :
    faults s = failures (Source.readEach s sizes).1 ++ faults (Source.readEach s sizes).2 := by
  induction sizes generalizing s with
  | nil => rfl
  | cons n ns ih =>
    have hr := faults_read_eq s n
    rw [ih (Source.read s n).rest] at hr
    rw [hr, Source.readEach]
    cases (Source.read s n).result <;> rfl

/-- All bytes come before the first fault, and still do after a read. -/
theorem lead_rest (h : lead s = contents s) (n : Nat) :
    lead (Source.read s n).rest = contents (Source.read s n).rest := by
  rcases Nat.eq_zero_or_pos n with rfl | hn
  · rwa [read_zero]
  · rcases hr : (Source.read s n).result with e | bs
    · have hnil : contents (Source.read s n).rest = [] := by
        rw [← (contents_read hn).2.1 e hr, ← h, (lead_read hn).2.1 e hr]
      have hb := lead_begins (Source.read s n).rest
      rw [hnil] at hb ⊢
      exact List.prefix_nil.1 hb
    · rw [(contents_read hn).1 bs hr, (lead_read hn).1 bs hr] at h
      exact List.append_cancel_left h

theorem lead_readEach (h : lead s = contents s) (sizes : List Nat) :
    lead (Source.readEach s sizes).2 = contents (Source.readEach s sizes).2 := by
  induction sizes generalizing s with
  | nil => exact h
  | cons n ns ih => exact ih (lead_rest h n)

/-- **A script whose fault comes last** yields its contents and the fault. -/
theorem yields {failure : Option IoError} (hl : lead s = contents s)
    (hf : faults s = failure.toList) : Yields s (contents s) failure := by
  have hall {sizes : List Nat} (hc : contents (Source.readEach s sizes).2 = []) :
      collected (Source.readEach s sizes).1 = contents s := by
    rw [contents_readEach s sizes, hc, List.append_nil]
  refine ⟨fun sizes => ⟨⟨_, (contents_readEach s sizes).symm⟩, ?_⟩, fun sizes n e he => hall ?_,
    fun sizes n hn he => ⟨hall ((contents_read hn).2.2.1 he), ?_⟩, measure s,
    fun sizes => spent_readEach⟩
  · rw [← hf]
    exact ⟨_, (faults_readEach s sizes).symm⟩
  · rcases Nat.eq_zero_or_pos n with rfl | hn
    · rw [read_zero] at he
      cases he
    · rw [← lead_readEach hl, (lead_read hn).2.1 e he]
  · rw [← hf, faults_readEach s sizes, (faults_read hn).2.2 he, List.append_nil]

/-! ## Reading to the end -/

/-- What reading to the end comes to: all bytes, or the first fault that is more than an
interruption. -/
def whole (s : Script) : Except IoError Bytes :=
  match s.fatal? with
  | none => .ok s.contents
  | some e => .error e

theorem whole_of_end (hn : 0 < n) (h : (Source.read s n).result = .ok []) : whole s = .ok [] := by
  rw [whole, fatal?, (faults_read hn).2.2 h, (contents_read hn).2.2.1 h]
  rfl

theorem whole_of_bytes (hn : 0 < n) {bs : Bytes} (h : (Source.read s n).result = .ok bs) :
    whole s = (whole (Source.read s n).rest).map (bs ++ ·) := by
  rw [whole, whole, fatal?, fatal?, (faults_read hn).1 bs h, (contents_read hn).1 bs h]
  cases (faults (Source.read s n).rest).find? fun e => !e.isInterrupted <;> rfl

theorem whole_of_error (hn : 0 < n) {e : IoError} (h : (Source.read s n).result = .error e) :
    whole s = if e.isInterrupted then whole (Source.read s n).rest else .error e := by
  rw [whole, whole, fatal?, fatal?, (faults_read hn).2.1 e h, (contents_read hn).2.1 e h,
    List.find?_cons]
  cases e.isInterrupted <;> rfl

/-- **With any buffers** reading to the end comes to the same. -/
theorem whole_of_toEnd {sizes : List Nat} (hn : ∀ n ∈ sizes, 0 < n) {x : Except IoError Bytes}
    (h : toEnd (Source.readEach s sizes).1 = some x) : x = whole s := by
  induction sizes generalizing s x with
  | nil => cases h
  | cons n ns ih =>
    obtain ⟨hn, hns⟩ := List.forall_mem_cons.1 hn
    rw [Source.readEach] at h
    rcases hr : (Source.read s n).result with e | bs
    · rw [hr, toEnd] at h
      rw [whole_of_error hn hr]
      split_ifs at h ⊢
      · exact ih hns h
      · exact (Option.some.inj h).symm
    · rw [hr] at h
      cases bs with
      | nil =>
        rw [whole_of_end hn hr]
        exact (Option.some.inj h).symm
      | cons b bs =>
        obtain ⟨y, hy, rfl⟩ := Option.map_eq_some_iff.1 h
        rw [whole_of_bytes hn hr, ih hns hy]

/-- Enough buffers reach the end, or a failure before it. -/
theorem isSome_toEnd {sizes : List Nat} (hn : ∀ n ∈ sizes, 0 < n)
    (h : measure s < sizes.length) : (toEnd (Source.readEach s sizes).1).isSome := by
  induction sizes generalizing s with
  | nil => cases h
  | cons n ns ih =>
    obtain ⟨hn, hns⟩ := List.forall_mem_cons.1 hn
    have hlater (hr : (Source.read s n).result ≠ .ok []) :
        (toEnd (Source.readEach (Source.read s n).rest ns).1).isSome := by
      have hlt : measure (Source.read s n).rest < measure s := Source.remaining_lt hn hr
      rw [List.length_cons] at h
      exact ih hns (by omega)
    rw [Source.readEach]
    rcases hr : (Source.read s n).result with e | bs
    · rw [toEnd]
      split
      · exact hlater (by simp [hr])
      · rfl
    · cases bs with
      | nil => rfl
      | cons b bs =>
        rw [toEnd, Option.isSome_map]
        exact hlater (by simp [hr])

end Script

end Refetch
