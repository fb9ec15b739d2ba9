import Refetch.Proofs.Io.Copying
/-!
# Reading with buffers of any size

A copy reads pieces of one size. A caller may read with a buffer of another size each time, also with
an empty one, and goes on after a failure.

1. `readEach` is such a run of reads, `collected` are the bytes that it gave.
2. A copy into a sink that accepts everything fails as its source does
   (`outcome_copyFrom_of_accepting`).
3. Whatever the sizes, the bytes collected from a script are the first of its contents, and once it
   is spent they are all of them (`Script.contents_readEach`, `Script.collected_of_spent`). As many
   reads as it has entries and bytes are enough (`Script.spent_readEach`).
-/

namespace Refetch

namespace Source

variable {ρ ρ' : Type} [Source ρ] [Source ρ']

/-! ## Runs of reads -/

/-- What reads with buffers of these sizes give, one after the other, and the source after them. -/
def readEach (r : ρ) : List Nat → List (Except IoError Bytes) × ρ
  | [] => ([], r)
  | n :: ns =>
    ((Source.read r n).result :: (readEach (Source.read r n).rest ns).1,
      (readEach (Source.read r n).rest ns).2)

/-- One more read, after all others. -/
theorem readEach_concat (r : ρ) (sizes : List Nat) (n : Nat) : readEach r (sizes ++ [n]) =
    ((readEach r sizes).1 ++ [(Source.read (readEach r sizes).2 n).result],
      (Source.read (readEach r sizes).2 n).rest) := by
  induction sizes generalizing r with
  | nil => rfl
  | cons m ms ih => rw [List.cons_append, readEach, ih, readEach, List.cons_append]

/-- The bytes that reads gave, one after the other. -/
def collected : List (Except IoError Bytes) → Bytes
  | [] => []
  | .ok bs :: results => bs ++ collected results
  | .error _ :: results => collected results

/-- There is nothing left: a read for something finds the end. -/
def Spent (r : ρ) : Prop := ∀ n, 0 < n → (Source.read r n).result = .ok []

/-- A run of reads gives what it gives beneath. -/
theorem Follows.readEach {inner : ρ → ρ'} (hf : Follows inner) (r : ρ) (sizes : List Nat) :
    (Source.readEach r sizes).1 = (Source.readEach (inner r) sizes).1 ∧
      inner (Source.readEach r sizes).2 = (Source.readEach (inner r) sizes).2 := by
  induction sizes generalizing r with
  | nil => exact ⟨rfl, rfl⟩
  | cons n ns ih =>
    obtain ⟨hr, hn⟩ := hf r n
    obtain ⟨hs, he⟩ := ih (Source.read r n).rest
    rw [hn] at hs he
    exact ⟨by rw [Source.readEach, Source.readEach, hr, hs], he⟩

theorem Follows.spent_iff {inner : ρ → ρ'} (hf : Follows inner) {r : ρ} :
    Spent r ↔ Spent (inner r) := by
  simp only [Spent, (hf r _).1]

end Source

/-! ## Copies that only their source can stop -/

/-- A sink that accepts everything leaves the failure of the copy to the source. -/
theorem outcome_copyFrom_of_accepting {ρ σ : Type} [Source ρ] [Sink σ]
    (hσ : Sink.Accepting σ) (n : Nat) (r : ρ) (s : σ) :
    (copyFrom n r s).outcome =
      match (Source.readToEnd r).failure with
      | none => .ok (n + (Source.readToEnd r).data.length)
      | some e => .error e := by
  induction r using Source.reading_induction generalizing n s with
  | ended r h => simp [copyFrom_of_end h, Source.readToEnd_of_end h]
  | bytes r bs hb h ih =>
    rw [copyFrom_of_written hb h (failure_writeAll_of_accepting hσ s bs),
      Source.readToEnd_of_bytes hb h]
    simp [ih, Nat.add_assoc]
  | interrupted r e h he ih =>
    rw [copyFrom_of_interrupted h he, Source.readToEnd_of_interrupted h he]
    exact ih n s
  | failed r e h he => simp [copyFrom_of_error h he, Source.readToEnd_of_error h he]

/-! ## Scripts -/

namespace Script

variable {s : Script} {n : Nat}

/-- An empty buffer is filled with nothing, and the script stays as it is. -/
theorem read_zero (s : Script) : Source.read s 0 = ⟨.ok [], s, []⟩ := by
  cases s <;> rfl

theorem collected_read (s : Script) (n : Nat) :
    contents s =
      Source.collected [(Source.read s n).result] ++ contents (Source.read s n).rest := by
  rcases Nat.eq_zero_or_pos n with rfl | hn
  · rw [read_zero]
    rfl
  · rcases h : (Source.read s n).result with e | bs
    · exact (contents_read hn).2.1 e h
    · rw [Source.collected, Source.collected, List.append_nil]
      exact (contents_read hn).1 bs h

/-- **What a run of reads gives** is the first part of the contents, and the rest is left. -/
theorem contents_readEach (s : Script) (sizes : List Nat) :
    contents s =
      Source.collected (Source.readEach s sizes).1 ++ contents (Source.readEach s sizes).2 := by
  induction sizes generalizing s with
  | nil => rfl
  | cons n ns ih =>
    have hr := collected_read s n
    rw [ih (Source.read s n).rest] at hr
    rw [hr, Source.readEach]
    cases (Source.read s n).result <;> simp [Source.collected]

/-- The bytes before the first fault. -/
def lead : Script → Bytes
  | [] => []
  | .bytes bs :: rest => bs ++ lead rest
  | .fault _ :: _ => []

theorem lead_read {s : Script} {n : Nat} (hn : 0 < n) :
    (∀ bs, (Source.read s n).result = .ok bs → lead s = bs ++ lead (Source.read s n).rest) ∧
    (∀ e, (Source.read s n).result = .error e → lead s = []) ∧
    ((Source.read s n).result = .ok [] → lead s = []) := by
  simp only [Source.read]
  fun_induction read s n <;> grind [lead, List.append_assoc, List.take_append_drop]

theorem lead_of_faultless {s : Script} (h : faults s = []) : lead s = contents s := by
  induction s with
  | nil => rfl
  | cons p s ih =>
    cases p with
    | bytes bs => exact congrArg (bs ++ ·) (ih h)
    | fault e => cases h

theorem lead_begins (s : Script) : lead s <+: contents s := by
  induction s with
  | nil => exact List.prefix_rfl
  | cons p s ih =>
    cases p with
    | bytes bs => exact (List.prefix_append_right_inj bs).2 ih
    | fault e => exact List.nil_prefix

/-- The first fault that is more than an interruption. -/
def fatal? (s : Script) : Option IoError := s.faults.find? fun e => !e.isInterrupted

theorem fatal?_eq_none_iff : s.fatal? = none ↔ ∀ e ∈ s.faults, e.isInterrupted = true := by
  simp [fatal?, List.find?_eq_none]

/-- A script is spent when it has neither bytes nor faults left. -/
theorem spent_iff : Source.Spent s ↔ contents s = [] ∧ faults s = [] := by
  constructor
  · intro h
    have he := h 1 Nat.one_pos
    exact ⟨(contents_read Nat.one_pos).2.2.1 he, (faults_read Nat.one_pos).2.2 he⟩
  · rintro ⟨hc, hf⟩ n hn
    rcases h : (Source.read s n).result with e | bs
    · rw [(faults_read hn).2.1 e h] at hf
      cases hf
    · rw [(contents_read hn).1 bs h] at hc
      rw [(List.append_eq_nil_iff.1 hc).1]

/-- What was collected from a script that is now spent is all that it had. -/
theorem collected_of_spent {sizes : List Nat} (h : Source.Spent (Source.readEach s sizes).2) :
    Source.collected (Source.readEach s sizes).1 = contents s := by
  rw [contents_readEach s sizes, (spent_iff.1 h).1, List.append_nil]

/-- The end is found again and again. -/
theorem spent_read (hn : 0 < n) (h : (Source.read s n).result = .ok []) :
    Source.Spent (Source.read s n).rest := by
  have hc := (contents_read hn).1 _ h
  have hf := (faults_read hn).1 _ h
  rw [(contents_read hn).2.2.1 h] at hc
  rw [(faults_read hn).2.2 h] at hf
  exact spent_iff.2 ⟨hc.symm, hf.symm⟩

theorem spent_readEach_of_spent (h : Source.Spent s) (sizes : List Nat) :
    Source.Spent (Source.readEach s sizes).2 := by
  induction sizes generalizing s with
  | nil => exact h
  | cons n ns ih =>
    refine ih ?_
    rcases Nat.eq_zero_or_pos n with rfl | hn
    · rwa [read_zero]
    · exact spent_read hn (h n hn)

/-- **The end is reached** after as many reads, each with a buffer that is not empty, as the script
has entries and bytes. -/
theorem spent_readEach {sizes : List Nat} (h : measure s ≤ (sizes.filter (0 < ·)).length) :
    Source.Spent (Source.readEach s sizes).2 := by
  induction sizes generalizing s with
  | nil =>
    cases s with
    | nil => exact spent_iff.2 ⟨rfl, rfl⟩
    | cons p rest => cases p <;> simp [measure] at h
  | cons n ns ih =>
    show Source.Spent (Source.readEach (Source.read s n).rest ns).2
    rcases Nat.eq_zero_or_pos n with rfl | hn
    · rw [read_zero]
      exact ih (by simpa using h)
    · rw [List.filter_cons_of_pos (by simpa using hn), List.length_cons] at h
      by_cases he : (Source.read s n).result = .ok []
      · exact spent_readEach_of_spent (spent_read hn he) ns
      · have hlt : measure (Source.read s n).rest < measure s := Source.remaining_lt hn he
        exact ih (by omega)

end Script

end Refetch
