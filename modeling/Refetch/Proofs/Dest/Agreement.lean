import Refetch.Proofs.Dest.Disk
/-!
# Destinations in memory and in files

The same steps, transfers and completions in any order, are taken with a destination in memory and
with one in a file. A `Ledger` says what they leave if they all succeed.

1. A transfer that succeeds stages all of its chunks, in any destination (`Keeper.transfer_ok`).
2. The file holds what the ledger says was committed (`Ledger.Filed`); the destination in memory does
   too, unless the last completion with success had nothing staged. Then the one in a file does
   nothing, and the one in memory takes its empty staging for the data (`Ledger.Remembered`).
3. Handles of one destination in memory are as good as one another (`Pool.step_clones`).
-/

namespace Refetch

/-! ## Transfers -/

namespace Dest

variable {σ : Type} [Dest σ] {d : σ} {chunks : List Bytes} {flush : Bool}

theorem fillSink_cons_of_written {bs : Bytes} (h : (writeAll d bs).failure = none) :
    fillSink flush d (bs :: chunks) = fillSink flush (writeAll d bs).sink chunks := by
  rw [fillSink, h]

theorem fillSink_cons_of_unwritten {bs : Bytes} {e : IoError}
    (h : (writeAll d bs).failure = some e) :
    fillSink flush d (bs :: chunks) = (.error e, (writeAll d bs).sink) := by
  rw [fillSink, h]

theorem transfer_of_opened (h : (Dest.openSink d).1 = .ok ()) :
    Dest.transfer d chunks flush = ((fillSink flush (Dest.openSink d).2 chunks).1,
      (Dest.closeSink (fillSink flush (Dest.openSink d).2 chunks).2).2) := by
  unfold Dest.transfer
  split <;> simp_all

/-- Every call of a transfer succeeds, also the writing when the sink is let go. -/
structure Transfers (d : σ) (chunks : List Bytes) (flush : Bool) : Prop where
  opened : (Dest.openSink d).1 = .ok ()
  filled : (fillSink flush (Dest.openSink d).2 chunks).1 = .ok ()
  closed : (Dest.closeSink (fillSink flush (Dest.openSink d).2 chunks).2).1 = .ok ()

end Dest

namespace Keeper

variable {σ τ : Type} [Dest σ] [Keeper σ τ] {d x : σ} {bs : Bytes} {chunks : List Bytes}
  {flush : Bool}

theorem fillSink_ok (h : Staged d bs x) (ho : (Dest.fillSink flush x chunks).1 = .ok ()) :
    Staged d (bs ++ chunks.flatten) (Dest.fillSink flush x chunks).2 := by
  induction chunks generalizing bs x with
  | nil =>
    rw [Dest.fillSink, List.flatten_nil, List.append_nil]
    split
    · exact Keeper.flush h
    · exact h
  | cons chunk chunks ih =>
    cases hw : (writeAll x chunk).failure with
    | some e =>
      rw [Dest.fillSink_cons_of_unwritten hw] at ho
      cases ho
    | none =>
      have hx := Keeper.write.writeAll h chunk
      rw [failure_writeAll_eq_none_iff.1 hw, List.take_length] at hx
      rw [Dest.fillSink_cons_of_written hw] at ho ⊢
      simpa using ih hx ho

/-- **A transfer that succeeds** leaves its chunks to be committed, and changes nothing that is
kept. -/
theorem transfer_ok (h : Idle d) (ht : Dest.Transfers d chunks flush) :
    Sealed d chunks.flatten (Dest.transfer d chunks flush).2 := by
  rw [Dest.transfer_of_opened ht.opened]
  exact Keeper.close_ok (fillSink_ok (Keeper.open_ok h ht.opened) ht.filled) ht.closed

end Keeper

/-! ## Steps -/

namespace Dest

/-- A step that a user of a destination takes. -/
inductive Step
  | transfer (chunks : List Bytes) (flush : Bool)
  | complete (success : Bool)
  deriving Repr, DecidableEq

variable {σ : Type} [Dest σ]

def Step.run (d : σ) : Step → Except IoError Unit × σ
  | .transfer chunks flush => Dest.transfer d chunks flush
  | .complete success => Dest.complete d success

/-- The destination after some steps. -/
def after (d : σ) : List Step → σ
  | [] => d
  | s :: steps => after (s.run d).2 steps

def Step.Succeeds (d : σ) : Step → Prop
  | .transfer chunks flush => Dest.Transfers d chunks flush
  | .complete success => (Dest.complete d success).1 = .ok ()

/-- Every step succeeds. -/
def Succeed (d : σ) : List Step → Prop
  | [] => True
  | s :: steps => s.Succeeds d ∧ Succeed (s.run d).2 steps

end Dest

/-- What steps leave in a destination. -/
structure Ledger where
  committed : Option Bytes := none
  /-- What was transferred since the last completion. -/
  staged : Option Bytes := none
  /-- Nothing was staged at the last completion with success. -/
  void : Bool := false

namespace Ledger

def step (l : Ledger) : Dest.Step → Ledger
  | .transfer chunks _ => { l with staged := some chunks.flatten }
  | .complete true => ⟨l.staged.or l.committed, none, l.staged.isNone⟩
  | .complete false => { l with staged := none }

/-- The ledger after some steps. -/
def after (l : Ledger) (steps : List Dest.Step) : Ledger := steps.foldl step l

/-- A destination in a file is as the ledger says. -/
structure Filed (l : Ledger) (d : OnDisk) : Prop where
  sound : d.Sound
  data : d.kept.data = l.committed
  idle : l.staged = none → d.dest.pending = none
  staged : ∀ bs, l.staged = some bs → ∃ x : OnDisk, x.Sealed bs d

/-- A destination in memory is as the ledger says, but empty if the last completion with success had
nothing staged. -/
structure Remembered (l : Ledger) (m : MemoryDest) : Prop where
  data : m.data = if l.void then [] else l.committed.getD []
  staging : m.staging = l.staged.getD []

variable {l : Ledger} {d : OnDisk} {m : MemoryDest} {s : Dest.Step} {steps : List Dest.Step}

theorem Filed.step (h : l.Filed d) (ho : s.Succeeds d) : (l.step s).Filed (s.run d).2 := by
  cases s with
  | transfer chunks flush =>
    obtain ⟨loc, hs⟩ : d.Sealed chunks.flatten (Dest.transfer d chunks flush).2 :=
      Keeper.transfer_ok h.sound ho
    refine ⟨hs.sound, (congrArg _ hs.kept).trans h.data, by simp [Ledger.step], fun bs hb => ?_⟩
    obtain rfl : chunks.flatten = bs := by simpa [Ledger.step] using hb
    exact ⟨d, loc, hs⟩
  | complete success =>
    have hp : (Dest.complete d success).2.dest.pending = none := by
      cases hp : d.dest.pending with
      | none => rw [OnDisk.complete_of_not_pending hp]; exact hp
      | some loc => exact (OnDisk.pending_complete hp success).1
    refine ⟨.of_not_pending hp, ?_, fun _ => hp, by cases success <;> simp [Ledger.step]⟩
    cases success with
    | false => exact (congrArg _ h.sound.drop.2).trans h.data
    | true =>
      cases hs : l.staged with
      | none =>
        simp only [Dest.Step.run, OnDisk.complete_of_not_pending (h.idle hs), Ledger.step, hs]
        exact h.data
      | some bs =>
        obtain ⟨x, loc, hx⟩ := h.staged bs hs
        rw [Ledger.step, hs, Option.some_or]
        exact congrArg Kept.data (hx.commit_ok ho).2

theorem Filed.after (h : l.Filed d) (ho : Dest.Succeed d steps) :
    (l.after steps).Filed (Dest.after d steps) := by
  induction steps generalizing l d with
  | nil => exact h
  | cons s steps ih => exact ih (h.step ho.1) ho.2

end Ledger

/-! ## Destinations in memory -/

namespace MemoryDest

/-- A destination in memory refuses nothing. -/
theorem transfers (m : MemoryDest) (chunks : List Bytes) (flush : Bool) :
    Dest.Transfers m chunks flush := by
  refine ⟨rfl, ?_, rfl⟩
  generalize (Dest.openSink m).2 = x
  induction chunks generalizing x with
  | nil => cases flush <;> rfl
  | cons chunk chunks ih =>
    rw [Dest.fillSink_cons_of_written (failure_writeAll_of_accepting accepting x chunk)]
    exact ih _

end MemoryDest

theorem Ledger.Remembered.step {l : Ledger} {m : MemoryDest} (h : l.Remembered m) (s : Dest.Step) :
    (l.step s).Remembered (s.run m).2 := by
  cases s with
  | transfer chunks flush =>
    have hs : m.Staged chunks.flatten (Dest.transfer m chunks flush).2 :=
      Keeper.transfer_ok trivial (m.transfers chunks flush)
    exact ⟨hs.data.trans h.data, hs.staging⟩
  | complete success =>
    cases success with
    | false => exact ⟨h.data, rfl⟩
    | true =>
      refine ⟨?_, rfl⟩
      show m.staging = _
      rw [h.staging]
      cases hs : l.staged <;> simp [Ledger.step, hs]

namespace MemoryDest.Pool

/-- A destination with more handles than one. -/
def clones (d : MemoryDest) : Nat → Pool
  | 0 => ofDest d
  | n + 1 => (clones d n).share 0

theorem clones_eq (d : MemoryDest) (n : Nat) : clones d n = ⟨[d], List.replicate (n + 1) 0⟩ := by
  induction n with
  | zero => rfl
  | succ n ih =>
    have h0 : (List.replicate (n + 1) 0)[0]? = some 0 := by simp
    rw [clones, ih, share]
    simp only [h0, ← List.replicate_succ']

theorem get?_clones (d : MemoryDest) {n : Nat} (i : Fin (n + 1)) :
    (clones d n).get? i = some d := by
  simp [clones_eq, get?, i.isLt]

theorem states_clones (d : MemoryDest) (n : Nat) :
    (clones d n).states = List.replicate (n + 1) d := by
  have hl : (clones d n).handles.length = n + 1 := by simp [clones_eq]
  have hg : ∀ i ∈ List.range (n + 1), (clones d n).get? i = some d := fun i hi =>
    get?_clones d ⟨i, List.mem_range.1 hi⟩
  rw [states, hl, List.filterMap_congr hg, ← Function.comp_def some, List.filterMap_eq_map,
    List.map_const', List.length_range]

/-- Takes a step with the destination that a handle stands for. -/
def step (p : Pool) (handle : Nat) (s : Dest.Step) : Pool :=
  match p.get? handle with
  | some d => p.put handle (s.run d).2
  | none => p

/-- **Any handle will do**: what is done through one is seen through all. -/
theorem step_clones (d : MemoryDest) {n : Nat} (i : Fin (n + 1)) (s : Dest.Step) :
    (clones d n).step i s = clones (s.run d).2 n := by
  rw [step, get?_clones]
  simp [clones_eq, put, i.isLt]

/-- The pool after steps that are each taken through some handle. -/
def after (p : Pool) {n : Nat} (steps : List (Fin (n + 1) × Dest.Step)) : Pool :=
  steps.foldl (fun p s => p.step s.1 s.2) p

theorem after_clones {l : Ledger} {d : MemoryDest} {n : Nat} (h : l.Remembered d)
    (steps : List (Fin (n + 1) × Dest.Step)) :
    ∃ d', (clones d n).after steps = clones d' n ∧ (l.after (steps.map (·.2))).Remembered d' := by
  induction steps generalizing l d with
  | nil => exact ⟨d, rfl, h⟩
  | cons s steps ih =>
    obtain ⟨d', hd, hr⟩ := ih (h.step s.2)
    refine ⟨d', ?_, hr⟩
    rw [← hd, ← step_clones d s.1 s.2]
    rfl

end MemoryDest.Pool

/-! ## Both -/

open MemoryDest (Pool)

/-- Every handle shows what the file holds; a missing file counts as empty. -/
def Agreed (p : Pool) (d : OnDisk) : Prop := ∀ m ∈ p.states, m.data = d.kept.data.getD []

section Both

variable (path : String) (fs : Storage.FileSystem) (tag : Option String) (time : Option Timestamp)
  (n : Nat) (steps : List (Fin (n + 1) × Dest.Step))

end Both

/-! ## A completion with nothing staged -/

/-- A destination on a file system of its own while a transfer is under way. -/
def underway (bs buffer : Bytes) : OnDisk where
  dest := ⟨"f", some ["work", ".tmp000000"], buffer⟩
  disk := { Storage.FileSystem.fresh ⟨0⟩ with
    nodes := [(["work", ".tmp000000"], .file bs ⟨0⟩), (["work"], .directory)]
    issued := 1 }

theorem openSink_fresh : Dest.openSink (OnDisk.fresh "f") = (.ok (), underway [] []) := by
  decide +kernel

theorem fillSink_fresh : Dest.fillSink true (underway [] []) [[97]] = (.ok (), underway [97] []) := by
  have hw : (writeAll (underway [] []) [97]).failure = none ∧
      (writeAll (underway [] []) [97]).sink = underway [] [97] := by
    rw [writeAll_of_ok_succ (n := 0) (by decide) (by decide +kernel)]
    show (writeAll (underway [] [97]) []).failure = _ ∧ (writeAll (underway [] [97]) []).sink = _
    rw [writeAll_nil]
    exact ⟨rfl, rfl⟩
  rw [Dest.fillSink_cons_of_written hw.1, hw.2, Dest.fillSink, if_pos rfl]
  decide +kernel

theorem transfer_fresh : Dest.Transfers (OnDisk.fresh "f") [[97]] true ∧
    Dest.transfer (OnDisk.fresh "f") [[97]] true = (.ok (), underway [97] []) := by
  have ho : (Dest.openSink (OnDisk.fresh "f")).1 = .ok () := by rw [openSink_fresh]
  refine ⟨⟨ho, ?_, ?_⟩, ?_⟩
  · rw [openSink_fresh, fillSink_fresh]
  · rw [openSink_fresh, fillSink_fresh, OnDisk.closeSink_of_empty rfl]
  · rw [Dest.transfer_of_opened ho, openSink_fresh, fillSink_fresh, OnDisk.closeSink_of_empty rfl]

/-- One byte is transferred and committed, and then nothing is. -/
def voidCommit : List (Fin 1 × Dest.Step) :=
  [(0, .transfer [[97]] true), (0, .complete true), (0, .complete true)]

theorem succeed_voidCommit : Dest.Succeed (OnDisk.fresh "f") (voidCommit.map (·.2)) := by
  simp only [voidCommit, List.map, Dest.Succeed, Dest.Step.Succeeds, Dest.Step.run, transfer_fresh,
    true_and]
  decide +kernel

end Refetch
