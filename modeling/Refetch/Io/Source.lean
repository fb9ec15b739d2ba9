import Refetch.Bytes
import Refetch.Io.Error
/-!
# Sources

A source is read piece by piece. A read of at most `n` bytes gives some bytes or fails; no bytes
mean the end. A read may also report totals, which observers of the transfer see.

Every source is finite: a measure falls with each read that asks for something and does not find the
end, so that loops which read to the end stop. The source used most is the script, a list of pieces
and faults.
-/

namespace Refetch

/-- One read: what it gave, the source after it, and the totals it reported. -/
structure Pull (ρ : Type) where
  result : Except IoError Bytes
  rest : ρ
  totals : List Nat

class Source (ρ : Type) where
  read : ρ → Nat → Pull ρ
  /-- Bounds the number of reads that are left. -/
  remaining : ρ → Nat
  length_le : ∀ {r n bs}, (read r n).result = .ok bs → bs.length ≤ n
  remaining_lt : ∀ {r n}, 0 < n → (read r n).result ≠ .ok [] →
    remaining (read r n).rest < remaining r

/-- One entry of a script: bytes that can be read, or a fault that is met once. -/
inductive Piece
  | bytes (bs : Bytes)
  | fault (e : IoError)
  deriving Repr, DecidableEq

abbrev Script := List Piece

namespace Script

/-- A script without faults. -/
def ofChunks (chunks : List Bytes) : Script := chunks.map .bytes

/-- Reads from the first piece that is not empty, and never beyond it. -/
def read : Script → Nat → Pull Script
  | s, 0 => ⟨.ok [], s, []⟩
  | [], _ => ⟨.ok [], [], []⟩
  | .bytes [] :: rest, n => read rest n
  | .bytes bs :: rest, n =>
    if (bs.drop n).isEmpty then ⟨.ok bs, rest, []⟩
    else ⟨.ok (bs.take n), .bytes (bs.drop n) :: rest, []⟩
  | .fault e :: rest, _ => ⟨.error e, rest, []⟩

/-- One for every entry and one for every byte. -/
def measure : Script → Nat
  | [] => 0
  | .bytes bs :: rest => bs.length + 1 + measure rest
  | .fault _ :: rest => 1 + measure rest

theorem read_length_le {s : Script} {n : Nat} {bs : Bytes} (h : (read s n).result = .ok bs) :
    bs.length ≤ n := by
  fun_induction read s n <;> grind [List.isEmpty_iff, List.drop_eq_nil_iff]

theorem measure_read_lt {s : Script} {n : Nat} (hn : 0 < n) (h : (read s n).result ≠ .ok []) :
    measure (read s n).rest < measure s := by
  fun_induction read s n <;> grind [measure, List.isEmpty_iff, List.drop_eq_nil_iff]

instance : Source Script where
  read := read
  remaining := measure
  length_le := read_length_le
  remaining_lt := measure_read_lt

/-- All bytes of a script, faults left out. -/
def contents : Script → Bytes
  | [] => []
  | .bytes bs :: rest => bs ++ contents rest
  | .fault _ :: rest => contents rest

end Script

/-- What a source gave until its end or its first failure. -/
structure Drained (ρ : Type) where
  data : Bytes
  failure : Option IoError
  rest : ρ
  totals : List Nat

namespace Source

variable {ρ : Type} [Source ρ]

/-- Reads `n > 0` bytes at a time until the end or the first failure that `stop` does not pass
over. -/
def drainWith (passes : IoError → Bool) (n : Nat) (hn : 0 < n) (r : ρ) : Drained ρ :=
  match h : Source.read r n with
  | ⟨.ok [], rest, totals⟩ => ⟨[], none, rest, totals⟩
  | ⟨.ok (b :: bs), rest, totals⟩ =>
    have : Source.remaining rest < Source.remaining r := by
      have := Source.remaining_lt (r := r) hn (by rw [h]; simp); rwa [h] at this
    let d := drainWith passes n hn rest
    ⟨b :: bs ++ d.data, d.failure, d.rest, totals ++ d.totals⟩
  | ⟨.error e, rest, totals⟩ =>
    if passes e then
      have : Source.remaining rest < Source.remaining r := by
        have := Source.remaining_lt (r := r) hn (by rw [h]; simp); rwa [h] at this
      let d := drainWith passes n hn rest
      ⟨d.data, d.failure, d.rest, totals ++ d.totals⟩
    else ⟨[], some e, rest, totals⟩
termination_by Source.remaining r

/-- Every failure ends it. A read of nothing gives nothing, which is taken for the end. -/
def drain (n : Nat) (r : ρ) : Drained ρ :=
  if hn : 0 < n then drainWith (fun _ => false) n hn r else ⟨[], none, r, []⟩

/-- Interrupted reads are repeated. -/
def readToEnd (r : ρ) : Drained ρ := drainWith IoError.isInterrupted 8192 (by decide) r

end Source

end Refetch
