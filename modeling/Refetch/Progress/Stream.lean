import Refetch.Io.Source
/-!
# Progress streams

A progress stream passes on what its source gives, and reports the total of bytes given so far:
after every read that gave some, and before a failure surfaces. An interrupted read and the end
report nothing.
-/

namespace Refetch.Progress

structure Stream (ρ : Type) where
  inner : ρ
  total : Nat

namespace Stream

variable {ρ : Type} [Source ρ]

def new (r : ρ) : Stream ρ := ⟨r, 0⟩

def read (s : Stream ρ) (n : Nat) : Pull (Stream ρ) :=
  let p := Source.read s.inner n
  match p.result with
  | .ok [] => ⟨.ok [], ⟨p.rest, s.total⟩, p.totals⟩
  | .ok (b :: bs) =>
    let total := s.total + (b :: bs).length
    ⟨.ok (b :: bs), ⟨p.rest, total⟩, p.totals ++ [total]⟩
  | .error e =>
    ⟨.error e, ⟨p.rest, s.total⟩, if e.isInterrupted then p.totals else p.totals ++ [s.total]⟩

theorem read_result (s : Stream ρ) (n : Nat) :
    (s.read n).result = (Source.read s.inner n).result := by
  unfold read; dsimp only; split <;> simp_all

theorem read_inner (s : Stream ρ) (n : Nat) :
    (s.read n).rest.inner = (Source.read s.inner n).rest := by
  unfold read; dsimp only; split <;> rfl

instance : Source (Stream ρ) where
  read := read
  remaining s := Source.remaining s.inner
  length_le := by
    intro s n bs e
    rw [read_result] at e
    exact Source.length_le e
  remaining_lt := by
    intro s n hn e
    rw [read_result] at e
    rw [read_inner]
    exact Source.remaining_lt hn e

end Stream

end Refetch.Progress
