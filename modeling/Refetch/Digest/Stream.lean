import Refetch.Digest.Checksum
import Refetch.Io.Copy
/-!
# Digests of streams

1. A hasher is a sink that accepts everything, so the digest of a source is what is left after
   copying the source into a hasher.
2. A hashing source passes bytes on and takes them into a hasher on their way.
-/

namespace Refetch.Digest

instance {h : BlockHash} : Sink (Hasher h) where
  write a bs := (.ok bs.length, a.update bs)
  patience _ := 0
  accepted_le := by intro s bs n e; cases e; exact Nat.le_refl _
  patience_lt := by intro s bs e he; cases he

/-- The digest of everything a source gives, in hexadecimal. -/
def digestSource {ρ : Type} [Source ρ] (kind : HashKind) (r : ρ) : Except IoError String :=
  let c := copy r (Hasher.new : Hasher kind.algorithm)
  c.outcome.map fun _ => Text.Hex.encode c.sink.finish

structure Hashing (h : BlockHash) (ρ : Type) where
  inner : ρ
  hasher : Hasher h

namespace Hashing

variable {h : BlockHash} {ρ : Type} [Source ρ]

def new (r : ρ) : Hashing h ρ := ⟨r, .new⟩

def read (r : Hashing h ρ) (n : Nat) : Pull (Hashing h ρ) :=
  let p := Source.read r.inner n
  match p.result with
  | .ok bs => ⟨.ok bs, ⟨p.rest, r.hasher.update bs⟩, p.totals⟩
  | .error e => ⟨.error e, ⟨p.rest, r.hasher⟩, p.totals⟩

theorem read_result (r : Hashing h ρ) (n : Nat) :
    (r.read n).result = (Source.read r.inner n).result := by
  unfold read; dsimp only; split <;> simp_all

theorem read_inner (r : Hashing h ρ) (n : Nat) :
    (r.read n).rest.inner = (Source.read r.inner n).rest := by
  unfold read; dsimp only; split <;> rfl

instance : Source (Hashing h ρ) where
  read := read
  remaining r := Source.remaining r.inner
  length_le := by
    intro r n bs e
    rw [read_result] at e
    exact Source.length_le e
  remaining_lt := by
    intro r n hn e
    rw [read_result] at e
    rw [read_inner]
    exact Source.remaining_lt hn e

end Hashing

end Refetch.Digest
