/-!
# Timestamps

Moments in nanoseconds from the start of 1970, before it too.
-/

namespace Refetch

structure Timestamp where
  nanos : Int
  deriving Repr, DecidableEq

namespace Timestamp

def nanosPerSecond : Int := 1000000000

def ofSeconds (s : Int) (nanos : Int := 0) : Timestamp := ⟨s * nanosPerSecond + nanos⟩

/-- Whole seconds, rounded towards the past. -/
def seconds (t : Timestamp) : Int := t.nanos.fdiv nanosPerSecond

/-- The nanoseconds after the whole second. -/
def subsecond (t : Timestamp) : Int := t.nanos.fmod nanosPerSecond

instance : LE Timestamp := ⟨fun a b => a.nanos ≤ b.nanos⟩

instance (a b : Timestamp) : Decidable (a ≤ b) := inferInstanceAs (Decidable (a.nanos ≤ b.nanos))

end Timestamp

end Refetch
