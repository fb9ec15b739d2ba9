import Refetch.Error
import Refetch.Http.Request
import Refetch.Http.Response
/-!
# Engines

An engine carries out requests. It keeps a state of its own from one request to the next, and the
bodies of its responses come from sources of one kind.
-/

namespace Refetch

class Engine (ε : Type) (ρ : outParam Type) where
  exchange : ε → Request → Outcome (Response ρ) × ε

end Refetch
