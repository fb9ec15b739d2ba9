import Refetch.Progress.Bar
/-!
# Console displays

An observer of a download that shows a bar: made when the transfer starts, moved with every total,
and ended with it.
-/

namespace Refetch.Progress

structure Console where
  style : Style
  message : String
  /-- The bar under way, and whether it goes at the end. -/
  bar : Option (Bar × Bool)
  deriving Repr, DecidableEq

namespace Console

def new (style : Style) (message : String) : Console := ⟨style, message, none⟩

def start (c : Console) (length : Option Nat) : Except Crash Console :=
  let look := c.style.forLength length
  match look.toBar length with
  | .error crash => .error crash
  | .ok bar => .ok { c with bar := some (bar.setMessage c.message, look.clear) }

def progress (c : Console) (total : Nat) : Console :=
  { c with bar := c.bar.map fun (bar, clear) => (bar.setPosition total, clear) }

/-- What the bar shows when it is let go, and the display without it. -/
def finished (c : Console) (success : Bool) : Option Bar × Console :=
  (c.bar.map fun (bar, clear) =>
    if clear then bar.clear else if success then bar.finish else bar.abandon,
   { c with bar := none })

def inspect (c : Console) : String :=
  Text.Inspect.record "ConsoleListener"
    [("style_options", c.style.inspect), ("message", Text.quoted c.message)]

end Console

end Refetch.Progress
