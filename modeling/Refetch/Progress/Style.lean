import Refetch.Text.Inspect
/-!
# The look of a progress display

A download shows one of two shapes: a bar if the length is known, a spinner if it is not. Either has
a template, characters to draw a bar with, and two switches.
-/

namespace Refetch.Progress

/-- The look of one shape. -/
structure Look where
  /-- The default template is used if there is none. -/
  template : Option String
  /-- The characters of a bar: done, the steps between, and remaining. -/
  characters : Option String
  enabled : Bool
  /-- The display goes when the download ends. -/
  clear : Bool
  deriving Repr, DecidableEq

namespace Look

def defaults : Look := ⟨none, none, true, true⟩

def hidden : Look := { defaults with enabled := false }

/-- Byte counts, rate and remaining time beside a bar of forty columns. -/
def barTemplate : String :=
  "\x7bbar:40.green/black\x7d \x7bbytes:>11.green\x7d/\x7btotal_bytes:<11.green\x7d " ++
    "\x7bbytes_per_sec:>13.red\x7d eta \x7beta:.blue\x7d"

/-- Byte count and rate beside a spinner. -/
def spinnerTemplate : String :=
  "\x7bspinner:.green\x7d \x7bbytes:>11.green\x7d \x7bbytes_per_sec:>13.red\x7d \x7bmsg\x7d"

/-- Blocks with eight steps. -/
def blocks : String := "█▉▊▋▌▍▎▏  "

/-- Thin lines. -/
def lines : String := "━╾╴─"

def bar : Look := ⟨some barTemplate, some lines, true, true⟩

def spinner : Look := ⟨some spinnerTemplate, none, true, true⟩

def inspect (l : Look) : String :=
  Text.Inspect.record "ProgressBarOpts"
    [("template", Text.Inspect.option Text.quoted l.template),
     ("progress_chars", Text.Inspect.option Text.quoted l.characters),
     ("enabled", Text.Inspect.bool l.enabled),
     ("clear", Text.Inspect.bool l.clear)]

end Look

/-- The looks of both shapes. -/
structure Style where
  bar : Look
  spinner : Look
  deriving Repr, DecidableEq

namespace Style

def defaults : Style := ⟨.bar, .spinner⟩

/-- Shows nothing. -/
def hidden : Style := ⟨.hidden, .hidden⟩

def isEnabled (s : Style) : Bool := s.bar.enabled || s.spinner.enabled

/-- The shape for a length that may be unknown. -/
def forLength (s : Style) : Option Nat → Look
  | some _ => s.bar
  | none => s.spinner

def inspect (s : Style) : String :=
  Text.Inspect.record "StyleOptions" [("bar", s.bar.inspect), ("spinner", s.spinner.inspect)]

end Style

end Refetch.Progress
