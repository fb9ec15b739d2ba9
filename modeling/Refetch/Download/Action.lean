import Refetch.Download.Run
/-!
# Actions

A configured download that can be run any number of times. It remembers whether its last run found
the destination current.
-/

namespace Refetch.Download

structure Action (σ : Type) where
  config : Config
  dest : Option σ
  upToDate : Bool

namespace Action

variable {ρ σ ε : Type} [Source ρ] [Dest σ] [Engine ε ρ]

def new (config : Config) (dest : Option σ) : Action σ := ⟨config, dest, false⟩

/-- Runs the download; the action keeps the destination after it. -/
def execute (a : Action σ) (e : ε) : Run σ ε × Action σ :=
  let r := run a.config a.dest e
  (r, { a with dest := r.dest, upToDate := r.foundCurrent })

def setUrl (a : Action σ) (url : String) : Action σ :=
  { a with config := a.config.setUrl url }

def setDest (a : Action σ) (d : σ) : Action σ := { a with dest := some d }

/-- Gives the destination away. -/
def takeDest (a : Action σ) : Option σ × Action σ := (a.dest, { a with dest := none })

def name? (a : Action σ) : Option String := a.dest.map Dest.describe

def inspect (a : Action σ) : String :=
  Text.Inspect.record "DownloadAction"
    [("dest", Text.Inspect.option Text.quoted a.name?),
     ("config", a.config.inspect),
     ("up_to_date", Text.Inspect.bool a.upToDate)]

/-- The action before it was ever run. -/
def inspectBuilder (a : Action σ) : String :=
  Text.Inspect.record "DownloadActionBuilder"
    [("dest", Text.Inspect.option Text.quoted a.name?), ("config", a.config.inspect)]

end Action

end Refetch.Download
