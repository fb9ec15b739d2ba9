import Refetch.Proofs.Download.Transferring
import Refetch.Proofs.Progress.Showing
/-!
# Displays of transfers

A transfer without a listener starts a display, unless the run is quiet. The display is started
before the sink is opened, so that a crash of it leaves the destination as it is.

1. A transfer crashes with its display, and in no other way (`transfer_eq_crash_iff`).
2. A display crashes if its look is enabled and refused (`displayCrash?_eq_some_iff`), which is to say
   that it does not fit.
3. Put together, the look alone decides whether a display can be shown (`look_decides`).
-/

namespace Refetch.Download

open Progress (Look Console Bar)
open Progress.Template (Overwide Malformed)
open Text (charColumns IsPlain)

variable {ρ σ : Type} [Source ρ] [Dest σ]
variable {c : Config} {l : Look} {url : Url} {body : ReaderBody ρ} {d : σ} {crash : Crash}

/-- A transfer shows a display of its own. -/
def Config.ShowsDisplay (c : Config) : Prop := c.listener = false ∧ c.quiet = false

/-- The display of a transfer of this length is shown and refused. -/
def Config.Hindered (c : Config) (length : Option Nat) (crash : Crash) : Prop :=
  c.ShowsDisplay ∧ (c.style.forLength length).enabled = true ∧
    (c.style.forLength length).Refused crash

theorem displayCrash?_eq_some_iff {name : String} {length : Option Nat} :
    displayCrash? c name length = some crash ↔ c.Hindered length crash := by
  unfold Config.Hindered
  have hbar : (c.style.forLength length).toBar length = .error crash ↔ _ :=
    Look.toBar_eq_error_iff
  rw [← hbar]
  by_cases hs : c.ShowsDisplay
  · have hstart : (Console.new c.style name).start length = .error crash ↔
        (c.style.forLength length).toBar length = .error crash := Console.start_eq_error_iff
    rw [displayCrash?, hs.1, hs.2, and_iff_right hs, ← hstart]
    cases (Console.new c.style name).start length <;> simp
  · have hn : c.listener = true ∨ c.quiet = true := by
      rwa [Config.ShowsDisplay, not_and_or, Bool.not_eq_false, Bool.not_eq_false] at hs
    rw [displayCrash?_of_unshown hn]
    simp [hs]

theorem transfer_eq_crash_iff : (transfer c url body d).outcome = .crash crash ↔
    displayCrash? c (Dest.describe d) body.length = some crash := by
  cases hx : displayCrash? c (Dest.describe d) body.length with
  | some x => simp [transfer, hx]
  | none =>
    rw [(transfer_of_shown url hx).2.2.1]
    cases (completeCopy url (copyBody url c.checksum body d).outcome
      (copyBody url c.checksum body d).dest).outcome <;> simp [Outcome.ofExcept]

/-- Before the crash, only the start is told. -/
theorem transfer_of_crash (h : (transfer c url body d).outcome = .crash crash) :
    (transfer c url body d).dest = d ∧
      (transfer c url body d).events = [.started body.length] := by
  rw [transfer, transfer_eq_crash_iff.1 h]
  exact ⟨rfl, rfl⟩

/-! ## What a look decides -/

/-- A look decides whether its displays can be shown, whatever the length. -/
structure DecidesDisplay (ρ σ : Type) [Source ρ] [Dest σ] (l : Look) : Prop where
  /-- A bar is there if its look is not enabled or fits, and in no other case. -/
  bar : ∀ length, (∃ b, l.toBar length = .ok b) ↔ (l.enabled = true → l.Fits)
  refused : ∀ length crash, l.toBar length = .error crash ↔ l.enabled = true ∧ l.Refused crash
  console : ∀ (c : Console) length, c.style.forLength length = l →
    ((∃ c', c.start length = .ok c') ↔ (l.enabled = true → l.Fits))
  /-- A transfer crashes with its display, and in no other way. -/
  crash : ∀ (c : Config) (url : Url) (body : ReaderBody ρ) (d : σ) (crash : Crash),
    c.style.forLength body.length = l → ((transfer c url body d).outcome = .crash crash ↔
      c.ShowsDisplay ∧ l.enabled = true ∧ l.Refused crash)
  /-- Nothing is done to the destination before that. -/
  untouched : ∀ (c : Config) (url : Url) (body : ReaderBody ρ) (d : σ) (crash : Crash),
    c.style.forLength body.length = l → (transfer c url body d).outcome = .crash crash →
      (transfer c url body d).dest = d ∧
        (transfer c url body d).events = [.started body.length]
  /-- Three visible characters of ASCII make up a bar, and so do more of them. -/
  plain : (∀ t, l.template = some t → ¬ Overwide t.toList) →
    (∀ t, l.characters = some t → 3 ≤ t.length ∧ ∀ c ∈ t.toList, IsPlain c) →
      ∀ length, ∃ b, l.toBar length = .ok b
  /-- A malformed template is as good as none. -/
  malformed : ∀ t, l.template = some t → Malformed t.toList →
    (∀ length, l.toBar length = { l with template := none }.toBar length) ∧
      ∀ (c c₀ : Console) length, c.style.forLength length = l →
        c₀.style.forLength length = { l with template := none } → c₀.message = c.message →
          (c.start length).map Console.bar = (c₀.start length).map Console.bar
  /-- What is there can be drawn wherever it stands, unless all characters are flat. -/
  drawn : ∀ length b, l.toBar length = .ok b → ∀ b' : Bar, b'.layout = b.layout →
    ∀ width crash, b'.draw width = .error crash →
      ∃ t, l.characters = some t ∧ ∀ c ∈ t.toList, charColumns c = 0

end Refetch.Download
