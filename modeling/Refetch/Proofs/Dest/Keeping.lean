import Refetch.Dest.Memory
import Refetch.Proofs.Io.Copying
/-!
# Destinations that keep

A destination keeps data, a tag and a time. What it keeps changes only when a transfer is completed
with success, which replaces the data, and when a validator is set.

1. `Keeper` collects what each call does to what is kept, whether it succeeds or fails. Between runs
   a destination is `Idle`; while its sink is open it has `Staged` the bytes accepted so far; those
   that are there when the sink was let go are `Sealed`.
2. Destinations in memory keep.
-/

namespace Refetch

/-- What a destination keeps; tags are kept in the form `τ`. -/
@[ext]
structure Kept (τ : Type) where
  data : Option Bytes
  tag : Option τ
  time : Option Timestamp

/-- A destination whose calls keep what it has, unless they are meant to change it. -/
class Keeper (σ : Type) (τ : outParam Type) [Dest σ] where
  kept : σ → Kept τ
  /-- No transfer is under way. -/
  Idle : σ → Prop
  /-- The transfer that was begun from the first destination has staged the bytes. -/
  Staged : σ → Bytes → σ → Prop
  /-- The bytes are what a completion with success would commit. -/
  Sealed : σ → Bytes → σ → Prop
  /-- The form in which a tag is kept. -/
  tagForm : String → τ
  /-- What may be kept of a tag that could not be set. -/
  Scrap : String → τ → Prop
  /-- The time that goes with data committed from this destination. -/
  commitTime : σ → Option Timestamp
  open_ok : ∀ {d}, Idle d → (Dest.openSink d).1 = .ok () → Staged d [] (Dest.openSink d).2
  open_error : ∀ {d e}, Idle d → (Dest.openSink d).1 = .error e →
    Idle (Dest.openSink d).2 ∧ kept (Dest.openSink d).2 = kept d
  write : ∀ {d}, Keeps (Staged d)
  flush : ∀ {d bs x}, Staged d bs x → Staged d bs (Dest.flush x).2
  /-- After a flush nothing is lost. -/
  flush_ok : ∀ {d bs x}, Staged d bs x → (Dest.flush x).1 = .ok () →
    (Dest.closeSink (Dest.flush x).2).1 = .ok ()
  close_ok : ∀ {d bs x}, Staged d bs x → (Dest.closeSink x).1 = .ok () →
    Sealed d bs (Dest.closeSink x).2
  close_error : ∀ {d bs x e}, Staged d bs x → (Dest.closeSink x).1 = .error e →
    ∃ cs, Sealed d cs (Dest.closeSink x).2
  /-- Another transfer may begin before the one under way is completed. -/
  sealed_idle : ∀ {d bs x}, Sealed d bs x → Idle x ∧ kept x = kept d
  drop_idle : ∀ {d}, Idle d →
    Idle (Dest.complete d false).2 ∧ kept (Dest.complete d false).2 = kept d
  commit_ok : ∀ {d bs x}, Sealed d bs x → (Dest.complete x true).1 = .ok () →
    Idle (Dest.complete x true).2 ∧
      kept (Dest.complete x true).2 = ⟨some bs, (kept d).tag, commitTime d⟩
  commit_error : ∀ {d bs x e}, Sealed d bs x → (Dest.complete x true).1 = .error e →
    Idle (Dest.complete x true).2 ∧ kept (Dest.complete x true).2 = kept d
  setLastModified : ∀ {d} t, Idle d → Idle (Dest.setLastModified d t).2 ∧
    kept (Dest.setLastModified d t).2 =
      if (Dest.setLastModified d t).1.isOk then { kept d with time := some t } else kept d
  /-- A tag that cannot be set leaves the old one, or a scrap. -/
  setEtag : ∀ {d} tag, Idle d → Idle (Dest.setEtag d tag).2 ∧
    ∃ x, kept (Dest.setEtag d tag).2 = { kept d with tag := x } ∧
      ((Dest.setEtag d tag).1 = .ok () → x = some (tagForm tag)) ∧
      ((Dest.setEtag d tag).1 ≠ .ok () → x = (kept d).tag ∨ ∃ s ∈ x, Scrap tag s)
  /-- A destination shows no tag but the one that it keeps. -/
  etag : ∀ {d tag}, Dest.etag d = some tag → (kept d).tag = some (tagForm tag)
  tagForm_injective : Function.Injective tagForm

namespace Keeper

variable {σ τ : Type} [Dest σ] [Keeper σ τ] {d x : σ} {bs : Bytes}

/-- Whatever becomes of what a sink holds back, some bytes are sealed when it is let go. -/
theorem close (h : Staged d bs x) : ∃ cs, Sealed d cs (Dest.closeSink x).2 := by
  cases hc : (Dest.closeSink x).1 with
  | ok u => exact ⟨bs, close_ok h hc⟩
  | error e => exact close_error h hc

theorem drop_sealed (h : Sealed d bs x) :
    Idle (Dest.complete x false).2 ∧ kept (Dest.complete x false).2 = kept d := by
  obtain ⟨hi, hk⟩ := sealed_idle h
  exact hk ▸ drop_idle hi

end Keeper

namespace MemoryDest

/-- A transfer has staged the bytes and left everything that is kept alone. -/
structure Staged (d : MemoryDest) (bs : Bytes) (x : MemoryDest) : Prop where
  staging : x.staging = bs
  data : x.data = d.data
  etag : x.etag = d.etag
  lastModified : x.lastModified = d.lastModified

theorem accepting : Sink.Accepting MemoryDest := fun _ _ => rfl

instance : Keeper MemoryDest String where
  kept d := ⟨some d.data, d.etag, d.lastModified⟩
  Idle _ := True
  Staged := Staged
  Sealed := Staged
  tagForm := id
  Scrap _ _ := False
  commitTime d := d.lastModified
  open_ok _ _ := ⟨rfl, rfl, rfl, rfl⟩
  open_error _ h := by cases h
  write := by
    rintro d bs x chunk ⟨hs, hd, he, hl⟩
    refine ⟨?_, hd, he, hl⟩
    show x.staging ++ chunk = bs ++ chunk.take chunk.length
    rw [hs, List.take_length]
  flush h := h
  flush_ok _ _ := rfl
  close_ok h _ := h
  close_error _ h := by cases h
  drop_idle _ := ⟨trivial, rfl⟩
  sealed_idle := by
    rintro d bs x ⟨-, hd, he, hl⟩
    exact ⟨trivial, Kept.ext (congrArg some hd) he hl⟩
  commit_ok := by
    rintro d bs x ⟨hs, -, he, hl⟩ -
    exact ⟨trivial, Kept.ext (congrArg some hs) he hl⟩
  commit_error _ h := by cases h
  setLastModified _ _ := ⟨trivial, rfl⟩
  setEtag tag _ := ⟨trivial, some tag, rfl, fun _ => rfl, fun h => absurd rfl h⟩
  etag h := h
  tagForm_injective := Function.injective_id

end MemoryDest

end Refetch
