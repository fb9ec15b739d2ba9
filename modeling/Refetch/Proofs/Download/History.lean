import Refetch.Proofs.Download.PostState
/-!
# Histories

A history is a list of rounds into one destination, each with a configuration and an engine of its
own.

1. What is kept after a history is the body of the last round that committed, as its script has it
   (`kept_after`). So nothing that a failed round staged comes back later.
2. The size of a download is that of the data it leaves, and the last total that was reported
   (`size_of_downloaded`).
-/

namespace Refetch.Download

/-- One run of a history. -/
structure Round (ε : Type) where
  config : Config
  engine : ε

variable {σ ε τ : Type} [Dest σ] [Engine ε Script]

namespace Round

def run (x : Round ε) (d : σ) : Run σ ε := ((Action.new x.config (some d)).execute x.engine).1

/-- The destination after the round. -/
def left (x : Round ε) (d : σ) : σ := (x.run d).dest.getD d

/-- The bytes of the body that the round is answered with. -/
def body (x : Round ε) (d : σ) : Bytes :=
  ((x.config.source? d x.engine).map Script.contents).getD []

/-- The entity tag that the round is answered with, if tags count. -/
def tag (x : Round ε) (d : σ) : Option String := do
  x.config.remoteTag (← x.config.answer? d x.engine).response.headers

end Round

/-- What a round committed. -/
structure Commit where
  body : Bytes
  /-- The entity tag of the response with this body. -/
  tag : Option String
  /-- The validators were kept, too. -/
  complete : Bool
  deriving DecidableEq

def Round.commit? (x : Round ε) (d : σ) : Option Commit :=
  if (x.run d).commits then some ⟨x.body d, x.tag d, (x.run d).outcome.isOk⟩ else none

/-- The destination after a history. -/
def after : List (Round ε) → σ → σ
  | [], d => d
  | x :: xs, d => after xs (x.left d)

/-- The last commit of a history. -/
def lastCommit : List (Round ε) → σ → Option Commit
  | [], _ => none
  | x :: xs, d => (lastCommit xs (x.left d)).or (x.commit? d)

variable [Keeper σ τ] {d : σ}

open Keeper (kept Idle)

namespace Round

theorem postState (x : Round ε) (h : Idle d) :
    PostState x.config d x.engine (x.run d) (x.left d) := by
  obtain ⟨d', hd⟩ := postState_run x.config h x.engine
  have hl : x.left d = d' := by
    rw [left, show (x.run d).dest = some d' from hd.dest]
    rfl
  rw [hl]
  exact hd

/-- One round keeps its body if it commits, and what was there otherwise. -/
theorem kept_left (x : Round ε) (h : Idle d) : Idle (x.left d) ∧
    (kept (x.left d)).data = ((x.commit? d).map Commit.body).or (kept d).data := by
  have hp := x.postState h
  refine ⟨hp.idle, ?_⟩
  unfold commit?
  cases hc : (x.run d).commits with
  | false =>
    rw [hp.uncommitted hc]
    rfl
  | true =>
    obtain ⟨s, hs, hf, hk⟩ := hp.committed hc
    rw [hk, Script.data_readToEnd hf]
    simp [body, hs]

end Round

/-- **The data after a history** is the body of its last commit. -/
theorem kept_after (xs : List (Round ε)) (h : Idle d) : Idle (after xs d) ∧
    (kept (after xs d)).data = ((lastCommit xs d).map Commit.body).or (kept d).data := by
  induction xs generalizing d with
  | nil => exact ⟨h, rfl⟩
  | cons x xs ih =>
    obtain ⟨hi, hk⟩ := x.kept_left h
    obtain ⟨hi', hk'⟩ := ih hi
    refine ⟨hi', ?_⟩
    rw [after, lastCommit, hk', hk, Option.map_or, Option.or_assoc]

/-! ## Sizes -/

/-- The last total that is reported in a download is its size. -/
theorem getLast?_reported_of_downloaded {c : Config} {e : ε} {s : Summary}
    (hs : (run c (some d) e).outcome = .ok s) (hd : s.status = .downloaded) :
    (reported (run c (some d) e).events).getLast? = if s.size = 0 then none else some s.size := by
  obtain ⟨a, body, n, ht, hn, hst, -, rfl⟩ := stored_of_downloaded hs hd
  rw [(run_of_stored ht hn hst).2.2.1]
  exact getLast?_reported_copyBody Progress.Stream.silent_script hn

/-- The size of a download is that of the data it leaves, and the last total. -/
theorem Round.size_of_downloaded (x : Round ε) (h : Idle d) {s : Summary}
    (hs : (x.run d).outcome = .ok s) (hd : s.status = .downloaded) :
    s.size = ((kept (x.left d)).data.getD []).length ∧
      (s.size ≠ 0 → (reported (x.run d).events).getLast? = some s.size) := by
  obtain ⟨-, -, hl, -⟩ := (x.postState h).downloaded s hs hd
  refine ⟨hl, fun hz => ?_⟩
  have hr := getLast?_reported_of_downloaded (d := d) hs hd
  rw [if_neg hz] at hr
  exact hr

/-- What a history leaves, and what its downloads tell. -/
structure Faithful (xs : List (Round ε)) (d : σ) : Prop where
  data : (kept (after xs d)).data = ((lastCommit xs d).map Commit.body).or (kept d).data
  /-- Every download that comes after the history. -/
  size : ∀ (x : Round ε) (s : Summary), (x.run (after xs d)).outcome = .ok s →
    s.status = .downloaded →
    s.size = ((kept (after (xs ++ [x]) d)).data.getD []).length ∧
      (s.size ≠ 0 → (reported (x.run (after xs d)).events).getLast? = some s.size)

omit [Keeper σ τ] in
theorem after_append (xs ys : List (Round ε)) (d : σ) :
    after (xs ++ ys) d = after ys (after xs d) := by
  induction xs generalizing d with
  | nil => rfl
  | cons x xs ih => exact ih (x.left d)

theorem faithful (xs : List (Round ε)) (h : Idle d) : Faithful xs d := by
  obtain ⟨hi, hk⟩ := kept_after xs h
  refine ⟨hk, fun x s hs hd => ?_⟩
  rw [after_append]
  exact x.size_of_downloaded hi hs hd

/-- A round that is answered with the headers and maybe a body. -/
def Round.answered (status : Nat) (headers : List (String × String))
    (content : Scripted.Content) : Round ScriptedEngine :=
  ⟨.validating, ⟨[.answer status "" (.ofList headers) content none]⟩⟩

end Refetch.Download
