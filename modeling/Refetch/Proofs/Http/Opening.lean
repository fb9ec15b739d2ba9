import Refetch.Proofs.Engine.Uploads
import Refetch.Proofs.Io.Yielding
/-!
# Opening bodies

1. A body of bytes is opened again and again, and the readers are read in any order
   (`Payload.Usage`). Each of them is read as if it were the only one, and yields the data
   (`BytesBody.repeats`).
2. A body over a source gives it to whoever opens it first, and refuses all others
   (`ReaderBody.givenOnce`).
3. A body that is read whole comes to all bytes of its source, or to the failure that stops the
   reading. The declared length has no say, whatever buffers it leads to (`Payload.readsWhole`).
-/

namespace Refetch

open Source (toEnd)

/-! ## Readers side by side -/

namespace Payload

/-- A reader over a body, with the reads that were made of it. -/
structure Reading where
  /-- The sizes of the buffers. -/
  sizes : List Nat
  /-- What they were filled with. -/
  results : List (Except IoError Bytes)
  rest : Script

namespace Reading

def start (s : Script) : Reading := ⟨[], [], s⟩

def read (n : Nat) (r : Reading) : Reading where
  sizes := r.sizes ++ [n]
  results := r.results ++ [(Source.read r.rest n).result]
  rest := (Source.read r.rest n).rest

/-- The reads are those of this script on its own. -/
def Alone (s : Script) (r : Reading) : Prop := (r.results, r.rest) = Source.readEach s r.sizes

theorem alone_start (s : Script) : (start s).Alone s := rfl

theorem Alone.read {s : Script} {r : Reading} (h : r.Alone s) (n : Nat) : (r.read n).Alone s := by
  have hc := Source.readEach_concat s r.sizes n
  rw [← h] at hc
  exact hc.symm

end Reading

/-- A body in use: what each opening gave, with the reads since. -/
structure Usage where
  body : Payload
  openings : List (Except IoError Reading)

/-- The body is opened, or what an opening gave is read. -/
inductive Use
  | openReader
  | read (opening size : Nat)
  deriving DecidableEq

namespace Usage

def use (x : Usage) : Use → Usage
  | .openReader =>
    ⟨x.body.openReader.2, x.openings ++ [x.body.openReader.1.map Reading.start]⟩
  | .read i n => { x with openings := x.openings.modify i (Except.map (Reading.read n)) }

/-- What becomes of a body that is used so. -/
def run (p : Payload) (uses : List Use) : Usage := uses.foldl use ⟨p, []⟩

/-- The body is what it was, and all readers over it are on their own. -/
structure Apart (b : BytesBody) (x : Usage) : Prop where
  body : x.body = .bytes b
  openings : ∀ o ∈ x.openings, ∃ r, o = .ok r ∧ r.Alone b.openReader

variable {b : BytesBody} {x : Usage}

theorem Apart.use (h : x.Apart b) (u : Use) : (x.use u).Apart b := by
  cases u with
  | openReader =>
    have ho : x.body.openReader = (.ok b.openReader, .bytes b) := by rw [h.body]; rfl
    refine ⟨congrArg Prod.snd ho, fun o hm => ?_⟩
    rw [Usage.use, ho] at hm
    rcases List.mem_append.1 hm with hm | hm
    · exact h.openings o hm
    · exact ⟨_, List.mem_singleton.1 hm, Reading.alone_start _⟩
  | read i n =>
    refine ⟨h.body, fun o hm => ?_⟩
    have hm : o ∈ x.openings.modify i (Except.map (Reading.read n)) := hm
    obtain ⟨j, hj, rfl⟩ := List.mem_iff_getElem.1 hm
    obtain ⟨r, hr, ha⟩ := h.openings _ (List.getElem_mem (List.length_modify _ _ _ ▸ hj))
    rw [List.getElem_modify, hr]
    split
    · exact ⟨r.read n, rfl, ha.read n⟩
    · exact ⟨r, rfl, ha⟩

theorem apart_run (b : BytesBody) (uses : List Use) : (run (.bytes b) uses).Apart b := by
  induction uses using List.reverseRecOn with
  | nil => exact ⟨rfl, nofun⟩
  | append_singleton uses u ih =>
    rw [run, List.foldl_append]
    exact ih.use u

theorem length_openings (p : Payload) (uses : List Use) :
    (run p uses).openings.length = uses.count .openReader := by
  induction uses using List.reverseRecOn with
  | nil => rfl
  | append_singleton uses u ih =>
    rw [run, List.foldl_append, List.count_append, ← ih]
    cases u with
    | openReader => exact List.length_append
    | read i n => exact List.length_modify ..

end Usage

end Payload

open Payload (Use Usage)

/-- A body of bytes that is used so. -/
structure BytesBody.Repeats (b : BytesBody) (uses : List Use) : Prop where
  length : (Usage.run (.bytes b) uses).body.contentLength? = some b.data.length
  contentType : (Usage.run (.bytes b) uses).body.contentType? = b.contentType
  /-- Every opening gave a reader, and nothing that was done with others is seen of it. -/
  openings : ∀ o ∈ (Usage.run (.bytes b) uses).openings, ∃ r, o = .ok r ∧ r.Alone b.openReader
  count : (Usage.run (.bytes b) uses).openings.length = uses.count .openReader
  /-- A reader gives the data, whatever the buffers. -/
  yields : Source.Yields b.openReader b.data none

theorem BytesBody.yields (b : BytesBody) : Source.Yields b.openReader b.data none := by
  have h : Source.Yields b.openReader b.openReader.contents none := Script.yields rfl rfl
  rwa [b.contents_openReader] at h

theorem BytesBody.repeats (b : BytesBody) (uses : List Use) : b.Repeats uses := by
  have h := Usage.apart_run b uses
  exact ⟨by rw [h.body]; rfl, by rw [h.body]; rfl, h.openings, Usage.length_openings _ uses,
    b.yields⟩

/-! ## Sources that are given once -/

namespace ReaderBody

variable {ρ : Type} {b : ReaderBody ρ} {r : ρ}

/-- What openings give, one after the other, and the body after them. -/
def openEach (b : ReaderBody ρ) : Nat → List (Except IoError ρ) × ReaderBody ρ
  | 0 => ([], b)
  | n + 1 => (b.openReader.1 :: (b.openReader.2.openEach n).1, (b.openReader.2.openEach n).2)

/-- What so many openings give, and at last the body that is given up for its source. -/
def attempts (b : ReaderBody ρ) (opens : Nat) (givenUp : Bool) : List (Except IoError ρ) :=
  (b.openEach opens).1 ++ if givenUp then [(b.openEach opens).2.intoReader] else []

/-- There is no source left to give. -/
def Refused (x : Except IoError ρ) : Prop := ∃ e, x = .error e ∧ e.kind = .other

theorem refused_alreadyOpened : Refused (.error alreadyOpened : Except IoError ρ) := ⟨_, rfl, rfl⟩

theorem openReader_of_source (h : b.source = some r) :
    b.openReader = (.ok r, { b with source := none }) := by
  unfold openReader
  rw [h]

theorem openReader_of_gone (h : b.source = none) : b.openReader = (.error alreadyOpened, b) := by
  unfold openReader
  rw [h]

theorem openEach_of_gone (h : b.source = none) (n : Nat) :
    b.openEach n = (List.replicate n (.error alreadyOpened), b) := by
  induction n with
  | zero => rfl
  | succ n ih => rw [openEach, openReader_of_gone h, ih, List.replicate_succ]

/-- Openings change nothing of a body but that its source is gone. -/
theorem openEach_snd (b : ReaderBody ρ) (n : Nat) :
    (b.openEach n).2 = { b with source := if n = 0 then b.source else none } := by
  cases n with
  | zero => rfl
  | succ n =>
    rw [openEach]
    cases hs : b.source with
    | none => rw [openReader_of_gone hs, openEach_of_gone hs, ite_self, ← hs]
    | some r => rw [openReader_of_source hs, openEach_of_gone rfl]; rfl

theorem attempts_of_gone (h : b.source = none) (opens : Nat) (givenUp : Bool) :
    ∀ x ∈ b.attempts opens givenUp, Refused x := by
  intro x hx
  rw [attempts, openEach_of_gone h, intoReader, h] at hx
  rcases List.mem_append.1 hx with hx | hx
  · rw [List.eq_of_mem_replicate hx]
    exact refused_alreadyOpened
  · cases givenUp with
    | false => cases hx
    | true =>
      rw [List.mem_singleton.1 hx]
      exact refused_alreadyOpened

/-- The first attempt gets the source, and those after it are those of the body without it. -/
theorem attempts_of_source (h : b.source = some r) {opens : Nat} {givenUp : Bool}
    {x : Except IoError ρ} {xs : List (Except IoError ρ)}
    (ha : b.attempts opens givenUp = x :: xs) : x = .ok r ∧ ∀ y ∈ xs, Refused y := by
  cases opens with
  | zero =>
    cases givenUp with
    | false => cases ha
    | true =>
      rw [attempts, openEach, intoReader, h] at ha
      cases ha
      exact ⟨rfl, nofun⟩
  | succ n =>
    rw [attempts, openEach, openReader_of_source h] at ha
    cases ha
    exact ⟨rfl, attempts_of_gone (b := { b with source := none }) rfl n givenUp⟩

/-- A body over a source that is opened so many times, and perhaps given up at last. -/
structure GivenOnce (b : ReaderBody ρ) (opens : Nat) (givenUp : Bool) : Prop where
  count : (b.attempts opens givenUp).length = opens + givenUp.toNat
  /-- The first attempt gets the source, and no other does. -/
  first : ∀ r, b.source = some r → ∀ x xs, b.attempts opens givenUp = x :: xs →
    x = .ok r ∧ ∀ y ∈ xs, Refused y
  /-- A source that was given away before is given to none. -/
  gone : b.source = none → ∀ x ∈ b.attempts opens givenUp, Refused x
  length : (b.openEach opens).2.length = b.length
  contentType : (b.openEach opens).2.contentType = b.contentType

theorem givenOnce (b : ReaderBody ρ) (opens : Nat) (givenUp : Bool) :
    b.GivenOnce opens givenUp := by
  refine ⟨?count, fun r hr x xs => attempts_of_source hr, fun h => attempts_of_gone h opens givenUp,
    by rw [openEach_snd], by rw [openEach_snd]⟩
  case count =>
    have hlen (n : Nat) (b : ReaderBody ρ) : (b.openEach n).1.length = n := by
      induction n generalizing b with
      | zero => rfl
      | succ n ih => rw [openEach, List.length_cons, ih]
    rw [attempts, List.length_append, hlen]
    cases givenUp <;> rfl

end ReaderBody

/-! ## Bodies that are read whole -/

namespace Payload

/-- The bodies over a script, whatever length and media type they declare, are read whole. -/
structure ReadsWhole (s : Script) : Prop where
  /-- Interruptions apart, this gives all bytes. -/
  whole : (∀ e ∈ s.faults, e.isInterrupted = true) → ∀ length type,
    (reader ⟨some s, length, type⟩).readAll = .ok s.contents
  /-- Another fault is the failure. -/
  failed : ∀ e, s.fatal? = some e → ∀ length type,
    (reader ⟨some s, length, type⟩).readAll = .error e
  /-- A caller with buffers of other sizes comes to the same, -/
  sized : ∀ sizes, (∀ n ∈ sizes, 0 < n) → ∀ x, toEnd (Source.readEach s sizes).1 = some x →
    ∀ length type, (reader ⟨some s, length, type⟩).readAll = x
  /-- after some reads. -/
  reached : ∀ sizes : List Nat, (∀ n ∈ sizes, 0 < n) → s.measure < sizes.length →
    (toEnd (Source.readEach s sizes).1).isSome

theorem readAll_eq_whole {p : Payload} {s : Script} (h : p.openReader.1 = .ok s) :
    p.readAll = s.whole := by
  rw [readAll_of_open h, Script.whole, Script.fatal?]
  cases s.faults.find? fun e => !e.isInterrupted <;> rfl

theorem readsWhole (s : Script) : ReadsWhole s := by
  have hwhole (length : Option Nat) (type : Option String) :
      (reader ⟨some s, length, type⟩).readAll = s.whole := readAll_eq_whole rfl
  refine ⟨fun hi length type => ?_, fun e he length type => ?_, fun sizes hn x hx length type => ?_,
    fun sizes hn => Script.isSome_toEnd hn⟩
  · rw [hwhole, Script.whole, Script.fatal?_eq_none_iff.2 hi]
  · rw [hwhole, Script.whole, he]
  · rw [hwhole, Script.whole_of_toEnd hn hx]

theorem readAll_bytes (b : BytesBody) : (bytes b).readAll = .ok b.data := by
  rw [readAll_eq_whole rfl, Script.whole, b.contents_openReader]
  rfl

end Payload

/-- **Bodies and their readers.** A body of bytes can be opened any number of times, and each reader
gives all of the data. A source is given once. Whatever length is declared, a body that is read
whole is all bytes of its reader. -/
theorem bodies_open {ρ : Type} (b : BytesBody) (uses : List Use) (c : ReaderBody ρ) (opens : Nat)
    (givenUp : Bool) (s : Script) : b.Repeats uses ∧ c.GivenOnce opens givenUp ∧
      Payload.ReadsWhole s ∧ (Payload.bytes b).readAll = .ok b.data :=
  ⟨b.repeats uses, c.givenOnce opens givenUp, Payload.readsWhole s, Payload.readAll_bytes b⟩

end Refetch
