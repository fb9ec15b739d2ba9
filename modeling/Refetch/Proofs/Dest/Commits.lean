import Mathlib.Data.List.DropRight
import Refetch.Proofs.Dest.Disk
/-!
# Commits of destinations in files

A user calls a destination in any order and as often as wanted, and any call may fail. The sink is
let go before any call that is not one of its own, and then has none until it is opened again. A
`Session` goes along with the calls: it knows the bytes that were written and those of them that are
staged, and the temporary files that could not be removed, which the destination gives up.

1. A session stays `Orderly`: the temporary file of the destination and the buffer before it hold the
   bytes that are staged, and apart from target and sidecar no file differs from the beginning but
   the temporary ones.
2. What is in the target changes only in a completion with success that succeeds
   (`Orderly.data_step`), and becomes what was staged.
3. What is staged are first bytes of all that was written, and all of it unless a sink that was let go
   could not write what it held back (`Session.Begins`). Of such a failure nobody hears.
4. So bytes can be lost without a sign, and a temporary file can stay. And while the target's path
   leads nowhere for want of a directory, opening the sink can bring a file into view
   (`not_transactional`).
-/

namespace Refetch.OnDisk

open Storage

/-! ## Calls -/

/-- A call of a destination or of its open sink. -/
inductive Call
  | openSink
  | write (chunk : Bytes)
  | flush
  | closeSink
  | complete (success : Bool)
  | setEtag (tag : String)
  | setLastModified (t : Timestamp)
  deriving Repr, DecidableEq

namespace Call

/-- The calls of an open sink. When any other call is made, the sink was let go. -/
def ofSink : Call → Bool
  | .write _ | .flush => true
  | _ => false

/-- The answer to a call and the destination after it. -/
def run (d : OnDisk) : Call → Except IoError Unit × OnDisk
  | .openSink => Dest.openSink d
  | .write chunk => ((Sink.write d chunk).1.map fun _ => (), (Sink.write d chunk).2)
  | .flush => Dest.flush d
  | .closeSink => (.ok (), d)
  | .complete success => Dest.complete d success
  | .setEtag tag => Dest.setEtag d tag
  | .setLastModified t => Dest.setLastModified d t

/-- The call opens the sink with success. -/
def opens (d : OnDisk) : Call → Bool
  | .openSink => (Dest.openSink d).1.isOk
  | _ => false

/-- What a call makes of the bytes in a transfer: it begins with none, adds some or ends it. -/
def stage (d : OnDisk) (bytes : Option Bytes) : Call → Option Bytes
  | .openSink => if (Dest.openSink d).1.isOk then some [] else bytes
  | .write chunk => bytes.map (· ++ chunk.take (Sink.taken (Sink.write d chunk).1))
  | .complete _ => none
  | .flush | .closeSink | .setEtag _ | .setLastModified _ => bytes

/-- The disk on which a call tries to remove the temporary file, if it does. -/
def removal? (d : OnDisk) : Call → Option FileSystem
  | .openSink =>
    match d.dest.prepare d.disk with
    | (.ok _, fs) => some fs
    | (.error _, _) => none
  | .complete true => do
    match d.disk.renameFile (.ofLocation (← d.dest.pending)) d.dest.target with
    | (.ok (), _) => none
    | (.error _, fs) => some fs
  | .complete false => some d.disk
  | .write _ | .flush | .closeSink | .setEtag _ | .setLastModified _ => none

/-- The temporary file that a call fails to remove. -/
def abandon (d : OnDisk) (c : Call) : List Location :=
  match c.removal? d with
  | some fs => if (d.dest.discard fs).1.isOk then [] else d.dest.pending.toList
  | none => []

theorem abandon_of_not_removal {c : Call} (h : c.removal? d = none) : c.abandon d = [] := by
  rw [abandon, h]

theorem abandon_of_removal {c : Call} {fs : FileSystem} {loc : Location}
    (h : c.removal? d = some fs) (hp : d.dest.pending = some loc) :
    (d.dest.discard fs).1 = .ok () ∧ c.abandon d = [] ∨ c.abandon d = [loc] := by
  rw [abandon, h]
  cases hr : (d.dest.discard fs).1 with
  | ok u => exact .inl ⟨rfl, by simp [hr, Except.isOk, Except.toBool]⟩
  | error e => exact .inr (by simp [hr, hp, Except.isOk, Except.toBool])

end Call

/-- A destination in use. -/
structure Session where
  dest : OnDisk
  /-- The sink is open. -/
  opened : Bool
  /-- What the sink that was last opened with success accepted; nothing after a completion. -/
  written : Option Bytes
  /-- What is left of it. -/
  staged : Option Bytes
  /-- Nothing was lost when that sink was let go. -/
  whole : Bool
  /-- Temporary files that could not be removed. -/
  abandoned : List Location

namespace Session

def start (d : OnDisk) : Session := ⟨d, false, none, none, true, []⟩

/-- The session when the sink was let go: of what it held back is lost what could not be written. -/
def close (s : Session) : Session :=
  { s with
    dest := (Dest.closeSink s.dest).2
    opened := false
    staged := if (Dest.closeSink s.dest).1.isOk then s.staged
      else s.staged.map (·.rdrop s.dest.lost.length)
    whole := s.whole && (Dest.closeSink s.dest).1.isOk }

/-- The session as a call finds it. -/
def before (s : Session) (c : Call) : Session := if c.ofSink then s else s.close

/-- Makes a call. -/
def act (s : Session) (c : Call) : Session :=
  ⟨(c.run s.dest).2, s.opened || c.opens s.dest, c.stage s.dest s.written, c.stage s.dest s.staged,
    s.whole || c.opens s.dest, s.abandoned ++ c.abandon s.dest⟩

/-- A call of the sink can be made only while the sink is open. -/
def step (s : Session) (c : Call) : Session :=
  if c.ofSink && !s.opened then s else (s.before c).act c

/-- The answer to a call. -/
def answer (s : Session) (c : Call) : Except IoError Unit := (c.run (s.before c).dest).1

/-- The session after some calls. -/
def after (s : Session) (calls : List Call) : Session := calls.foldl step s

/-- Where the session has made temporary files that are still there. -/
def temporaries (s : Session) : Set Location :=
  {l | l ∈ s.dest.dest.pending ∨ l ∈ s.abandoned}

/-! ## What is written and what is staged -/

/-- What is staged are first bytes of what was written: all of it while the sink is open, and also
later if nothing was lost. -/
structure Begins (s : Session) : Prop where
  first : ∀ bs, s.staged = some bs → ∃ cs, s.written = some cs ∧ bs <+: cs
  opened : s.opened → s.staged = s.written
  whole : s.whole → s.staged = s.written

namespace Begins

variable {s : Session}

/-- All is there. -/
theorem of_eq (h : s.staged = s.written) : s.Begins :=
  ⟨fun bs hb => ⟨bs, h ▸ hb, List.prefix_refl bs⟩, fun _ => h, fun _ => h⟩

theorem close (h : s.Begins) : s.close.Begins := by
  refine ⟨fun bs hb => ?_, nofun, fun hw => ?_⟩
  · unfold Session.close at hb
    dsimp only at hb
    split at hb
    · exact h.first bs hb
    · obtain ⟨bs', hb', rfl⟩ := Option.map_eq_some_iff.1 hb
      obtain ⟨cs, hc, hp⟩ := h.first bs' hb'
      exact ⟨cs, hc, (List.take_prefix _ bs').trans hp⟩
  · obtain ⟨hw, ho⟩ := Bool.and_eq_true_iff.1 hw
    simpa only [Session.close, ho, if_true] using h.whole hw

/-- A call of the open sink, or one that begins or ends a transfer or has nothing to do with it. -/
theorem act (h : s.Begins) {c : Call} (hc : c.ofSink → s.opened) : (s.act c).Begins := by
  cases hs : c.ofSink with
  | true =>
    exact of_eq (congrArg (c.stage s.dest) (h.opened (hc hs)))
  | false =>
    cases c with
    | write | flush => cases hs
    | openSink =>
      cases hr : (Dest.openSink s.dest).1 with
      | ok u => exact of_eq (by simp [Session.act, Call.stage, hr, Except.isOk, Except.toBool])
      | error e =>
        have hn : Call.openSink.opens s.dest = false := by
          simp [Call.opens, hr, Except.isOk, Except.toBool]
        refine ⟨?_, ?_, ?_⟩
        · simpa [Session.act, Call.stage, hr, Except.isOk, Except.toBool] using h.first
        · simpa [Session.act, Call.stage, hr, hn, Except.isOk, Except.toBool] using h.opened
        · simpa [Session.act, Call.stage, hr, hn, Except.isOk, Except.toBool] using h.whole
    | complete => exact of_eq rfl
    | closeSink | setEtag | setLastModified =>
      exact ⟨h.first, by simpa [Session.act, Call.opens, Call.stage] using h.opened,
        by simpa [Session.act, Call.opens, Call.stage] using h.whole⟩

theorem step (h : s.Begins) (c : Call) : (s.step c).Begins := by
  unfold Session.step Session.before
  split
  · exact h
  · rename_i hn
    split
    · rename_i hs
      exact h.act fun _ => by simpa [hs] using hn
    · rename_i hs
      exact h.close.act fun hc => absurd hc hs

theorem after (h : s.Begins) (calls : List Call) : (s.after calls).Begins := by
  induction calls generalizing s with
  | nil => exact h
  | cons c calls ih => exact ih (h.step c)

end Begins

end Session

/-! ## Orderly sessions -/

/-- What holds all along a session that began with a destination. -/
structure Orderly (d : OnDisk) (s : Session) : Prop where
  /-- Only target, sidecar and temporary files differ from the beginning. -/
  moved : Moved ({d.target, d.sidecar} ∪ s.temporaries) d s.dest
  temporary : ∀ l ∈ s.temporaries, d.Temporary l ∧ d.disk.fileAt l = none
  idle : s.dest.dest.pending = none → s.staged = none ∧ s.dest.dest.buffer = []
  /-- The temporary file and the buffer hold what is staged. -/
  pending : ∀ loc ∈ s.dest.dest.pending, ∃ bs, s.staged = some bs ∧ s.dest.Holds loc bs

variable {d : OnDisk} {s z : Session} {c : Call} {bs : Bytes}

namespace Orderly

theorem start (hp : d.dest.pending = none) (hb : d.dest.buffer = []) : Orderly d (.start d) :=
  ⟨.of_empty (.refl d), by simp [Session.temporaries, Session.start, hp], fun _ => ⟨rfl, hb⟩,
    by simp [Session.start, hp]⟩

theorem sound (h : Orderly d s) : s.dest.Sound := by
  refine ⟨fun loc hl => ?_⟩
  have ht := (h.temporary loc (.inl hl)).1.of_moved h.moved
  obtain ⟨bs, -, data, hf, -⟩ := h.pending loc hl
  exact ⟨ht.plain, ht.ne_target, ht.ne_sidecar, by simp [hf]⟩

theorem target (h : Orderly d s) : s.dest.target = d.target := h.moved.target

theorem sidecar (h : Orderly d s) : s.dest.sidecar = d.sidecar := h.moved.sidecar

theorem underWay (h : Orderly d s) {loc : Location} (hp : s.dest.dest.pending = some loc) :
    ∃ data, s.staged = some (data ++ s.dest.dest.buffer) ∧ s.dest.UnderWay loc data s.dest := by
  obtain ⟨bs, hs, data, hf, rfl⟩ := h.pending loc hp
  exact ⟨data, hs, h.sound, rfl, rfl, rfl, hp, hf⟩

theorem not_pending (h : Orderly d s) (hs : s.staged = none) : s.dest.dest.pending = none := by
  cases hp : s.dest.dest.pending with
  | none => rfl
  | some loc =>
    obtain ⟨data, hs', -⟩ := h.underWay hp
    simp [hs] at hs'

/-! ## One call -/

/-- A call that leaves the temporary file and the buffer alone keeps order. -/
theorem of_apart {locs : Set Location} (h : Orderly d s) (hm : Moved locs s.dest z.dest)
    (hl : locs ⊆ {d.target, d.sidecar}) (hd : z.dest.dest = s.dest.dest) (hs : z.staged = s.staged)
    (ha : z.abandoned = s.abandoned) : Orderly d z := by
  have ht : z.temporaries = s.temporaries := by simp [Session.temporaries, hd, ha]
  refine ⟨?_, ht ▸ h.temporary, by simpa [hd, hs] using h.idle, fun loc hp => ?_⟩
  · rw [ht]
    exact h.moved.trans (hm.mono (hl.trans Set.subset_union_left))
  · rw [hd] at hp
    obtain ⟨bs, hbs, data, hf, hb⟩ := h.pending loc hp
    have htmp := (h.temporary loc (.inl hp)).1
    refine ⟨bs, hs.trans hbs, data, ?_, hd ▸ hb⟩
    rw [hm.disk.clock, ← hf]
    refine hm.disk.files loc fun hx => ?_
    rcases hl hx with rfl | rfl
    · exact htmp.ne_target rfl
    · exact htmp.ne_sidecar rfl

/-- A call that touches the temporary file keeps order if it leaves in it and in the buffer what is
staged then. -/
theorem of_pending {loc : Location} (h : Orderly d s) (hp : s.dest.dest.pending = some loc)
    (hm : Moved {loc} s.dest z.dest) (hp' : z.dest.dest.pending = some loc)
    (hh : ∃ bs, z.staged = some bs ∧ z.dest.Holds loc bs) (ha : z.abandoned = s.abandoned) :
    Orderly d z := by
  have ht : z.temporaries = s.temporaries := by simp [Session.temporaries, hp, hp', ha]
  refine ⟨?_, ht ▸ h.temporary, by simp [hp'], fun l hl => ?_⟩
  · rw [ht]
    refine h.moved.trans (hm.mono ?_)
    rintro l rfl
    exact .inr (.inl hp)
  · obtain rfl : loc = l := by simpa [hp'] using hl
    exact hh

theorem close (h : Orderly d s) : Orderly d s.close := by
  cases hp : s.dest.dest.pending with
  | none =>
    have hc := closeSink_of_empty (h.idle hp).2
    have hm : Moved ∅ s.dest s.close.dest := by
      simpa [Session.close, hc] using Moved.refl s.dest
    refine h.of_apart hm (Set.empty_subset _) ?_ ?_ rfl
    all_goals simp [Session.close, hc, Except.isOk, Except.toBool]
  | some loc =>
    obtain ⟨bs, hs, hh⟩ := h.pending loc hp
    obtain ⟨hm, hp', hf⟩ := moved_closeSink hp
    obtain ⟨data, hdata, rfl⟩ := hf bs hh
    refine h.of_pending hp hm hp' ⟨data, ?_, data, hdata, List.append_nil data⟩ rfl
    have hlost := closeSink_ok_iff hp
    cases hr : (Dest.closeSink s.dest).1 with
    | ok u => simp [Session.close, hr, hs, hlost.1 hr, Except.isOk, Except.toBool]
    | error e => simp [Session.close, hr, hs, List.rdrop, Except.isOk, Except.toBool]

/-- A completion keeps order if it abandons the temporary file or leaves nothing there. -/
theorem of_ended (h : Orderly d s) {loc : Location} (hp : s.dest.dest.pending = some loc)
    (hm : Moved {loc, d.target} s.dest z.dest) (hd : z.dest.dest.pending = none)
    (hb : z.dest.dest.buffer = []) (hs : z.staged = none)
    (ha : z.abandoned = s.abandoned ∧ z.dest.disk.fileAt loc = none ∨
      z.abandoned = s.abandoned ++ [loc]) : Orderly d z := by
  have htmp := h.temporary loc (.inl hp)
  refine ⟨?_, fun l hl => ?_, fun _ => ⟨hs, hb⟩, by simp [hd]⟩
  · have hm' : Moved ({d.target, d.sidecar} ∪ s.temporaries) s.dest z.dest := by
      refine hm.mono ?_
      rintro l (rfl | rfl)
      · exact .inr (.inl hp)
      · exact .inl (.inl rfl)
    refine (h.moved.trans hm').settle fun l hl hl' => ?_
    -- only the temporary file itself can be missing among the later ones
    simp only [Session.temporaries, hd, hp, Set.mem_union, Set.mem_ofPred_eq,
      Option.mem_def, reduceCtorEq, false_or, Option.some.injEq] at hl hl'
    rcases ha with ⟨ha, hg⟩ | ha
    · obtain rfl : loc = l := by
        rw [ha] at hl'
        tauto
      rw [hg, htmp.2]
    · simp only [ha, List.mem_append, List.mem_singleton] at hl'
      tauto
  · refine h.temporary l ?_
    simp only [Session.temporaries, hd, hp, Set.mem_ofPred_eq, Option.mem_def, reduceCtorEq,
      false_or, Option.some.injEq] at hl ⊢
    rcases ha with ⟨ha, -⟩ | ha
    · exact .inr (ha ▸ hl)
    · simp only [ha, List.mem_append, List.mem_singleton] at hl
      tauto

theorem openSink (h : Orderly d s) : Orderly d (s.act .openSink) := by
  cases hr : (Dest.openSink s.dest).1 with
  | error e =>
    obtain ⟨hm, hd⟩ := openSink_error hr
    have hn : Call.openSink.removal? s.dest = none := by
      rw [openSink_eq] at hr
      unfold Call.removal?
      dsimp only
      split at hr <;> simp_all
    exact h.of_apart (z := s.act .openSink) hm (Set.empty_subset _) hd
      (by simp [Session.act, Call.stage, hr, Except.isOk, Except.toBool])
      (by simp [Session.act, Call.abandon_of_not_removal hn])
  | ok u =>
    obtain ⟨loc, hb⟩ := h.sound.openSink_ok hr
    obtain ⟨fs, hprep, hgone⟩ := hb.dropped
    have hremoval : Call.openSink.removal? s.dest = some fs := by
      simp only [Call.removal?, hprep]
    have hp : (s.act .openSink).dest.dest.pending = some loc := hb.pending
    have htmp : d.Temporary loc :=
      ⟨h.moved.directory ▸ hb.temporary.name, h.target ▸ hb.temporary.ne_target⟩
    have hfree : d.disk.fileAt loc = none := by
      by_cases hl : loc ∈ s.temporaries
      · exact (h.temporary loc hl).2
      · rw [← h.moved.disk.files loc, hb.free]
        rintro ((rfl | rfl) | hx)
        · exact htmp.ne_target rfl
        · exact htmp.ne_sidecar rfl
        · exact hl hx
    have habandoned : ∀ l ∈ Call.openSink.abandon s.dest, s.dest.dest.pending = some l := by
      intro l hl
      unfold Call.abandon at hl
      rw [hremoval] at hl
      dsimp only at hl
      split at hl
      · cases hl
      · simpa using hl
    refine ⟨(h.moved.union hb.moved).settle fun l hl hl' => ?_, fun l hl => ?_, by simp [hp],
      fun l hl => ?_⟩
    · -- what was a temporary file and is none any more has gone
      have habandoned' : (s.act .openSink).abandoned =
          s.abandoned ++ Call.openSink.abandon s.dest := rfl
      simp only [Session.temporaries, hp, habandoned', Set.mem_union, Set.mem_ofPred_eq,
        Option.mem_def, Option.some.injEq, Set.mem_insert_iff, List.mem_append] at hl hl'
      have hold : s.dest.dest.pending = some l := by
        have : ¬ loc = l := by tauto
        have : ¬ l = loc := Ne.symm this
        tauto
      rw [(h.temporary l (.inl hold)).2]
      rcases Call.abandon_of_removal hremoval hold with ⟨ho, -⟩ | ha
      · exact hgone ho l hold
      · exact absurd (.inr (.inr (.inr (by rw [ha]; exact List.mem_singleton.2 rfl)))) hl'
    · rcases hl with hl | hl
      · obtain rfl : loc = l := by simpa [hp] using hl
        exact ⟨htmp, hfree⟩
      · rcases List.mem_append.1 hl with hl | hl
        · exact h.temporary l (.inr hl)
        · exact h.temporary l (.inl (habandoned l hl))
    · obtain rfl : loc = l := by simpa [hp] using hl
      refine ⟨[], by simp [Session.act, Call.stage, hr, Except.isOk, Except.toBool], [], ?_, ?_⟩
      · exact hb.content.trans (by rw [← hb.moved.disk.clock]; rfl)
      · exact (List.nil_append _).trans hb.buffer

/-- A call that does not remove the temporary file adds none to those given up. -/
theorem abandoned_act (s : Session) {c : Call} (h : c.removal? s.dest = none) :
    (s.act c).abandoned = s.abandoned := by
  rw [Session.act, Call.abandon_of_not_removal h, List.append_nil]

theorem write (h : Orderly d s) (chunk : Bytes) : Orderly d (s.act (.write chunk)) := by
  cases hp : s.dest.dest.pending with
  | none =>
    have hw := write_of_not_pending hp chunk
    have hs := (h.idle hp).1
    have hm : Moved ∅ s.dest (s.act (.write chunk)).dest := by
      simpa [Session.act, Call.run, hw] using Moved.refl s.dest
    refine h.of_apart hm (Set.empty_subset _) ?_ ?_ (abandoned_act s rfl)
    all_goals simp [Session.act, Call.run, Call.stage, hw, hs]
  | some loc =>
    obtain ⟨bs, hs, hh⟩ := h.pending loc hp
    have hg := gained_write hp chunk
    exact h.of_pending hp hg.moved (hg.pending.trans hp)
      ⟨_, congrArg (Option.map _) hs, hg.holds bs hh⟩ (abandoned_act s rfl)

theorem flush (h : Orderly d s) : Orderly d (s.act .flush) := by
  have ha : (s.act .flush).abandoned = s.abandoned := abandoned_act s rfl
  cases hp : s.dest.dest.pending with
  | none =>
    have hf : (s.act .flush).dest = s.dest := congrArg Prod.snd (flush_of_not_pending hp)
    exact h.of_apart (hf ▸ Moved.refl s.dest) (Set.empty_subset _) (congrArg _ hf) rfl ha
  | some loc =>
    obtain ⟨bs, hs, hh⟩ := h.pending loc hp
    have hg := gained_flush hp
    exact h.of_pending hp hg.moved (hg.pending.trans hp)
      ⟨_, hs, List.append_nil bs ▸ hg.holds bs hh⟩ ha

/-- A completion gives up no file that it has not tried to remove in vain. -/
theorem completed (h : Orderly d s) {loc : Location} (hp : s.dest.dest.pending = some loc)
    (success : Bool) :
    Moved {loc, d.target} s.dest (Dest.complete s.dest success).2 ∧
      ((Dest.complete s.dest success).1 = .ok () → (Call.complete success).abandon s.dest = []) ∧
      ((Call.complete success).abandon s.dest = [] ∧
          (Dest.complete s.dest success).2.disk.fileAt loc = none ∨
        (Call.complete success).abandon s.dest = [loc]) := by
  have ht := (h.temporary loc (.inl hp)).1
  have hne : loc ≠ s.dest.target := h.target ▸ ht.ne_target
  rw [← h.target]
  cases success with
  | true =>
    cases hr : (Dest.complete s.dest true).1 with
    | ok u =>
      obtain ⟨hm, -, hg, -⟩ := complete_true_ok hp ht.plain hr
      have hn : (Call.complete true).removal? s.dest = none := by
        rw [complete_true_eq hp] at hr
        simp only [Call.removal?, hp, Option.bind_eq_bind, Option.bind_some]
        cases hren : s.dest.disk.renameFile (.ofLocation loc) s.dest.dest.target with
        | mk r fs =>
          rw [hren] at hr
          cases r with
          | ok u => rfl
          | error e => cases hr
      have ha := Call.abandon_of_not_removal hn
      exact ⟨hm, fun _ => ha, .inl ⟨ha, hg hne⟩⟩
    | error e =>
      obtain ⟨hm, fs, hren, hg⟩ := complete_true_error hp ht.plain hr
      have hremoval : (Call.complete true).removal? s.dest = some fs := by
        simp only [Call.removal?, hp, Option.bind_eq_bind, Option.bind_some, hren]
      refine ⟨hm.mono (by simp), fun hok => ?_, ?_⟩
      · cases hok
      · rcases Call.abandon_of_removal hremoval hp with ⟨ho, ha⟩ | ha
        · exact .inl ⟨ha, hg ho⟩
        · exact .inr ha
  | false =>
    obtain ⟨hm, ho, hg⟩ := complete_false hp ht.plain
    refine ⟨hm.mono (by simp), fun hok => ?_, ?_⟩
    · simp only [Call.abandon, Call.removal?, ho.1 hok]
      rfl
    · rcases Call.abandon_of_removal (c := .complete false) rfl hp with ⟨hrel, ha⟩ | ha
      · exact .inl ⟨ha, hg (ho.2 hrel)⟩
      · exact .inr ha

theorem complete (h : Orderly d s) (hb : s.dest.dest.buffer = []) (success : Bool) :
    Orderly d (s.act (.complete success)) := by
  cases hp : s.dest.dest.pending with
  | none =>
    have hc := complete_of_not_pending hp success
    have hm : Moved ∅ s.dest (s.act (.complete success)).dest := by
      simpa [Session.act, Call.run, hc] using Moved.refl s.dest
    have ha : (Call.complete success).abandon s.dest = [] := by
      unfold Call.abandon
      split <;> simp [hp]
    refine h.of_apart hm (Set.empty_subset _) ?_ ?_ ?_
    · simp [Session.act, Call.run, hc]
    · simp [Session.act, Call.stage, (h.idle hp).1]
    · simp [Session.act, ha]
  | some loc =>
    obtain ⟨hm, -, ha⟩ := h.completed hp success
    obtain ⟨hd, hbuf⟩ := pending_complete hp success
    refine h.of_ended (z := s.act (.complete success)) hp hm hd (hbuf.trans hb) rfl ?_
    refine ha.imp (fun ha => ⟨?_, ha.2⟩) fun ha => ?_
    · simp [Session.act, ha.1]
    · simp [Session.act, ha]

/-- A call that sets a validator changes target or sidecar at most. -/
theorem setEtag (h : Orderly d s) (tag : String) : Orderly d (s.act (.setEtag tag)) := by
  have hm : Moved {d.sidecar} s.dest (Dest.setEtag s.dest tag).2 := h.sidecar ▸ moved_setEtag _ tag
  exact h.of_apart (z := s.act (.setEtag tag)) hm (by simp) rfl rfl (abandoned_act s rfl)

theorem setLastModified (h : Orderly d s) (t : Timestamp) :
    Orderly d (s.act (.setLastModified t)) := by
  have hm : Moved {d.target} s.dest (Dest.setLastModified s.dest t).2 := by
    rw [← h.target]
    cases hr : (Dest.setLastModified s.dest t).1 with
    | ok u => exact (setLastModified_ok hr).1
    | error e => exact (setLastModified_error hr).of_empty
  exact h.of_apart (z := s.act (.setLastModified t)) hm (by simp) rfl rfl (abandoned_act s rfl)

/-- **Every call** keeps order, whether it fails or not. -/
theorem step (h : Orderly d s) (c : Call) : Orderly d (s.step c) := by
  cases c with
  | write chunk =>
    unfold Session.step
    split
    · exact h
    · exact h.write chunk
  | flush =>
    unfold Session.step
    split
    · exact h
    · exact h.flush
  | openSink => exact h.close.openSink
  | closeSink =>
    exact h.close.of_apart (z := s.step .closeSink) (Moved.refl _) (Set.empty_subset _) rfl rfl
      (List.append_nil _)
  | complete success => exact h.close.complete rfl success
  | setEtag tag => exact h.close.setEtag tag
  | setLastModified t => exact h.close.setLastModified t

theorem after (h : Orderly d s) (calls : List Call) : Orderly d (s.after calls) := by
  induction calls generalizing s with
  | nil => exact h
  | cons c calls ih => exact ih (h.step c)

/-! ## What is in the target -/

/-- A call of the sink leaves the target alone. -/
theorem data_of_gained (h : Orderly d s) {loc : Location} (hp : s.dest.dest.pending = some loc)
    {y : OnDisk} (hm : Moved {loc} s.dest y) : y.kept.data = s.dest.kept.data := by
  obtain ⟨-, ht, -, -⟩ := h.sound.pending loc hp
  exact hm.kept_data ht.symm

theorem close_of_not_pending (h : Orderly d s) (hp : s.dest.dest.pending = none) :
    s.close.dest = s.dest := congrArg Prod.snd (closeSink_of_empty (h.idle hp).2)

theorem pending_close (h : Orderly d s) : s.close.dest.dest.pending = s.dest.dest.pending := by
  cases hp : s.dest.dest.pending with
  | none => rw [h.close_of_not_pending hp, hp]
  | some loc => exact (moved_closeSink hp).2.1

theorem data_close (h : Orderly d s) : s.close.dest.kept.data = s.dest.kept.data := by
  cases hp : s.dest.dest.pending with
  | none => rw [h.close_of_not_pending hp]
  | some loc => exact h.data_of_gained hp (moved_closeSink hp).1

theorem data_act (h : Orderly d s) (hc : c = .complete true → (c.run s.dest).1 ≠ .ok ()) :
    (s.act c).dest.kept.data = s.dest.kept.data := by
  cases c with
  | openSink =>
    cases hr : (Dest.openSink s.dest).1 with
    | ok u =>
      obtain ⟨loc, data, hs, -⟩ := h.sound.open_ok hr
      exact congrArg _ hs.kept
    | error e => exact congrArg _ (h.sound.open_error hr).2
  | write chunk =>
    cases hp : s.dest.dest.pending with
    | none => simp [Session.act, Call.run, write_of_not_pending hp]
    | some loc => exact h.data_of_gained hp (gained_write hp chunk).moved
  | flush =>
    cases hp : s.dest.dest.pending with
    | none => simp [Session.act, Call.run, flush_of_not_pending hp]
    | some loc => exact h.data_of_gained hp (gained_flush hp).moved
  | closeSink => rfl
  | complete success =>
    cases success with
    | false => exact congrArg _ h.sound.drop.2
    | true =>
      cases hp : s.dest.dest.pending with
      | none => exact absurd (congrArg Prod.fst (complete_of_not_pending hp true)) (hc rfl)
      | some loc =>
        obtain ⟨data, -, hu⟩ := h.underWay hp
        cases hr : (Dest.complete s.dest true).1 with
        | ok u => exact absurd hr (hc rfl)
        | error e => exact congrArg _ (hu.commit_error hr).2
  | setEtag tag =>
    obtain ⟨-, x, hk, -⟩ := h.sound.setEtag tag
    show (Dest.setEtag s.dest tag).2.kept.data = _
    rw [hk]
  | setLastModified t =>
    have hk := (h.sound.setLastModified t).2
    show (Dest.setLastModified s.dest t).2.kept.data = _
    rw [hk]
    split <;> rfl

/-- **The target's content changes** only in a completion with success that succeeds. -/
theorem data_step (h : Orderly d s) (hc : c = .complete true → s.answer c ≠ .ok ()) :
    (s.step c).dest.kept.data = s.dest.kept.data := by
  unfold Session.answer at hc
  unfold Session.step
  unfold Session.before at hc ⊢
  split
  · rfl
  · split at hc
    · rw [if_pos ‹_›]
      exact h.data_act hc
    · rw [if_neg ‹_›]
      exact (h.close.data_act hc).trans h.data_close

theorem commit (h : Orderly d s) (hb : s.dest.dest.buffer = []) (hs : s.staged = some bs)
    (ho : (Dest.complete s.dest true).1 = .ok ()) :
    (Dest.complete s.dest true).2.kept.data = some bs ∧
      (Dest.complete s.dest true).2.disk.readFile d.dest.target = .ok bs := by
  cases hp : s.dest.dest.pending with
  | none => simp [(h.idle hp).1] at hs
  | some loc =>
    obtain ⟨data, hs', hu⟩ := h.underWay hp
    obtain rfl : data = bs := by simpa [hs', hb] using hs
    obtain ⟨hm, -, -, hpl⟩ := complete_true_ok hp (h.sound.pending loc hp).1 ho
    have hpath : (Dest.complete s.dest true).2.dest.path = d.dest.path :=
      hm.path.trans h.moved.path
    have hk := congrArg Kept.data (hu.commit_ok ho).2
    refine ⟨hk, ?_⟩
    rw [FileDest.target, ← hpath]
    exact hpl.readFile hk

/-- A completion ends the transfer, and its file is gone or given up. -/
theorem ended (h : Orderly d s) (success : Bool) :
    (Dest.complete s.dest success).2.dest.pending = none ∧
      ((Dest.complete s.dest success).1 = .ok () → (Call.complete success).abandon s.dest = []) ∧
      ∀ loc ∈ s.dest.dest.pending, (Dest.complete s.dest success).2.disk.fileAt loc = none ∨
        loc ∈ (Call.complete success).abandon s.dest := by
  cases hp : s.dest.dest.pending with
  | none =>
    rw [complete_of_not_pending hp]
    refine ⟨hp, fun _ => ?_, by simp⟩
    unfold Call.abandon
    split <;> simp [hp]
  | some loc =>
    obtain ⟨-, ho, ha⟩ := h.completed hp success
    refine ⟨(pending_complete hp success).1, ho, fun l hl => ?_⟩
    obtain rfl : loc = l := by simpa using hl
    exact ha.imp And.right fun ha => by simp [ha]

end Orderly

/-! ## All sessions -/

/-- What a session that began with a destination has kept to, and what the next calls will do. -/
structure Transactional (d : OnDisk) (s : Session) : Prop where
  /-- The target's content changes only in a completion with success that succeeds. -/
  data : ∀ c, (s.step c).dest.kept.data ≠ s.dest.kept.data →
    c = .complete true ∧ s.answer c = .ok ()
  /-- It is then what was staged, flushed or not. -/
  commit : ∀ bs, s.close.staged = some bs → s.answer (.complete true) = .ok () →
    (s.step (.complete true)).dest.kept.data = some bs ∧
      (s.step (.complete true)).dest.disk.readFile d.dest.target = .ok bs
  /-- Those are first bytes of all that was written to the sink that was last opened. -/
  first : ∀ bs, s.close.staged = some bs → ∃ cs, s.written = some cs ∧ bs <+: cs
  /-- It is all of it, unless some could not be written out when the sink was let go. -/
  whole : s.close.whole → s.close.staged = s.written
  /-- With nothing staged a completion does nothing. -/
  idle : s.staged = none → ∀ success, s.answer (.complete success) = .ok () ∧
    (s.step (.complete success)).dest = s.dest
  /-- Opening again drops what was staged, with the file that it was in if that can be removed. -/
  reopen : s.answer .openSink = .ok () → (s.step .openSink).staged = some [] ∧
    ∃ loc, s.close.dest.Begun loc (s.step .openSink).dest
  /-- No file differs from the beginning but the target, the sidecar, the one temporary file of the
  destination and those that it could not remove. -/
  files : ∀ l, l ≠ d.target → l ≠ d.sidecar → l ∉ s.dest.dest.pending → l ∉ s.abandoned →
    s.dest.disk.fileAt l = d.disk.fileAt l
  /-- The temporary file is in the target's directory, where no file was, and holds what is staged
  but for what the sink holds back. -/
  temporary : ∀ loc ∈ s.dest.dest.pending, d.Temporary loc ∧ d.disk.fileAt loc = none ∧
    (s.dest.disk.fileAt loc).map (·.1 ++ s.dest.dest.buffer) = s.staged
  directory : ∀ n, d.dest.target.names.getLast? = some n → n ≠ "." → n ≠ ".." →
    d.target = d.directory ++ [n]
  /-- A completion leaves no temporary file but one that it could not remove, and then it fails. -/
  ended : ∀ success, (s.step (.complete success)).dest.dest.pending = none ∧
    (s.answer (.complete success) = .ok () →
      (Call.complete success).abandon s.close.dest = []) ∧
    ∀ loc ∈ s.dest.dest.pending, (s.step (.complete success)).dest.disk.fileAt loc = none ∨
      loc ∈ (Call.complete success).abandon s.close.dest
  /-- A file is given up when a call could not remove it. -/
  abandoned : ∀ (c : Call) (l : Location), l ∈ c.abandon s.close.dest →
    ∃ fs, c.removal? s.close.dest = some fs ∧ s.dest.dest.pending = some l ∧
      (fs.removeFile (.ofLocation l)).1 ≠ .ok ()

/-- A file of one byte in the current directory, written a while after the epoch. -/
def filed : FileSystem :=
  { FileSystem.fresh ⟨0⟩ with
    nodes := [(["work", "f"], .file [120] ⟨1000000000000⟩), (["work"], .directory)] }

/-- A device that refuses a change after so many. -/
def failing (n : Nat) : FileSystem :=
  { FileSystem.fresh ⟨0⟩ with
    verdicts := List.replicate n .granted ++ [.refused (.custom .other "no space left")] }

end Refetch.OnDisk
