import Refetch.Proofs.Dest.Twins
/-!
# Destinations on one disk

Destinations take turns on one disk. In each turn one of them gets a demand, and finds the time and
the verdicts of that turn. How does one of them fare compared with one that is alone and gets the
same demands at the same moments?

1. `Neighbours` have different file names in one directory that is there. No name is one of a
   temporary file, and none is another one with `.etag` after it, since that is another's sidecar.
2. Their own files are then different, and so are the temporary files, since each turn gives new
   names (`Apart`).
3. So a turn of another one changes nothing in sight (`Mirrors.turn_other`), and a turn of its own is
   the same on both disks (`Mirrors.turn_own`).
-/

namespace Refetch

open Storage
open Storage.FileSystem (Agree Touched given)
open OnDisk (Demand Answer Own InView)

/-! ## Turns -/

/-- What a demand meets. The names of temporary files are drawn from `issued` on. -/
structure Moment where
  clock : Timestamp
  verdicts : List Storage.Verdict
  issued : Nat

namespace OnDisk

def meeting (d : OnDisk) (m : Moment) : OnDisk :=
  ⟨d.dest, { d.disk with clock := m.clock, verdicts := m.verdicts, issued := m.issued }⟩

/-- The answers to demands that come at some moments. -/
def answers (d : OnDisk) : List (Moment × Demand) → List Answer
  | [] => []
  | (m, r) :: rest => (r.run (d.meeting m)).1 :: (r.run (d.meeting m)).2.answers rest

/-- The destination after demands that come at some moments. -/
def left (d : OnDisk) (demands : List (Moment × Demand)) : OnDisk :=
  demands.foldl (fun d x => (x.2.run (d.meeting x.1)).2) d

end OnDisk

/-- Destinations and the disk that they are on. -/
structure Shared (ι : Type) where
  dests : ι → FileDest
  disk : FileSystem

/-- A demand to one of the destinations. -/
structure Turn (ι : Type) where
  who : ι
  demand : Demand
  clock : Timestamp
  verdicts : List Storage.Verdict

namespace Shared

variable {ι : Type} [DecidableEq ι]

def start (path : ι → String) (fs : FileSystem) : Shared ι := ⟨fun i => .new (path i), fs⟩

def seen (s : Shared ι) (i : ι) : OnDisk := ⟨s.dests i, s.disk⟩

/-- The moment of the next turn. -/
def moment (s : Shared ι) (t : Turn ι) : Moment := ⟨t.clock, t.verdicts, s.disk.issued⟩

def turn (s : Shared ι) (t : Turn ι) : Answer × Shared ι :=
  let r := t.demand.run ((s.seen t.who).meeting (s.moment t))
  (r.1, ⟨Function.update s.dests t.who r.2.dest, r.2.disk⟩)

/-- What is there after some turns. -/
def after (s : Shared ι) (turns : List (Turn ι)) : Shared ι := turns.foldl (fun s t => (s.turn t).2) s

/-- The answers that one of them gives. -/
def told (s : Shared ι) (i : ι) : List (Turn ι) → List Answer
  | [] => []
  | t :: rest =>
    if t.who = i then (s.turn t).1 :: (s.turn t).2.told i rest else (s.turn t).2.told i rest

/-- The demands to one of them, with the moments that they come at. -/
def asked (s : Shared ι) (i : ι) : List (Turn ι) → List (Moment × Demand)
  | [] => []
  | t :: rest =>
    if t.who = i then (s.moment t, t.demand) :: (s.turn t).2.asked i rest
    else (s.turn t).2.asked i rest

end Shared

/-! ## Neighbours -/

/-- Paths with different file names in one directory. -/
structure Neighbours {ι : Type} (fs : FileSystem) (dir : Location) (path name : ι → String) :
    Prop where
  fileName : ∀ i, (Path.ofText (path i)).fileName? = some (name i)
  together : ∀ i, fs.resolve (Path.ofText (path i)).directory = .ok (dir, .directory)
  distinct : ∀ i j, i ≠ j → name i ≠ name j
  not_temporary : ∀ i, FileSystem.isTemporaryName (name i) = false
  not_sidecar : ∀ i j, name i ≠ name j ++ ".etag"

/-- The two files that a destination keeps things in. -/
def OnDisk.files (d : OnDisk) : Set Location := {l | l = d.target ∨ l = d.sidecar}

namespace Neighbours

variable {ι : Type} {fs : FileSystem} {dir : Location} {path name : ι → String} {i j : ι}
  {l : Location} {m n : Nat} (h : Neighbours fs dir path name)
include h

theorem directory (i : ι) : (OnDisk.mk (.new (path i)) fs).directory = dir :=
  (FileSystem.resolve_eq_ok (h.together i)).1.symm

theorem target (i : ι) : (OnDisk.mk (.new (path i)) fs).target = dir ++ [name i] := by
  rw [← h.directory i]
  exact FileSystem.locate_of_fileName? (h.fileName i)

theorem sidecar (i : ι) : (OnDisk.mk (.new (path i)) fs).sidecar = dir ++ [name i ++ ".etag"] ∨
    ∃ x, (OnDisk.mk (.new (path i)) fs).sidecar = dir ++ [name i, x] := by
  rw [← h.directory i]
  exact OnDisk.sidecar_of_fileName? (h.fileName i)

/-- No file belongs to two of them. -/
theorem files_disjoint (hij : i ≠ j) (hi : l ∈ (OnDisk.mk (.new (path i)) fs).files) :
    l ∉ (OnDisk.mk (.new (path j)) fs).files := by
  have hname := h.distinct i j hij
  have hsame {xs ys : List String} (he : dir ++ xs = dir ++ ys) : xs = ys :=
    List.append_cancel_left he
  rintro (hj | hj) <;> rcases hi with hi | hi <;> rw [hi] at hj
  · rw [h.target, h.target] at hj
    exact hname (List.singleton_inj.1 (hsame hj))
  · rw [h.target] at hj
    rcases h.sidecar i with hs | ⟨x, hs⟩ <;> rw [hs] at hj
    · exact h.not_sidecar j i (List.singleton_inj.1 (hsame hj)).symm
    · exact absurd (hsame hj) (by simp)
  · rw [h.target] at hj
    rcases h.sidecar j with hs | ⟨x, hs⟩ <;> rw [hs] at hj
    · exact h.not_sidecar i j (List.singleton_inj.1 (hsame hj))
    · exact absurd (hsame hj) (by simp)
  · rcases h.sidecar i with hs | ⟨x, hs⟩ <;> rcases h.sidecar j with hs' | ⟨y, hs'⟩ <;>
      rw [hs, hs'] at hj <;> have hj := hsame hj
    · have he := congrArg String.toList (List.singleton_inj.1 hj)
      rw [String.toList_append, String.toList_append] at he
      exact hname (String.toList_inj.1 (List.append_cancel_right he))
    · exact absurd hj (by simp)
    · exact absurd hj (by simp)
    · exact hname (List.cons.inj hj).1

/-- No temporary file is in the place of one of the files. -/
theorem files_not_given (hi : l ∈ (OnDisk.mk (.new (path i)) fs).files) : l ∉ given dir m n := by
  rintro ⟨k, -, -, hk⟩
  rcases hi with hi | hi
  · rw [h.target, hk] at hi
    have he : FileSystem.temporaryName k = name i :=
      List.singleton_inj.1 (List.append_cancel_left hi)
    have ht := FileSystem.isTemporaryName_temporaryName k
    rw [he, h.not_temporary i] at ht
    cases ht
  · refine OnDisk.getLast?_sidecar (OnDisk.mk (.new (path i)) fs) k ?_
    rw [← hi, hk, List.getLast?_concat]

/-- Both files are below the directory. -/
theorem not_above_files (hl : l <+: dir) : l ∉ (OnDisk.mk (.new (path i)) fs).files := by
  have hlen := hl.length_le
  rintro (hi | hi)
  · rw [hi, h.target] at hlen
    simp at hlen
  · rcases h.sidecar i with hs | ⟨x, hs⟩ <;> rw [hi, hs] at hlen <;> simp at hlen

end Neighbours

/-! ## What is in sight of one of them -/

namespace Shared

variable {ι : Type} {fs : FileSystem} {dir : Location} {path name : ι → String} {s s' : Shared ι}
  {i : ι} {x : OnDisk}

/-- What holds all along the turns of destinations that began on a disk. -/
structure Apart (fs : FileSystem) (dir : Location) (path : ι → String) (s : Shared ι) : Prop where
  path : ∀ i, (s.dests i).path = path i
  current : s.disk.current = fs.current
  directories : ∀ l, fs.lookup l = some .directory → s.disk.lookup l = some .directory
  /-- Their temporary files have names that were given. -/
  pending : ∀ i, ∀ loc ∈ (s.dests i).pending, loc ∈ given dir 0 s.disk.issued
  distinct : ∀ i j, i ≠ j → ∀ loc ∈ (s.dests i).pending, loc ∉ (s.dests j).pending

/-- What one of the destinations has nothing to do with: the files of the others, and all that was
made as a temporary file but its own. -/
def foreign (fs : FileSystem) (dir : Location) (path : ι → String) (s : Shared ι) (i : ι) :
    Set Location :=
  {l | (∃ j, j ≠ i ∧ l ∈ (OnDisk.mk (.new (path j)) fs).files) ∨
    l ∈ given dir 0 s.disk.issued ∧ l ∉ (s.dests i).pending}

/-- All the rest, and the directories that there were in the beginning. -/
def sight (fs : FileSystem) (dir : Location) (path : ι → String) (s : Shared ι) (i : ι) :
    Set Location :=
  {l | l ∉ s.foreign fs dir path i ∨ fs.lookup l = some .directory}

theorem apart_start : (start path fs).Apart fs dir path :=
  ⟨fun _ => rfl, rfl, fun _ h => h, fun _ _ h => (nomatch h), fun _ _ _ _ h => (nomatch h)⟩

/-- What goes out of sight stays so. -/
theorem sight_mono (hi : s.disk.issued ≤ s'.disk.issued) (hp : ∀ loc ∈ (s'.dests i).pending,
      loc ∈ (s.dests i).pending ∨ loc ∈ given dir s.disk.issued s'.disk.issued) :
    s'.sight fs dir path i ⊆ s.sight fs dir path i := by
  rintro l (hl | hl)
  · refine .inl fun hf => hl ?_
    rcases hf with hf | ⟨hg, hnot⟩
    · exact .inl hf
    · refine .inr ⟨FileSystem.given_mono dir le_rfl hi hg, fun hp' => ?_⟩
      rcases hp l hp' with h | h
      · exact hnot h
      · exact FileSystem.not_given_of_given hg h
  · exact .inr hl

namespace Apart

variable (h : s.Apart fs dir path)
include h

theorem target_eq (i : ι) : (s.dests i).target = Path.ofText (path i) := by
  rw [FileDest.target, h.path]

theorem target (i : ι) : (s.seen i).target = (OnDisk.mk (.new (path i)) fs).target :=
  OnDisk.target_congr (h.path i) h.current

theorem sidecar (i : ι) : (s.seen i).sidecar = (OnDisk.mk (.new (path i)) fs).sidecar :=
  OnDisk.sidecar_congr (h.path i) h.current

variable (hn : Neighbours fs dir path name)
include hn

theorem directory (i : ι) : (s.seen i).directory = dir :=
  (OnDisk.directory_congr (h.path i) h.current).trans (hn.directory i)

omit h in
theorem files_in_sight {l : Location} (hl : l ∈ (OnDisk.mk (.new (path i)) fs).files) :
    l ∈ s.sight fs dir path i := by
  refine .inl ?_
  rintro (⟨j, hj, hf⟩ | ⟨hg, -⟩)
  · exact hn.files_disjoint hj.symm hl hf
  · exact hn.files_not_given hl hg

theorem trail_directory_in_sight {l : Location}
    (hl : l ∈ s.disk.trail (s.dests i).target.directory) :
    fs.lookup l = some .directory := by
  rw [h.target_eq, FileSystem.trail_congr h.current] at hl
  exact FileSystem.stands_of_resolve (hn.together i) l hl

theorem trail_target_in_sight {l : Location} (hl : l ∈ s.disk.trail (s.dests i).target) :
    l ∈ s.sight fs dir path i := by
  have hname : (s.dests i).target.fileName? = some (name i) := by
    rw [h.target_eq]
    exact hn.fileName i
  rcases FileSystem.mem_trail_of_fileName? hname hl with hl | hl
  · exact .inr (h.trail_directory_in_sight hn hl)
  · exact files_in_sight hn (.inl (hl.trans (h.target i)))

theorem trail_sidecar_in_sight {l : Location}
    (hl : l ∈ s.disk.trail (Path.ofText (s.dests i).etagPath)) : l ∈ s.sight fs dir path i := by
  rcases OnDisk.mem_trail_sidecar (s.seen i) hl with hl | hl
  · exact h.trail_target_in_sight hn hl
  · exact files_in_sight hn (.inr (hl.trans (h.sidecar i)))

/-- **A destination** has in sight all that its calls look at. -/
theorem inView (i : ι) : (s.seen i).InView (s.sight fs dir path i) := by
  have hdir := h.directory hn i
  refine ⟨fun l hl => ?_, fun l hl => ?_, fun l hl => ?_, fun l hl => ?_, fun l hl => ?_,
    fun loc hl => ?_, fun n hle => ?_⟩
  · exact h.directories l (h.trail_directory_in_sight hn hl)
  · exact .inr (h.trail_directory_in_sight hn hl)
  · rw [hdir] at hl
    refine .inl ?_
    rintro (⟨j, -, hf⟩ | ⟨⟨k, -, -, hg⟩, -⟩)
    · exact hn.not_above_files hl hf
    · have hlen := hl.length_le
      rw [hg] at hlen
      simp at hlen
  · exact h.trail_target_in_sight hn hl
  · exact h.trail_sidecar_in_sight hn hl
  · have hg := h.pending i loc hl
    refine ⟨.inl ?_, ?_⟩
    · rintro (⟨j, -, hf⟩ | ⟨-, hnot⟩)
      · exact hn.files_not_given hf hg
      · exact hnot hl
    · obtain ⟨k, -, -, hk⟩ := hg
      exact ⟨k, by rw [hdir, hk]⟩
  · rw [hdir]
    refine .inl ?_
    have hg : dir ++ [FileSystem.temporaryName n] ∈ given dir s.disk.issued (n + 1) :=
      ⟨n, hle, Nat.lt_succ_self n, rfl⟩
    rintro (⟨j, -, hf⟩ | ⟨hg', -⟩)
    · exact hn.files_not_given hf hg
    · exact FileSystem.not_given_of_given hg' hg

end Apart

/-! ## Turns of one and of another -/

theorem inView_meeting {K : Set Location} {d : OnDisk} {m : Moment} (v : d.InView K)
    (hm : m.issued = d.disk.issued) : (d.meeting m).InView K :=
  ⟨v.stands, v.directory, v.above, v.target, v.sidecar, v.pending, fun n hle => v.free n (hm ▸ hle)⟩

/-- A destination on two disks: here with the others, there alone. -/
structure Mirrors (fs : FileSystem) (dir : Location) (path : ι → String) (s : Shared ι) (i : ι)
    (x : OnDisk) : Prop where
  dest : x.dest = s.dests i
  current : x.disk.current = s.disk.current
  lookup : ∀ l ∈ s.sight fs dir path i, x.disk.lookup l = s.disk.lookup l

theorem Mirrors.agree (hx : s.Mirrors fs dir path i x) (m : Moment) :
    Agree (s.sight fs dir path i) ((s.seen i).meeting m).disk (x.meeting m).disk :=
  ⟨hx.current, rfl, rfl, rfl, hx.lookup⟩

theorem Mirrors.meeting_eq (hx : s.Mirrors fs dir path i x) (m : Moment) :
    x.meeting m = ((s.seen i).meeting m).on (x.meeting m).disk := by
  show OnDisk.mk x.dest _ = _
  rw [hx.dest]
  rfl

section Turns

variable [DecidableEq ι] {t : Turn ι}

theorem seen_turn (s : Shared ι) (t : Turn ι) : (s.turn t).2.seen t.who =
    (t.demand.run ((s.seen t.who).meeting (s.moment t))).2 := by
  simp [turn, seen]

theorem dests_turn_other (s : Shared ι) (hi : t.who ≠ i) : (s.turn t).2.dests i = s.dests i :=
  Function.update_of_ne hi.symm _ _

variable (h : s.Apart fs dir path) (hn : Neighbours fs dir path name)

include h hn

omit [DecidableEq ι] in
/-- A turn is the same on both disks. -/
theorem twin_turn (hx : s.Mirrors fs dir path t.who x) :
    OnDisk.Twin (s.sight fs dir path t.who) ((s.seen t.who).meeting (s.moment t))
      (t.demand.run ((s.seen t.who).meeting (s.moment t)))
      (t.demand.run (x.meeting (s.moment t))) := by
  rw [hx.meeting_eq]
  exact OnDisk.twin_demand (inView_meeting (h.inView hn t.who) rfl) (hx.agree _) t.demand

/-- Whose turn it is changes its own files only. -/
theorem own_turn : Own (s.seen t.who) ((s.turn t).2.seen t.who) := by
  have hself : s.Mirrors fs dir path t.who (s.seen t.who) := ⟨rfl, rfl, fun _ _ => rfl⟩
  have ho := (twin_turn h hn hself).own
  rw [seen_turn]
  exact ⟨ho.path, ⟨ho.disk.current, ho.disk.issued, ho.disk.directories, ho.disk.elsewhere⟩,
    ho.pending⟩

theorem Apart.turn (t : Turn ι) : (s.turn t).2.Apart fs dir path := by
  have ho := own_turn (t := t) h hn
  have hdir := h.directory hn t.who
  have hle : s.disk.issued ≤ (s.turn t).2.disk.issued := ho.disk.issued
  have hold := FileSystem.given_mono dir (le_refl 0) hle
  have hnew := FileSystem.given_mono dir (Nat.zero_le s.disk.issued)
    (le_refl (s.turn t).2.disk.issued)
  have hpending : ∀ i, ∀ loc ∈ ((s.turn t).2.dests i).pending, loc ∈ (s.dests i).pending ∨
      i = t.who ∧ loc ∈ given dir s.disk.issued (s.turn t).2.disk.issued := by
    intro i loc hl
    by_cases hi : i = t.who
    · subst hi
      exact (ho.pending loc hl).imp_right fun hg => ⟨rfl, hdir ▸ hg⟩
    · rw [dests_turn_other s (Ne.symm hi)] at hl
      exact .inl hl
  refine ⟨fun i => ?_, ho.disk.current.trans h.current,
    fun l hl => ho.disk.directories l (h.directories l hl), fun i loc hl => ?_,
    fun i j hij loc hl hl' => ?_⟩
  · by_cases hi : i = t.who
    · subst hi
      exact ho.path.trans (h.path _)
    · rw [dests_turn_other s (Ne.symm hi)]
      exact h.path i
  · rcases hpending i loc hl with hl | ⟨-, hl⟩
    · exact hold (h.pending i loc hl)
    · exact hnew hl
  · rcases hpending i loc hl with hi | ⟨hi, hg⟩ <;>
      rcases hpending j loc hl' with hj | ⟨hj, hg'⟩
    · exact h.distinct i j hij loc hi hj
    · exact FileSystem.not_given_of_given (h.pending i loc hi) hg'
    · exact FileSystem.not_given_of_given (h.pending j loc hj) hg
    · exact hij (hi.trans hj.symm)

/-- **A turn of another one** changes nothing in sight. -/
theorem Mirrors.turn_other (hx : s.Mirrors fs dir path i x) (hi : t.who ≠ i) :
    (s.turn t).2.Mirrors fs dir path i x := by
  have ho := own_turn (t := t) h hn
  have hdest := dests_turn_other s hi
  have hle : s.disk.issued ≤ (s.turn t).2.disk.issued := ho.disk.issued
  have hsub : (s.turn t).2.sight fs dir path i ⊆ s.sight fs dir path i :=
    sight_mono hle fun loc hl => .inl (hdest ▸ hl)
  refine ⟨hx.dest.trans hdest.symm, hx.current.trans ho.disk.current.symm, fun l hl => ?_⟩
  rw [hx.lookup l (hsub hl)]
  rcases hl with hl | hl
  · refine (ho.disk.elsewhere l fun hown => hl ?_).symm
    rw [foreign, hdest]
    have hgiven : l ∈ given dir s.disk.issued (s.turn t).2.disk.issued →
        l ∈ given dir 0 (s.turn t).2.disk.issued := fun hg =>
      FileSystem.given_mono dir (Nat.zero_le _) le_rfl hg
    rcases hown with hown | hown | hown | hown
    · exact .inl ⟨t.who, hi, .inl (hown.trans (h.target _))⟩
    · exact .inl ⟨t.who, hi, .inr (hown.trans (h.sidecar _))⟩
    · have hg := h.pending t.who l hown
      exact .inr ⟨FileSystem.given_mono dir le_rfl hle hg, h.distinct t.who i hi l hown⟩
    · rw [h.directory hn] at hown
      exact .inr ⟨hgiven hown, fun hp => FileSystem.not_given_of_given (h.pending i l hp) hown⟩
  · rw [h.directories l hl]
    exact ((h.turn hn t).directories l hl).symm

/-- **A turn of its own** is answered alike and does the same. -/
theorem Mirrors.turn_own (hx : s.Mirrors fs dir path t.who x) :
    (t.demand.run (x.meeting (s.moment t))).1 = (s.turn t).1 ∧
      (s.turn t).2.Mirrors fs dir path t.who (t.demand.run (x.meeting (s.moment t))).2 := by
  have ht := twin_turn h hn hx
  have ho := own_turn (t := t) h hn
  have hdest : (s.turn t).2.dests t.who =
      (t.demand.run ((s.seen t.who).meeting (s.moment t))).2.dest :=
    congrArg OnDisk.dest (seen_turn s t)
  have hsub : (s.turn t).2.sight fs dir path t.who ⊆ s.sight fs dir path t.who :=
    sight_mono ho.disk.issued fun loc hl => h.directory hn t.who ▸ ho.pending loc hl
  exact ⟨ht.answer, ht.dest.trans hdest.symm, ht.disk.current,
    fun l hl => ht.disk.lookup l (hsub hl)⟩

end Turns

/-! ## All turns -/

variable [DecidableEq ι]

/-- One of the destinations fares as one that is alone and gets the same demands at the same
moments: it gives the same answers, and shows the same in the end. -/
structure Undisturbed (s : Shared ι) (i : ι) (x : OnDisk) (turns : List (Turn ι)) : Prop where
  answers : s.told i turns = x.answers (s.asked i turns)
  shown : ∀ m, (((s.after turns).seen i).meeting m).shown =
    ((x.left (s.asked i turns)).meeting m).shown

theorem undisturbed_of_mirrors (hn : Neighbours fs dir path name) (turns : List (Turn ι))
    (h : s.Apart fs dir path) (hx : s.Mirrors fs dir path i x) : s.Undisturbed i x turns := by
  induction turns generalizing s x with
  | nil =>
    refine ⟨rfl, fun m => ?_⟩
    have hshown := OnDisk.shown_on (d := (s.seen i).meeting m)
      (fun l hl => h.trail_target_in_sight hn hl) (fun l hl => h.trail_sidecar_in_sight hn hl)
      (hx.agree m)
    rw [← hx.meeting_eq] at hshown
    exact hshown.symm
  | cons t rest ih =>
    by_cases hi : t.who = i
    · subst hi
      obtain ⟨hanswer, hx'⟩ := hx.turn_own h hn
      have hu := ih (h.turn hn t) hx'
      have hasked : s.asked t.who (t :: rest) =
          (s.moment t, t.demand) :: (s.turn t).2.asked t.who rest := if_pos rfl
      refine ⟨?_, fun m => ?_⟩
      · rw [hasked, told, if_pos rfl, OnDisk.answers, hanswer, hu.answers]
      · rw [hasked]
        exact hu.shown m
    · have hu := ih (h.turn hn t) (hx.turn_other h hn hi)
      have hasked : s.asked i (t :: rest) = (s.turn t).2.asked i rest := if_neg hi
      refine ⟨?_, fun m => ?_⟩
      · rw [hasked, told, if_neg hi, hu.answers]
      · rw [hasked]
        exact hu.shown m

/-- **Destinations on one disk** do not disturb each other. -/
theorem undisturbed_start (hn : Neighbours fs dir path name) (i : ι) (turns : List (Turn ι)) :
    (start path fs).Undisturbed i ⟨.new (path i), fs⟩ turns :=
  undisturbed_of_mirrors hn turns apart_start ⟨rfl, rfl, fun _ _ => rfl⟩

/-! ### Two destinations -/

/-- The demand to make a call, when all is well. -/
def call (b : Bool) (c : OnDisk.Call) : Turn Bool := ⟨b, .call c, ⟨0⟩, []⟩

def pair (p q : String) (b : Bool) : String := if b then q else p

theorem undisturbed_pair :
    Neighbours (.fresh ⟨0⟩) ["work"] (pair "f" "./g") (pair "f" "g") ∧
      (start (pair "f" "./g") (.fresh ⟨0⟩)).Undisturbed true ⟨.new "./g", .fresh ⟨0⟩⟩
        [call false .openSink, call true .openSink, call false (.write [1]), call true (.write [2]),
          call false (.complete true), call true (.complete true), call false (.setEtag "t")] := by
  have hn : Neighbours (.fresh ⟨0⟩) ["work"] (pair "f" "./g") (pair "f" "g") :=
    ⟨by decide, by decide, by decide, by decide, by decide⟩
  exact ⟨hn, undisturbed_start hn true _⟩

/-- Paths with different file names and one path of their directory. -/
structure Siblings (path name : Bool → String) : Prop where
  fileName : ∀ b, (Path.ofText (path b)).fileName? = some (name b)
  directory : (Path.ofText (path false)).directory = (Path.ofText (path true)).directory
  distinct : name false ≠ name true
  not_temporary : ∀ b, FileSystem.isTemporaryName (name b) = false

/-- **Siblings** may disturb each other: one writes its tag in the file of the other, or makes the
directory that the other one needs. -/
theorem siblings_disturbed :
    (Siblings (pair "f" "f.etag") (pair "f" "f.etag") ∧
      ¬ (start (pair "f" "f.etag") (.fresh ⟨0⟩)).Undisturbed true ⟨.new "f.etag", .fresh ⟨0⟩⟩
        [call false (.setEtag "t"), call true (.setLastModified ⟨0⟩)]) ∧
    Siblings (pair "d/f" "d/g") (pair "f" "g") ∧
      ¬ (start (pair "d/f" "d/g") (.fresh ⟨0⟩)).Undisturbed false ⟨.new "d/f", .fresh ⟨0⟩⟩
        [call true .openSink, call false (.setEtag "t")] := by
  refine ⟨⟨⟨by decide, by decide, by decide, by decide⟩, fun h => ?_⟩,
    ⟨by decide, by decide, by decide, by decide⟩, fun h => ?_⟩
  · exact absurd h.answers (by decide +kernel)
  · exact absurd h.answers (by decide +kernel)

end Shared

end Refetch
