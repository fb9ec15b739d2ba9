import Mathlib.Tactic
import Refetch.Progress.Template
/-!
# Faults of templates

A template is read from place to place. `Place.next?` says which characters have a meaning at a
place and where they lead, whatever was read before.

1. A step follows these places. It fails where a character has no meaning, and where a number of
   columns ends that is too great (`steps_step`).
2. The digits of that number are those of the text since the colon of the field (`Traced.step`).
3. So a template has one of three ends, and the text alone decides which: a field is too wide
   (`parse_tooWide_iff`), or a character has no meaning (`parse_malformed_iff`), or it is read.
-/

namespace Refetch.Progress.Template

open Reading (isSpace widthLimit)

/-! ## Places -/

/-- The place after a character in the columns of a field. -/
def afterColumns (c : Char) : Option Place :=
  if c.isDigit ∨ c = '!' then some .width
  else if c = '.' then some .colour
  else if c = '}' then some .text
  else none

/-- The place after a character, if it has a meaning where it stands. -/
def Place.next? (c : Char) : Place → Option Place
  | .text => some (if c = '{' then .opened else if c = '}' then .closed else .text)
  | .closed => if c = '}' then some .text else none
  | .opened =>
    if c = '{' ∨ isSpace c then some .text else if c = '}' ∨ c = ':' then none else some .key
  | .key => some (if isSpace c ∨ c = '}' then .text else if c = ':' then .align else .key)
  | .align => if c = '<' ∨ c = '^' ∨ c = '>' then some .width else afterColumns c
  | .width => afterColumns c
  | .colour => some (if c = '}' then .text else .colour)

/-- The place after some characters, if all of them have a meaning. -/
def walk (p : Place) : List Char → Option Place
  | [] => some p
  | c :: cs => (p.next? c).bind (walk · cs)

theorem walk_append (p : Place) (cs ds : List Char) :
    walk p (cs ++ ds) = (walk p cs).bind (walk · ds) := by
  induction cs generalizing p with
  | nil => rfl
  | cons c cs ih =>
    rw [List.cons_append, walk, walk, Option.bind_assoc]
    exact congrArg _ (funext fun q => ih q)

/-! ## Steps -/

namespace Reading

variable {r r' : Reading} {c : Char}

/-- The number whose digits are under way. -/
def columns (r : Reading) : Nat := Nat.ofDigitChars 10 r.pending.reverse 0

@[simp] theorem adjust_place (r : Reading) (p : Place) (f : Field → Field) :
    (r.adjust p f).place = p := by
  unfold adjust
  split <;> rfl

@[simp] theorem adjust_pending (r : Reading) (p : Place) (f : Field → Field) :
    (r.adjust p f).pending = r.pending := by
  unfold adjust
  split <;> rfl

/-- The columns of a field end with this character, and are too many. -/
structure Overflows (r : Reading) (c : Char) : Prop where
  place : r.place = .align ∨ r.place = .width
  stop : c = '.' ∨ c = '}'
  columns : widthLimit < r.columns

theorem endWidth_cases (r : Reading) (p : Place) :
    widthLimit < r.columns ∧ r.endWidth p = .error .tooWide ∨
      ¬ widthLimit < r.columns ∧ ∃ r', r.endWidth p = .ok r' ∧ r'.place = p := by
  have hfold : r.pending.reverse.foldl (fun n c => n * 10 + (c.toNat - '0'.toNat)) 0 =
      r.columns := by
    rw [columns, Nat.ofDigitChars_eq_foldl]
    simp only [Nat.mul_comm]
  rw [endWidth, hfold]
  by_cases hp : r.pending = []
  · refine .inr ⟨?_, _, if_pos (by simp [hp]), rfl⟩
    simp [columns, hp]
  · rw [if_neg (by simpa using hp)]
    by_cases hw : widthLimit < r.columns
    · exact .inl ⟨hw, if_pos hw⟩
    · exact .inr ⟨hw, _, if_neg hw, by simp⟩

/-- What a step keeps of the number of columns under way. -/
structure Keeps (r : Reading) (c : Char) (r' : Reading) : Prop where
  align : r'.place = .align → r'.pending = []
  width : r'.place = .width → r'.pending = if c.isDigit then c :: r.pending else r.pending

/-- The step follows the places, or meets a fault. -/
inductive Steps (r : Reading) (c : Char) : Except Fault Reading → Prop
  | malformed (h : r.place.next? c = none) : Steps r c (.error .malformed)
  | tooWide (h : Overflows r c) : Steps r c (.error .tooWide)
  | ok {r' : Reading} (h : ¬ Overflows r c) (hp : r.place.next? c = some r'.place)
    (hk : Keeps r c r') : Steps r c (.ok r')

theorem steps_endWidth (hr : r.place = .align ∨ r.place = .width) (hc : c = '.' ∨ c = '}')
    {p : Place} (hn : r.place.next? c = some p) (ha : p ≠ .align) (hw : p ≠ .width) :
    Steps r c (r.endWidth p) := by
  rcases r.endWidth_cases p with ⟨hl, he⟩ | ⟨hl, r', he, hp⟩
  · exact he ▸ .tooWide ⟨hr, hc, hl⟩
  · rw [he]
    exact .ok (fun h => hl h.columns) (hp ▸ hn) ⟨fun h => absurd (hp.symm.trans h) ha,
      fun h => absurd (hp.symm.trans h) hw⟩

theorem steps_shared (hr : r.place = .align ∨ r.place = .width)
    (hn : r.place.next? c = afterColumns c) : Steps r c (step.shared r c) := by
  unfold step.shared
  unfold afterColumns at hn
  split_ifs with hd hmark hpoint hbrace
  · rw [if_pos (.inl hd)] at hn
    refine .ok (fun h => ?_) hn ⟨nofun, fun _ => (if_pos hd).symm⟩
    rcases h.stop with rfl | rfl <;> cases hd
  · rw [if_pos (.inr hmark)] at hn
    subst hmark
    exact .ok (fun h => by simpa using h.stop) (hn.trans (by simp)) ⟨by simp, by simp⟩
  · subst hpoint
    exact steps_endWidth hr (.inl rfl) hn nofun nofun
  · subst hbrace
    exact steps_endWidth hr (.inr rfl) hn nofun nofun
  · refine .malformed (hn.trans ?_)
    rw [if_neg (not_or.2 ⟨hd, hmark⟩), if_neg hpoint, if_neg hbrace]

/-- A step to a place outside of the columns of a field, from another such place. -/
theorem steps_of_outside (hr : r.place ≠ .align ∧ r.place ≠ .width)
    (hn : r.place.next? c = some r'.place) (hk : r'.place = .align → r'.pending = [])
    (hw : r'.place ≠ .width) : Steps r c (.ok r') :=
  .ok (fun h => h.place.elim hr.1 hr.2) hn ⟨hk, fun h => absurd h hw⟩

@[simp] theorem endText_place (r : Reading) : r.endText.place = r.place := by
  unfold endText
  split <;> rfl

/-- **A step follows the places**, unless a character has no meaning or a field gets too wide. -/
theorem steps_step (r : Reading) (c : Char) : Steps r c (r.step c) := by
  unfold step
  cases hp : r.place with
  | text =>
    have ho : r.place ≠ .align ∧ r.place ≠ .width := by simp [hp]
    dsimp only
    split_ifs <;> refine steps_of_outside ho ?_ ?_ ?_ <;> simp [Place.next?, push, *]
  | closed =>
    have ho : r.place ≠ .align ∧ r.place ≠ .width := by simp [hp]
    dsimp only
    split_ifs with hc
    · exact steps_of_outside ho (by simp [hp, Place.next?, hc]) nofun nofun
    · exact .malformed (by simp [hp, Place.next?, hc])
  | opened =>
    have ho : r.place ≠ .align ∧ r.place ≠ .width := by simp [hp]
    dsimp only
    split_ifs with hopen hs hend
    · exact steps_of_outside ho (by simp [hp, Place.next?, push, hopen]) nofun nofun
    · exact steps_of_outside ho (by simp [hp, Place.next?, backtrack, hs]) nofun nofun
    · exact .malformed (by simp [hp, Place.next?, hopen, hs, hend])
    · exact steps_of_outside ho (by simp [hp, Place.next?, push, hopen, hs, hend]) nofun nofun
  | key =>
    have ho : r.place ≠ .align ∧ r.place ≠ .width := by simp [hp]
    dsimp only
    split_ifs with hs hend hcolon
    · exact steps_of_outside ho (by simp [hp, Place.next?, backtrack, hs]) nofun nofun
    · exact steps_of_outside ho (by simp [hp, Place.next?, endKey, hend]) nofun nofun
    · have hnext : Place.next? c .key = some .align := by
        rw [hcolon]
        rfl
      exact steps_of_outside ho (hp ▸ hnext) (fun _ => rfl) nofun
    · exact steps_of_outside ho (by simp [hp, Place.next?, push, hs, hend, hcolon]) nofun nofun
  | colour =>
    have ho : r.place ≠ .align ∧ r.place ≠ .width := by simp [hp]
    dsimp only
    refine steps_of_outside ho ?_ ?_ ?_ <;> split_ifs <;> simp [Place.next?, *]
  | align =>
    have hmark (f : Field → Field) (hc : c = '<' ∨ c = '^' ∨ c = '>') :
        Steps r c (.ok (r.adjust .width f)) := by
      refine .ok (fun h => ?_) (by rw [hp, adjust_place]; exact if_pos hc) ⟨by simp, fun _ => ?_⟩
      · rcases hc with rfl | rfl | rfl <;> simpa using h.stop
      · rcases hc with rfl | rfl | rfl <;> rw [adjust_pending] <;> rfl
    dsimp only
    split_ifs with hl hm hr
    · exact hmark _ (.inl hl)
    · exact hmark _ (.inr (.inl hm))
    · exact hmark _ (.inr (.inr hr))
    · exact steps_shared (.inl hp) (by rw [hp]; exact if_neg (by tauto))
  | width => exact steps_shared (.inr hp) (by rw [hp]; rfl)

theorem next?_of_step (h : r.step c = .ok r') :
    r.place.next? c = some r'.place ∧ Keeps r c r' := by
  have hs := steps_step r c
  rw [h] at hs
  cases hs with
  | ok _ hp hk => exact ⟨hp, hk⟩

theorem fault_of_step {fault : Fault} (h : r.step c = .error fault) :
    fault = .malformed ∧ r.place.next? c = none ∨ fault = .tooWide ∧ Overflows r c := by
  have hs := steps_step r c
  rw [h] at hs
  cases hs with
  | malformed hn => exact .inl ⟨rfl, hn⟩
  | tooWide ho => exact .inr ⟨rfl, ho⟩

/-- A step that does not end the columns comes through them. -/
theorem step_of_width (hn : r.place.next? c = some .width) : ∃ r', r.step c = .ok r' ∧
    r'.place = .width ∧ r'.pending = if c.isDigit then c :: r.pending else r.pending := by
  cases h : r.step c with
  | ok r' =>
    obtain ⟨hp, hk⟩ := next?_of_step h
    have hw : r'.place = .width := Option.some.inj (hp.symm.trans hn)
    exact ⟨r', rfl, hw, hk.width hw⟩
  | error fault =>
    rcases fault_of_step h with ⟨-, hnone⟩ | ⟨-, ho⟩
    · cases hnone.symm.trans hn
    · rcases ho.place with hp | hp <;> rcases ho.stop with rfl | rfl <;> rw [hp] at hn <;> cases hn

/-- Columns that are too many are found where they end. -/
theorem step_of_overflows (h : Overflows r c) : r.step c = .error .tooWide := by
  have hs := steps_step r c
  revert hs
  generalize r.step c = x
  rintro (hn | - | ho)
  · rcases h.place with hp | hp <;> rcases h.stop with rfl | rfl <;> rw [hp] at hn <;> cases hn
  · rfl
  · exact absurd h ho

end Reading

/-! ## Columns -/

open Reading (next?_of_step fault_of_step step_of_width step_of_overflows)

variable {r r' : Reading} {c : Char} {cs ds : List Char}

/-- Columns of a field as they are written: an alignment or none, then digits and marks. -/
def IsColumns (spec : List Char) : Prop := ∃ mark rest, spec = mark ++ rest ∧
  (mark = [] ∨ mark = ['<'] ∨ mark = ['^'] ∨ mark = ['>']) ∧
  ∀ c ∈ rest, c.isDigit = true ∨ c = '!'

/-- Somewhere a field has more columns than can be counted: after its colon, with every character
before having a meaning, they are a greater number. -/
def Overwide (cs : List Char) : Prop := ∃ before spec stop after,
  cs = before ++ spec ++ stop :: after ∧ walk .text before = some .align ∧ IsColumns spec ∧
    (stop = '.' ∨ stop = '}') ∧ 65535 < Nat.ofDigitChars 10 (spec.filter Char.isDigit) 0

theorem next?_eq_width {p : Place} (h : p.next? c = some .width) :
    p = .align ∧ (c = '<' ∨ c = '^' ∨ c = '>') ∨
      (p = .align ∨ p = .width) ∧ (c.isDigit = true ∨ c = '!') := by
  have hafter (h : afterColumns c = some .width) : c.isDigit = true ∨ c = '!' := by
    unfold afterColumns at h
    split_ifs at h with hc
    · exact hc
    · cases h
    · cases h
  cases p with
  | align =>
    simp only [Place.next?] at h
    split_ifs at h with hc
    · exact .inl ⟨rfl, hc⟩
    · exact .inr ⟨.inl rfl, hafter h⟩
  | width => exact .inr ⟨.inr rfl, hafter h⟩
  | _ =>
    simp only [Place.next?] at h
    split_ifs at h <;> cases h

/-- What a reading knows of the text that it has read. -/
structure Traced (cs : List Char) (r : Reading) : Prop where
  place : walk .text cs = some r.place
  /-- In the columns of a field its digits are under way. -/
  columns : r.place = .align ∨ r.place = .width → ∃ before spec, cs = before ++ spec ∧
    walk .text before = some .align ∧ IsColumns spec ∧ (r.place = .align → spec = []) ∧
      r.pending.reverse = spec.filter Char.isDigit

theorem Traced.start : Traced [] .start := ⟨rfl, by rintro (h | h) <;> cases h⟩

theorem Traced.step (h : Traced cs r) (hs : r.step c = .ok r') : Traced (cs ++ [c]) r' := by
  obtain ⟨hp, hk⟩ := next?_of_step hs
  have hwalk : walk .text (cs ++ [c]) = some r'.place := by
    rw [walk_append, h.place]
    simp [walk, hp]
  refine ⟨hwalk, ?_⟩
  rintro (ha | hw)
  · exact ⟨cs ++ [c], [], (List.append_nil _).symm, ha ▸ hwalk, ⟨[], [], rfl, .inl rfl, nofun⟩,
      fun _ => rfl, by rw [hk.align ha]; rfl⟩
  · have hnot : r'.place ≠ .align := by simp [hw]
    rcases next?_eq_width (hw ▸ hp) with ⟨ha, hc⟩ | ⟨ha, hc⟩
    · -- an alignment begins the columns
      obtain ⟨before, spec, hcs, hb, -, hnil, hpend⟩ := h.columns (.inl ha)
      obtain rfl := hnil ha
      have hd : c.isDigit = false := by rcases hc with rfl | rfl | rfl <;> rfl
      refine ⟨before, [c], by simp [hcs], hb, ⟨[c], [], rfl, by simp [hc], nofun⟩,
        fun h => absurd h hnot, ?_⟩
      rw [hk.width hw, hd]
      simpa [hd] using hpend
    · -- a digit or a mark goes on with them
      obtain ⟨before, spec, hcs, hb, ⟨mark, rest, rfl, hmark, hrest⟩, -, hpend⟩ := h.columns ha
      refine ⟨before, mark ++ rest ++ [c], by simp [hcs], hb,
        ⟨mark, rest ++ [c], List.append_assoc .., hmark, ?_⟩, fun h => absurd h hnot, ?_⟩
      · simpa [or_imp, forall_and] using ⟨hrest, hc⟩
      · rw [hk.width hw, List.filter_append, ← hpend, List.filter_singleton]
        split <;> simp_all

/-! ## Faults -/

/-- **Faults are in the text.** -/
theorem Traced.read (h : Traced cs r) (ds : List Char) :
    (read r ds = .error .tooWide → Overwide (cs ++ ds)) ∧
    (read r ds = .error .malformed → walk .text (cs ++ ds) = none) ∧
    ∀ t, read r ds = .ok t → walk .text (cs ++ ds) ≠ none := by
  induction ds generalizing cs r with
  | nil => exact ⟨nofun, nofun, fun t _ => by simp [h.place]⟩
  | cons c ds ih =>
    rw [Template.read]
    cases hs : r.step c with
    | ok r' =>
      have := ih (h.step hs)
      rwa [List.append_assoc] at this
    | error fault =>
      rcases fault_of_step hs with ⟨rfl, hn⟩ | ⟨rfl, ho⟩
      · refine ⟨nofun, fun _ => ?_, nofun⟩
        rw [walk_append, h.place]
        simp [walk, hn]
      · refine ⟨fun _ => ?_, nofun, nofun⟩
        obtain ⟨before, spec, hcs, hb, hspec, -, hpend⟩ := h.columns ho.place
        refine ⟨before, spec, c, ds, by rw [hcs], hb, hspec, ho.stop, ?_⟩
        rw [← hpend]
        exact ho.columns

/-- Where the characters have a meaning, reading comes through, unless a field is too wide. -/
theorem Traced.read_append (h : Traced cs r) {p : Place} (hw : walk .text (cs ++ ds) = some p)
    (es : List Char) : Template.read r (ds ++ es) = .error .tooWide ∨
      ∃ r', Traced (cs ++ ds) r' ∧ Template.read r (ds ++ es) = Template.read r' es := by
  induction ds generalizing cs r with
  | nil => exact .inr ⟨r, by rwa [List.append_nil], rfl⟩
  | cons c ds ih =>
    rw [List.cons_append, Template.read]
    cases hs : r.step c with
    | ok r' =>
      have := ih (h.step hs) (by rwa [List.append_assoc])
      rwa [List.append_assoc] at this
    | error fault =>
      rcases fault_of_step hs with ⟨rfl, hn⟩ | ⟨rfl, -⟩
      · rw [walk_append, h.place] at hw
        simp [walk, hn] at hw
      · exact .inl rfl

/-- Digits and marks are read one by one. -/
theorem read_digits (hr : r.place = .align ∨ r.place = .width)
    (hc : ∀ c ∈ cs, c.isDigit = true ∨ c = '!') (ds : List Char) :
    ∃ r', read r (cs ++ ds) = read r' ds ∧ (r'.place = .align ∨ r'.place = .width) ∧
      r'.pending.reverse = r.pending.reverse ++ cs.filter Char.isDigit := by
  induction cs generalizing r with
  | nil => exact ⟨r, rfl, hr, (List.append_nil _).symm⟩
  | cons c cs ih =>
    obtain ⟨hc, hcs⟩ := List.forall_mem_cons.1 hc
    have hn : r.place.next? c = some .width := by
      have hm : ¬ (c = '<' ∨ c = '^' ∨ c = '>') := by
        rintro (rfl | rfl | rfl) <;> simp at hc
      rcases hr with hr | hr <;> rw [hr]
      · exact (if_neg hm).trans (if_pos hc)
      · exact if_pos hc
    obtain ⟨r₁, hs, hp, hpend⟩ := step_of_width hn
    obtain ⟨r', hread, hr', hpend'⟩ := ih (.inr hp) hcs
    refine ⟨r', ?_, hr', ?_⟩
    · rw [List.cons_append, read, hs]
      exact hread
    · rw [hpend', hpend, List.filter_cons]
      split <;> simp

/-- Columns are read with their alignment. -/
theorem read_columns (hr : r.place = .align) (hnil : r.pending = []) (hc : IsColumns cs)
    (ds : List Char) : ∃ r', read r (cs ++ ds) = read r' ds ∧
      (r'.place = .align ∨ r'.place = .width) ∧ r'.pending.reverse = cs.filter Char.isDigit := by
  obtain ⟨mark, rest, rfl, hmark, hrest⟩ := hc
  have hmarked {m : Char} (hm : m = '<' ∨ m = '^' ∨ m = '>') : ∃ r',
      read r ([m] ++ rest ++ ds) = read r' ds ∧ (r'.place = .align ∨ r'.place = .width) ∧
        r'.pending.reverse = ([m] ++ rest).filter Char.isDigit := by
    have hd : m.isDigit = false := by rcases hm with rfl | rfl | rfl <;> rfl
    obtain ⟨r₁, hs, hp, hpend⟩ := step_of_width (r := r) (c := m) (by rw [hr]; exact if_pos hm)
    obtain ⟨r', hread, hr', hpend'⟩ := read_digits (.inr hp) hrest ds
    refine ⟨r', ?_, hr', ?_⟩
    · rw [List.append_assoc, List.singleton_append, read, hs]
      exact hread
    · rw [hpend', hpend, hd, hnil]
      simp [hd]
  rcases hmark with rfl | rfl | rfl | rfl
  · obtain ⟨r', hread, hr', hpend⟩ := read_digits (.inl hr) hrest ds
    exact ⟨r', hread, hr', by simpa [hnil] using hpend⟩
  · exact hmarked (.inl rfl)
  · exact hmarked (.inr (.inl rfl))
  · exact hmarked (.inr (.inr rfl))

/-- **A field that is too wide** is met, or another one before it. -/
theorem read_of_overwide (h : Overwide cs) : read .start cs = .error .tooWide := by
  obtain ⟨before, spec, stop, after, rfl, hb, hspec, hstop, hlimit⟩ := h
  rw [List.append_assoc]
  rcases Traced.start.read_append hb (spec ++ stop :: after) with he | ⟨r, ht, he⟩
  · exact he
  · have hr : r.place = .align := Option.some.inj (ht.place.symm.trans hb)
    obtain ⟨-, empty, -, -, -, hempty, hpend⟩ := ht.columns (.inl hr)
    rw [hempty hr, List.filter_nil, List.reverse_eq_nil_iff] at hpend
    obtain ⟨r', hread, hr', hpend'⟩ := read_columns hr hpend hspec (stop :: after)
    have ho : r'.Overflows stop := ⟨hr', hstop, by rwa [Reading.columns, hpend']⟩
    rw [he, hread, read, step_of_overflows ho]

/-! ## The ends of a template -/

variable {text : String}

theorem parse_tooWide_iff : parse text = .error .tooWide ↔ Overwide text.toList :=
  ⟨(Traced.start.read text.toList).1, read_of_overwide⟩

/-- A character has no meaning where it stands, and no field before it is too wide. -/
def Malformed (cs : List Char) : Prop := walk .text cs = none ∧ ¬ Overwide cs

theorem parse_malformed_iff : parse text = .error .malformed ↔ Malformed text.toList := by
  obtain ⟨-, hmalformed, hok⟩ := Traced.start.read text.toList
  constructor
  · intro h
    refine ⟨hmalformed h, fun ho => ?_⟩
    rw [parse_tooWide_iff.2 ho] at h
    cases h
  · rintro ⟨hw, ho⟩
    cases h : parse text with
    | ok t => exact absurd hw (hok t h)
    | error fault =>
      cases fault with
      | malformed => rfl
      | tooWide => exact absurd (parse_tooWide_iff.1 h) ho

end Refetch.Progress.Template
