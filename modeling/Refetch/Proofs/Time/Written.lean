import Refetch.Proofs.Time.Days
/-!
# Fields and their written forms

Each of the three readers reads exactly what is written in its form.

1. Digits and names are read one by one (`two?_eq_some_iff`, `four?_eq_some_iff`,
   `indexOf?_eq_some_iff`).
2. Put together, they are the forms (`readFixed_eq_some_iff`, `readFull_eq_some_iff`,
   `readAsctime_eq_some_iff`).
3. The forms differ in length, so that no reader stands in the way of another
   (`readFields_eq_some_iff`).
-/

namespace Refetch.HttpDate

open Calendar

/-! ## Digits -/

theorem digit?_digit (n : Nat) : digit? (digit n) = some (n % 10) := by
  have h : ∀ k < 10, digit? (Char.ofNat ('0'.toNat + k)) = some k := by decide
  exact h _ (Nat.mod_lt n (by decide))

theorem digit?_eq_some_iff {c : Char} {n : Nat} : digit? c = some n ↔ n < 10 ∧ c = digit n := by
  constructor
  · intro h
    obtain ⟨hc, hn⟩ := Option.ite_none_right_eq_some.1 h
    obtain ⟨hl, hu⟩ : 48 ≤ c.toNat ∧ c.toNat ≤ 57 := by
      rw [Char.isDigit, Bool.and_eq_true, decide_eq_true_eq, decide_eq_true_eq] at hc
      exact hc
    have hz : '0'.toNat = 48 := rfl
    obtain rfl : c.toNat - '0'.toNat = n := Option.some.inj hn
    refine ⟨by omega, ?_⟩
    rw [digit, show '0'.toNat + (c.toNat - '0'.toNat) % 10 = c.toNat by omega, Char.ofNat_toNat]
  · rintro ⟨hn, rfl⟩
    rw [digit?_digit, Nat.mod_eq_of_lt hn]

theorem two_congr {m n : Nat} (h : m % 100 = n % 100) : two m = two n := by
  rw [two, two, digit, digit, digit, digit, show m / 10 % 10 = n / 10 % 10 by omega,
    show m % 10 = n % 10 by omega]

theorem two?_eq_some_iff {a b : Char} {n : Nat} :
    two? a b = some n ↔ n < 100 ∧ [a, b] = two n := by
  simp only [two?, Option.bind_eq_bind, Option.bind_eq_some_iff, digit?_eq_some_iff]
  constructor
  · rintro ⟨x, ⟨hx, rfl⟩, y, ⟨hy, rfl⟩, hn⟩
    obtain rfl : x * 10 + y = n := Option.some.inj hn
    refine ⟨by omega, ?_⟩
    rw [two, show (x * 10 + y) / 10 = x by omega]
    congr 2
    rw [digit, digit, show (x * 10 + y) % 10 = y % 10 by omega]
  · rintro ⟨hn, h⟩
    obtain ⟨rfl, rfl⟩ : a = digit (n / 10) ∧ b = digit n := by simpa [two] using h
    refine ⟨n / 10, ⟨by omega, rfl⟩, n % 10, ⟨Nat.mod_lt _ (by decide), ?_⟩, ?_⟩
    · rw [digit, digit, Nat.mod_mod]
    · exact congrArg some (Nat.div_add_mod' n 10)

theorem four?_eq_some_iff {a b c d : Char} {n : Nat} :
    four? a b c d = some n ↔ n < 10000 ∧ [a, b, c, d] = four n := by
  simp only [four?, Option.bind_eq_bind, Option.bind_eq_some_iff, two?_eq_some_iff]
  constructor
  · rintro ⟨x, ⟨hx, hab⟩, y, ⟨hy, hcd⟩, hn⟩
    obtain rfl : x * 100 + y = n := Option.some.inj hn
    refine ⟨by omega, ?_⟩
    rw [four, show (x * 100 + y) / 100 = x by omega,
      two_congr (m := x * 100 + y) (n := y) (by omega), ← hab, ← hcd]
    rfl
  · rintro ⟨hn, h⟩
    rw [four, two_congr (Nat.mod_mod n 100).symm] at h
    refine ⟨n / 100, ⟨by omega, ?_⟩, n % 100, ⟨Nat.mod_lt _ (by decide), ?_⟩, ?_⟩
    · exact congrArg (List.take 2) h
    · exact congrArg (List.drop 2) h
    · exact congrArg some (Nat.div_add_mod' n 100)

/-- Of a longer number the last two digits are read. -/
theorem two?_digits (n : Nat) : two? (digit (n / 10)) (digit n) = some (n % 100) :=
  two?_eq_some_iff.2 ⟨Nat.mod_lt n (by decide), two_congr (Nat.mod_mod n 100).symm⟩

theorem two?_two {n : Nat} (h : n < 100) : two? (digit (n / 10)) (digit n) = some n := by
  rw [two?_digits, Nat.mod_eq_of_lt h]

theorem four?_four {n : Nat} (h : n < 10000) :
    four? (digit (n / 100 / 10)) (digit (n / 100)) (digit (n / 10)) (digit n) = some n :=
  four?_eq_some_iff.2 ⟨h, rfl⟩

/-! ## Names -/

theorem indexOf?_eq_some_iff {names : List String} (hn : names.Nodup) {cs : List Char} {i : Nat} :
    indexOf? names cs = some i ↔ i < names.length ∧ cs = nameAt names i := by
  rw [indexOf?, List.findIdx?_eq_some_iff_getElem]
  constructor
  · rintro ⟨hi, he, -⟩
    refine ⟨hi, ?_⟩
    rw [nameAt, List.getD_eq_getElem _ _ hi]
    exact (eq_of_beq he).symm
  · rintro ⟨hi, rfl⟩
    have hg : nameAt names i = names[i].toList := by rw [nameAt, List.getD_eq_getElem _ _ hi]
    refine ⟨hi, by simp [hg], fun j hj => ?_⟩
    intro he
    have hij : names[j] = names[i] := String.toList_inj.1 ((eq_of_beq he).trans hg)
    exact absurd (hn.getElem_inj_iff.1 hij) (Nat.ne_of_lt hj)

theorem nodup_weekdayNames : weekdayNames.Nodup := by decide

theorem nodup_fullWeekdayNames : fullWeekdayNames.Nodup := by decide

theorem nodup_monthNames : monthNames.Nodup := by decide

/-- A short name has three letters, and is read by them. -/
theorem exists_indexOf? {names : List String} (hn : names.Nodup)
    (h : ∀ name ∈ names, name.toList.length = 3) {i : Nat} (hi : i < names.length) :
    ∃ a b c, nameAt names i = [a, b, c] ∧ indexOf? names [a, b, c] = some i := by
  have hl : (nameAt names i).length = 3 := by
    rw [nameAt, List.getD_eq_getElem _ _ hi]
    exact h _ (List.getElem_mem hi)
  obtain ⟨a, b, c, he⟩ := List.length_eq_three.1 hl
  exact ⟨a, b, c, he, (indexOf?_eq_some_iff hn).2 ⟨hi, he.symm⟩⟩

/-! ## Forms -/

/-- The fields have places in the forms: the names exist, and the numbers have no more digits than
there are places. -/
structure Fields.Fits (f : Fields) : Prop where
  weekday : f.weekday < 7
  month : 1 ≤ f.date.month ∧ f.date.month ≤ 12
  day : f.date.day < 100
  year : f.date.year < 10000
  hour : f.hour < 100
  minute : f.minute < 100
  second : f.second < 100

theorem getD_monthLengths_le (year i : Nat) : (monthLengths year).getD i 0 ≤ 31 := by
  have hall : ∀ m ∈ monthLengths year, m ≤ 31 := by
    unfold monthLengths
    cases isLeap year <;> decide
  by_cases hi : i < (monthLengths year).length
  · rw [List.getD_eq_getElem _ _ hi]
    exact hall _ (List.getElem_mem hi)
  · rw [List.getD_eq_default _ _ (Nat.le_of_not_lt hi)]
    exact Nat.zero_le _

theorem Fields.Valid.fits {f : Fields} (h : f.Valid) : f.Fits := by
  obtain ⟨⟨-, hml, hmu, -, hd⟩, hy, hh, hm, hs, hw⟩ := h
  have hl := getD_monthLengths_le f.date.year (f.date.month - 1)
  refine ⟨?_, ⟨hml, hmu⟩, by omega, by omega, by omega, by omega, by omega⟩
  rw [hw]
  exact Nat.mod_lt _ (by decide)

namespace Fields.Fits

variable {f : Fields}

theorem weekdayName (h : f.Fits) : ∃ a b c, nameAt weekdayNames f.weekday = [a, b, c] ∧
    indexOf? weekdayNames [a, b, c] = some f.weekday :=
  exists_indexOf? nodup_weekdayNames (by decide) h.weekday

theorem monthName (h : f.Fits) : ∃ a b c, nameAt monthNames (f.date.month - 1) = [a, b, c] ∧
    indexOf? monthNames [a, b, c] = some (f.date.month - 1) := by
  have hlt : f.date.month - 1 < 12 := by
    have := h.month
    omega
  exact exists_indexOf? nodup_monthNames (by decide) hlt

/-- Months count from one, their names from zero. -/
theorem rebuilt (h : f.Fits) : (⟨f.weekday, ⟨f.date.year, f.date.month - 1 + 1, f.date.day⟩,
    f.hour, f.minute, f.second⟩ : Fields) = f := by
  rw [Nat.sub_add_cancel h.month.1]

end Fields.Fits

/-- What follows the weekday in the form with the full weekday, with any character between year and
hour. -/
def fullTail (gap : Char) (f : Fields) : List Char :=
  two f.date.day ++ '-' :: nameAt monthNames (f.date.month - 1) ++ '-' :: two f.date.year ++
    gap :: clock f ++ " GMT".toList

def renderFullWith (gap : Char) (f : Fields) : List Char :=
  nameAt fullWeekdayNames f.weekday ++ ',' :: ' ' :: fullTail gap f

/-- The character between year and hour is a space. -/
theorem renderFull_eq (f : Fields) : renderFull f = renderFullWith ' ' f := by
  simp [renderFull, renderFullWith, fullTail]

/-- The text is one of the forms of these fields. -/
inductive Form (f : Fields) : List Char → Prop
  | fixed : Form f (renderFixed f)
  /-- Two digits name a year of one century. -/
  | full (gap : Char) (hg : gap.toNat < 0x80) (hl : 1970 ≤ f.date.year)
    (hu : f.date.year ≤ 2069) : Form f (renderFullWith gap f)
  | asctime (pad : Char) (hp : pad = ' ' ∨ pad = '0') : Form f (renderAsctime pad f)

/-! ## Readers -/

variable {f : Fields} {cs : List Char}

theorem readFixed_eq_some_iff : readFixed cs = some f ↔ f.Fits ∧ cs = renderFixed f := by
  constructor
  · fun_cases readFixed cs with
    | case1 w1 w2 w3 d1 d2 m1 m2 m3 y1 y2 y3 y4 h1 h2 i1 i2 s1 s2 =>
      simp only [Option.bind_eq_bind, Option.bind_eq_some_iff,
        indexOf?_eq_some_iff nodup_weekdayNames, indexOf?_eq_some_iff nodup_monthNames,
        two?_eq_some_iff, four?_eq_some_iff]
      rintro ⟨w, ⟨hw, ew⟩, m, ⟨hm, em⟩, y, ⟨hy, ey⟩, d, ⟨hd, ed⟩, h, ⟨hh, eh⟩, i, ⟨hi, ei⟩, s,
        ⟨hs, es⟩, hf⟩
      obtain rfl := Option.some.inj hf
      refine ⟨⟨hw, ⟨Nat.le_add_left .., hm⟩, hd, hy, hh, hi, hs⟩, ?_⟩
      rw [renderFixed, clock, Nat.add_sub_cancel, ← ew, ← em, ← ey, ← ed, ← eh, ← ei, ← es]
      rfl
    | case2 => simp
  · rintro ⟨hf, rfl⟩
    obtain ⟨a, b, c, hw, hiw⟩ := hf.weekdayName
    obtain ⟨k, l, m, hm, him⟩ := hf.monthName
    have hr : renderFixed f = [a, b, c, ',', ' ', digit (f.date.day / 10), digit f.date.day, ' ',
        k, l, m, ' ', digit (f.date.year / 100 / 10), digit (f.date.year / 100),
        digit (f.date.year / 10), digit f.date.year, ' ', digit (f.hour / 10), digit f.hour, ':',
        digit (f.minute / 10), digit f.minute, ':', digit (f.second / 10), digit f.second, ' ',
        'G', 'M', 'T'] := by
      rw [renderFixed, hw, hm]
      rfl
    rw [hr, readFixed, hiw, him, four?_four hf.year, two?_two hf.day, two?_two hf.hour,
      two?_two hf.minute, two?_two hf.second]
    exact congrArg some hf.rebuilt

/-- Two digits name a year of the century from 1970 to 2069, with these last digits. -/
theorem fullYear_spec {y : Nat} (hy : y < 100) :
    1970 ≤ fullYear y ∧ fullYear y ≤ 2069 ∧ fullYear y % 100 = y := by
  unfold fullYear
  split <;> omega

theorem fullYear_mod {year : Nat} (hl : 1970 ≤ year) (hu : year ≤ 2069) :
    fullYear (year % 100) = year := by
  unfold fullYear
  split <;> omega

theorem readFullTail_eq_some_iff {w : Nat} (hw : w < 7) : readFullTail w cs = some f ↔
    f.Fits ∧ f.weekday = w ∧ 1970 ≤ f.date.year ∧ f.date.year ≤ 2069 ∧
      ∃ gap : Char, gap.toNat < 0x80 ∧ cs = fullTail gap f := by
  constructor
  · fun_cases readFullTail w cs with
    | case1 d1 d2 m1 m2 m3 y1 y2 gap h1 h2 i1 i2 s1 s2 =>
      simp only [Option.bind_eq_bind, Option.bind_eq_some_iff, Option.guard_eq_some',
        indexOf?_eq_some_iff nodup_monthNames, two?_eq_some_iff]
      rintro ⟨-, hgap, m, ⟨hm, em⟩, y, ⟨hy, ey⟩, d, ⟨hd, ed⟩, h, ⟨hh, eh⟩, i, ⟨hi, ei⟩, s,
        ⟨hs, es⟩, hf⟩
      obtain ⟨hl, hu, hlast⟩ := fullYear_spec hy
      obtain rfl := Option.some.inj hf
      refine ⟨⟨hw, ⟨Nat.le_add_left .., hm⟩, hd, Nat.lt_of_le_of_lt hu (by decide), hh, hi, hs⟩,
        rfl, hl, hu, gap, hgap, ?_⟩
      have ht : two (fullYear y) = two y := two_congr (by rw [hlast, Nat.mod_eq_of_lt hy])
      rw [fullTail, clock, Nat.add_sub_cancel, ht, ← em, ← ey, ← ed, ← eh, ← ei, ← es]
      rfl
    | case2 => simp
  · rintro ⟨hf, rfl, hl, hu, gap, hg, rfl⟩
    obtain ⟨k, l, m, hm, him⟩ := hf.monthName
    have hr : fullTail gap f = [digit (f.date.day / 10), digit f.date.day, '-', k, l, m, '-',
        digit (f.date.year / 10), digit f.date.year, gap, digit (f.hour / 10), digit f.hour, ':',
        digit (f.minute / 10), digit f.minute, ':', digit (f.second / 10), digit f.second, ' ',
        'G', 'M', 'T'] := by
      rw [fullTail, hm]
      rfl
    have hguard : (guard (gap.toNat < 0x80) : Option Unit) = some () :=
      (Option.guard_eq_some' ()).2 hg
    rw [hr, readFullTail, hguard, him, two?_digits f.date.year, two?_two hf.day,
      two?_two hf.hour, two?_two hf.minute, two?_two hf.second]
    refine Eq.trans (congrArg some ?_) (congrArg some hf.rebuilt)
    rw [fullYear_mod hl hu]

theorem readFull_eq_some_iff : readFull cs = some f ↔ f.Fits ∧ 1970 ≤ f.date.year ∧
    f.date.year ≤ 2069 ∧ ∃ gap : Char, gap.toNat < 0x80 ∧ cs = renderFullWith gap f := by
  constructor
  · intro h
    obtain ⟨w, hw, ht⟩ := Option.bind_eq_some_iff.1 h
    obtain ⟨hw7, hname⟩ := (indexOf?_eq_some_iff nodup_fullWeekdayNames).1 hw
    split at ht
    · rename_i rest hrest
      obtain ⟨hf, rfl, hl, hu, gap, hg, rfl⟩ := (readFullTail_eq_some_iff hw7).1 ht
      refine ⟨hf, hl, hu, gap, hg, ?_⟩
      rw [← List.takeWhile_append_dropWhile (p := (· != ',')) (l := cs), hname, hrest]
      rfl
    · cases ht
  · rintro ⟨hf, hl, hu, gap, hg, rfl⟩
    -- the name ends at the comma, since no name has one
    have hname : ∀ c ∈ nameAt fullWeekdayNames f.weekday, (c != ',') = true :=
      forall_mem_nameAt (by decide) _
    have ht : (renderFullWith gap f).takeWhile (· != ',') = nameAt fullWeekdayNames f.weekday := by
      rw [renderFullWith, List.takeWhile_append_of_pos hname]
      exact List.append_nil _
    have hd : (renderFullWith gap f).dropWhile (· != ',') = ',' :: ' ' :: fullTail gap f := by
      rw [renderFullWith, List.dropWhile_append_of_pos hname]
      rfl
    have hw : indexOf? fullWeekdayNames (nameAt fullWeekdayNames f.weekday) = some f.weekday :=
      (indexOf?_eq_some_iff nodup_fullWeekdayNames).2 ⟨hf.weekday, rfl⟩
    rw [readFull, ht, hd, hw]
    exact (readFullTail_eq_some_iff hf.weekday).2 ⟨hf, rfl, hl, hu, gap, hg, rfl⟩

/-- The day has two places, the first of them filled up with a space or a zero. -/
def padded (pad : Char) (day : Nat) : List Char :=
  [if day < 10 then pad else digit (day / 10), digit day]

theorem padded_eq_iff {a b : Char} {day : Nat} :
    (if a = ' ' then digit? b else two? a b) = some day ↔
      day < 100 ∧ ∃ pad, (pad = ' ' ∨ pad = '0') ∧ [a, b] = padded pad day := by
  have hzero {n : Nat} (h : n < 10) : digit (n / 10) = '0' := by
    rw [Nat.div_eq_of_lt h]
    rfl
  have hspace (n : Nat) : digit n ≠ ' ' := by
    have h : ∀ k < 10, Char.ofNat ('0'.toNat + k) ≠ ' ' := by decide
    exact h _ (Nat.mod_lt n (by decide))
  split
  · rename_i ha
    subst ha
    rw [digit?_eq_some_iff]
    constructor
    · rintro ⟨hd, rfl⟩
      exact ⟨by omega, ' ', .inl rfl, by rw [padded, if_pos hd]⟩
    · rintro ⟨hd, pad, hp, h⟩
      obtain ⟨hpad, rfl⟩ : ' ' = (if day < 10 then pad else digit (day / 10)) ∧ b = digit day := by
        simpa [padded] using h
      split at hpad
      · exact ⟨‹_›, rfl⟩
      · exact absurd hpad.symm (hspace _)
  · rename_i ha
    rw [two?_eq_some_iff]
    refine and_congr_right fun hd => ?_
    constructor
    · intro h
      refine ⟨'0', .inr rfl, ?_⟩
      rw [h, two, padded]
      split
      · rw [hzero ‹_›]
      · rfl
    · rintro ⟨pad, hp, h⟩
      obtain ⟨rfl, rfl⟩ : a = (if day < 10 then pad else digit (day / 10)) ∧ b = digit day := by
        simpa [padded] using h
      split at ha
      · rw [if_pos ‹_›, hp.resolve_left ha, two, hzero ‹_›]
      · rw [if_neg ‹_›, two]

/-- The place of the day is read on its own, however it is filled up. -/
theorem readAsctime_eq (w1 w2 w3 m1 m2 m3 d1 d2 h1 h2 i1 i2 s1 s2 y1 y2 y3 y4 : Char) :
    readAsctime [w1, w2, w3, ' ', m1, m2, m3, ' ', d1, d2, ' ', h1, h2, ':', i1, i2, ':', s1, s2,
      ' ', y1, y2, y3, y4] =
    (indexOf? weekdayNames [w1, w2, w3]).bind fun weekday =>
      (indexOf? monthNames [m1, m2, m3]).bind fun month =>
      (if d1 = ' ' then digit? d2 else two? d1 d2).bind fun day =>
      (four? y1 y2 y3 y4).bind fun year => (two? h1 h2).bind fun hour =>
      (two? i1 i2).bind fun minute => (two? s1 s2).bind fun second =>
      some ⟨weekday, ⟨year, month + 1, day⟩, hour, minute, second⟩ := by
  rw [readAsctime]
  by_cases h : d1 = ' '
  · subst h
    rfl
  · simp only [if_neg h]
    rfl

theorem renderAsctime_eq (pad : Char) (f : Fields) : renderAsctime pad f =
    nameAt weekdayNames f.weekday ++ ' ' :: nameAt monthNames (f.date.month - 1) ++ ' ' ::
      padded pad f.date.day ++ ' ' :: clock f ++ ' ' :: four f.date.year := by
  simp [renderAsctime, padded]

theorem readAsctime_eq_some_iff : readAsctime cs = some f ↔
    f.Fits ∧ ∃ pad, (pad = ' ' ∨ pad = '0') ∧ cs = renderAsctime pad f := by
  constructor
  · intro hr
    unfold readAsctime at hr
    split at hr
    · rename_i w1 w2 w3 m1 m2 m3 d1 d2 h1 h2 i1 i2 s1 s2 y1 y2 y3 y4
      have hr :=
        (readAsctime_eq w1 w2 w3 m1 m2 m3 d1 d2 h1 h2 i1 i2 s1 s2 y1 y2 y3 y4).symm.trans hr
      simp only [Option.bind_eq_some_iff, indexOf?_eq_some_iff nodup_weekdayNames,
        indexOf?_eq_some_iff nodup_monthNames, padded_eq_iff, two?_eq_some_iff,
        four?_eq_some_iff] at hr
      obtain ⟨w, ⟨hw, ew⟩, m, ⟨hm, em⟩, d, ⟨hd, pad, hp, ed⟩, y, ⟨hy, ey⟩, h, ⟨hh, eh⟩, i,
        ⟨hi, ei⟩, s, ⟨hs, es⟩, hf⟩ := hr
      obtain rfl := Option.some.inj hf
      refine ⟨⟨hw, ⟨Nat.le_add_left .., hm⟩, hd, hy, hh, hi, hs⟩, pad, hp, ?_⟩
      rw [renderAsctime_eq, clock, Nat.add_sub_cancel, ← ew, ← em, ← ed, ← ey, ← eh, ← ei, ← es]
      rfl
    · cases hr
  · rintro ⟨hf, pad, hp, rfl⟩
    obtain ⟨a, b, c, hw, hiw⟩ := hf.weekdayName
    obtain ⟨k, l, m, hm, him⟩ := hf.monthName
    have hday := padded_eq_iff.2 ⟨hf.day, pad, hp, rfl⟩
    have hr : renderAsctime pad f = [a, b, c, ' ', k, l, m, ' ',
        if f.date.day < 10 then pad else digit (f.date.day / 10), digit f.date.day, ' ',
        digit (f.hour / 10), digit f.hour, ':', digit (f.minute / 10), digit f.minute, ':',
        digit (f.second / 10), digit f.second, ' ', digit (f.date.year / 100 / 10),
        digit (f.date.year / 100), digit (f.date.year / 10), digit f.date.year] := by
      rw [renderAsctime_eq, hw, hm]
      rfl
    rw [hr, readAsctime_eq, hiw, him, hday, four?_four hf.year, two?_two hf.hour,
      two?_two hf.minute, two?_two hf.second]
    exact congrArg some hf.rebuilt

/-! ## All readers -/

/-- The forms have different lengths. -/
theorem length_renderFixed (hf : f.Fits) : (renderFixed f).length = 29 := by
  obtain ⟨a, b, c, hw, -⟩ := hf.weekdayName
  obtain ⟨k, l, m, hm, -⟩ := hf.monthName
  rw [renderFixed, hw, hm]
  rfl

theorem length_renderAsctime (hf : f.Fits) (pad : Char) : (renderAsctime pad f).length = 24 := by
  obtain ⟨a, b, c, hw, -⟩ := hf.weekdayName
  obtain ⟨k, l, m, hm, -⟩ := hf.monthName
  rw [renderAsctime, hw, hm]
  rfl

theorem length_renderFullWith (hf : f.Fits) (gap : Char) :
    30 ≤ (renderFullWith gap f).length := by
  obtain ⟨k, l, m, hm, -⟩ := hf.monthName
  have hw : 6 ≤ (nameAt fullWeekdayNames f.weekday).length := by
    have h : ∀ i < 7, 6 ≤ (nameAt fullWeekdayNames i).length := by decide
    exact h _ hf.weekday
  have ht : (fullTail gap f).length = 22 := by
    rw [fullTail, hm]
    rfl
  simp only [renderFullWith, List.length_append, List.length_cons, ht]
  omega

/-- **The readers together** read what is written in one of the forms. -/
theorem readFields_eq_some_iff : readFields cs = some f ↔ f.Fits ∧ Form f cs := by
  constructor
  · intro h
    simp only [readFields, Option.orElse_eq_some] at h
    rcases h with h | ⟨-, h | ⟨-, h⟩⟩
    · obtain ⟨hf, rfl⟩ := readFixed_eq_some_iff.1 h
      exact ⟨hf, .fixed⟩
    · obtain ⟨hf, hl, hu, gap, hg, rfl⟩ := readFull_eq_some_iff.1 h
      exact ⟨hf, .full gap hg hl hu⟩
    · obtain ⟨hf, pad, hp, rfl⟩ := readAsctime_eq_some_iff.1 h
      exact ⟨hf, .asctime pad hp⟩
  · rintro ⟨hf, hform⟩
    have hfixed (h : cs.length ≠ 29) : readFixed cs = none := by
      refine Option.eq_none_iff_forall_ne_some.2 fun g hg => h ?_
      obtain ⟨hfit, rfl⟩ := readFixed_eq_some_iff.1 hg
      exact length_renderFixed hfit
    have hfull (h : cs.length < 30) : readFull cs = none := by
      refine Option.eq_none_iff_forall_ne_some.2 fun g hg => ?_
      obtain ⟨hfit, -, -, gap, -, rfl⟩ := readFull_eq_some_iff.1 hg
      have := length_renderFullWith hfit gap
      omega
    cases hform with
    | fixed =>
      rw [readFields, readFixed_eq_some_iff.2 ⟨hf, rfl⟩]
      rfl
    | full gap hg hl hu =>
      have hlen := length_renderFullWith hf gap
      have hr := readFull_eq_some_iff.2 ⟨hf, hl, hu, gap, hg, rfl⟩
      rw [readFields, hfixed (by omega), hr]
      rfl
    | asctime pad hp =>
      have hlen := length_renderAsctime hf pad
      have hr := readAsctime_eq_some_iff.2 ⟨hf, pad, hp, rfl⟩
      rw [readFields, hfixed (by omega), hfull (by omega), hr]
      rfl

/-- **A value is read** exactly if it is a form of a moment, blanks around it apart. -/
theorem parse?_eq_some_iff {value : String} {t : Timestamp} : parse? value = some t ↔
    ∃ n < secondsLimit, t = .ofSeconds n ∧
      Form (.ofSeconds n) (Text.trimChars value.toList) := by
  simp only [parse?, Option.bind_eq_bind, Option.bind_eq_some_iff, readFields_eq_some_iff,
    Option.ite_none_right_eq_some]
  constructor
  · rintro ⟨f, ⟨hf, hform⟩, hv, ht⟩
    refine ⟨f.toSeconds, Fields.toSeconds_lt hv, (Option.some.inj ht).symm, ?_⟩
    rw [Fields.ofSeconds_toSeconds hv]
    exact hform
  · rintro ⟨n, hn, rfl, hform⟩
    have hv := Fields.valid_ofSeconds hn
    refine ⟨_, ⟨hv.fits, hform⟩, hv, ?_⟩
    rw [Fields.toSeconds_ofSeconds]

end Refetch.HttpDate
