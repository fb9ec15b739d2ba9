import Refetch.Proofs.Time.Moments
/-!
# Days and dates

Every day from 1970 on has one date, and every date that exists has one day.

1. Taking off whole years, and then whole months, loses no day (`splitYear_spec`,
   `splitMonth_spec`). So the date of a day exists and is a date of that day (`valid_ofDays`,
   `toDays_ofDays`).
2. The year of a date is told by its day, since no year reaches into the next; so is the month
   within the year. Hence two dates of a day are the same (`toDays_injective`), and a date that
   exists is the date of its day (`ofDays_toDays`).
3. The same holds for a second and its fields (`Fields.toSeconds_ofSeconds`,
   `Fields.ofSeconds_toSeconds`).
-/

namespace Refetch.Calendar

/-! ## From days to dates -/

/-- The years that are taken off and the day that is left make up the day. -/
theorem splitYear_spec {year : Nat} (h : 1970 ≤ year) (day : Nat) :
    year ≤ (splitYear year day).1 ∧ (splitYear year day).2 < yearLength (splitYear year day).1 ∧
      daysBeforeYear (splitYear year day).1 + (splitYear year day).2 =
        daysBeforeYear year + day := by
  fun_induction splitYear year day with
  | case1 year day hd => exact ⟨Nat.le_refl _, hd, rfl⟩
  | case2 year day hd ih =>
    obtain ⟨hy, hl, hs⟩ := ih (by omega)
    rw [daysBeforeYear_succ h] at hs
    exact ⟨by omega, hl, by omega⟩

/-- The months that are taken off and the day that is left make up the day of the year. -/
theorem splitMonth_spec {ms : List Nat} {day : Nat} (h : day < ms.sum) :
    (splitMonth ms day).2 < ms.getD (splitMonth ms day).1 0 ∧
      (ms.take (splitMonth ms day).1).sum + (splitMonth ms day).2 = day := by
  fun_induction splitMonth ms day with
  | case1 day => simp at h
  | case2 m ms day hd => exact ⟨hd, by simp⟩
  | case3 m ms day hd k d hk ih =>
    rw [List.sum_cons] at h
    rw [hk] at ih
    obtain ⟨hl, hs⟩ := ih (by omega)
    dsimp only at hl hs ⊢
    rw [List.take_succ_cons, List.sum_cons]
    exact ⟨by simpa using hl, by omega⟩

/-- A month that has days is one of the year's. -/
theorem lt_length_of_lt_getD {ms : List Nat} {i k : Nat} (h : k < ms.getD i 0) :
    i < ms.length := by
  by_contra hn
  rw [List.getD_eq_default _ _ (Nat.le_of_not_lt hn)] at h
  omega

namespace Date

theorem toDays_eq (d : Date) : d.toDays =
    daysBeforeYear d.year + (((monthLengths d.year).take (d.month - 1)).sum + (d.day - 1)) :=
  Nat.add_assoc ..

theorem ofDays_spec (n : Nat) : ∃ m d, Date.ofDays n = ⟨(splitYear 1970 n).1, m + 1, d + 1⟩ ∧
    d < (monthLengths (splitYear 1970 n).1).getD m 0 ∧
    ((monthLengths (splitYear 1970 n).1).take m).sum + d = (splitYear 1970 n).2 := by
  obtain ⟨-, hl, -⟩ := splitYear_spec (Nat.le_refl 1970) n
  rw [← sum_monthLengths] at hl
  obtain ⟨hd, hs⟩ := splitMonth_spec hl
  exact ⟨_, _, rfl, hd, hs⟩

/-- The date of a day is a date of that day. -/
theorem toDays_ofDays (n : Nat) : (Date.ofDays n).toDays = n := by
  obtain ⟨m, d, hof, -, hs⟩ := ofDays_spec n
  obtain ⟨-, -, hy⟩ := splitYear_spec (Nat.le_refl 1970) n
  have hzero : daysBeforeYear 1970 = 0 := rfl
  rw [hof, toDays_eq, Nat.add_sub_cancel, Nat.add_sub_cancel, hs, hy, hzero, Nat.zero_add]

/-- **The date of a day** exists. -/
theorem valid_ofDays (n : Nat) : (Date.ofDays n).Valid := by
  obtain ⟨m, d, hof, hd, -⟩ := ofDays_spec n
  obtain ⟨hy, -, -⟩ := splitYear_spec (Nat.le_refl 1970) n
  have hm : m < 12 := lt_length_of_lt_getD hd
  rw [hof]
  refine ⟨hy, Nat.le_add_left .., hm, Nat.le_add_left .., ?_⟩
  simpa using hd

/-! ## From dates to days -/

theorem daysBeforeYear_le_toDays (d : Date) : daysBeforeYear d.year ≤ d.toDays := by
  rw [toDays_eq]
  exact Nat.le_add_right ..

/-- No day of a year is a day of a later year. -/
theorem toDays_lt_of_year_lt {d e : Date} (hd : d.Valid) (h : d.year < e.year) :
    d.toDays < e.toDays :=
  calc d.toDays < daysBeforeYear (d.year + 1) := toDays_lt hd
    _ ≤ daysBeforeYear e.year := daysBeforeYear_mono h
    _ ≤ e.toDays := daysBeforeYear_le_toDays e

/-- No day of a month is a day of a later month. -/
theorem sum_take_add_lt_sum_take {ms : List Nat} {i j k : Nat} (hk : k < ms.getD i 0)
    (h : i < j) : (ms.take i).sum + k < (ms.take j).sum := by
  have hi : (ms.take j).getD i 0 = ms.getD i 0 := by
    have hl := lt_length_of_lt_getD hk
    rw [List.getD_eq_getElem _ _ (by rw [List.length_take]; omega), List.getElem_take,
      List.getD_eq_getElem _ _ hl]
  have ht := sum_take_add_lt_sum (ms.take j) (hi ▸ hk)
  rwa [List.take_take, Nat.min_eq_left (Nat.le_of_lt h)] at ht

/-- **Dates of one day** are the same. -/
theorem toDays_injective {d e : Date} (hd : d.Valid) (he : e.Valid) (h : d.toDays = e.toDays) :
    d = e := by
  have hy : d.year = e.year := by
    rcases Nat.lt_trichotomy d.year e.year with hlt | heq | hgt
    · exact absurd h (Nat.ne_of_lt (toDays_lt_of_year_lt hd hlt))
    · exact heq
    · exact absurd h.symm (Nat.ne_of_lt (toDays_lt_of_year_lt he hgt))
  obtain ⟨y, m, k⟩ := d
  obtain ⟨y', m', k'⟩ := e
  obtain rfl : y = y' := hy
  obtain ⟨-, hm, -, hk, hku⟩ := hd
  obtain ⟨-, hm', -, hk', hku'⟩ := he
  simp only [toDays_eq] at *
  have hlt : k - 1 < (monthLengths y).getD (m - 1) 0 := by omega
  have hlt' : k' - 1 < (monthLengths y).getD (m' - 1) 0 := by omega
  have hmonth : m - 1 = m' - 1 := by
    rcases Nat.lt_trichotomy (m - 1) (m' - 1) with h₁ | h₁ | h₁
    · have := sum_take_add_lt_sum_take hlt h₁
      omega
    · exact h₁
    · have := sum_take_add_lt_sum_take hlt' h₁
      omega
  obtain rfl : m = m' := by omega
  obtain rfl : k = k' := by omega
  rfl

/-- **A date that exists** is the date of its day. -/
theorem ofDays_toDays {d : Date} (h : d.Valid) : Date.ofDays d.toDays = d :=
  toDays_injective (valid_ofDays _) h (toDays_ofDays _)

/-- The day tells whether the date lies in a year or before it. -/
theorem year_ofDays_lt {n year : Nat} (h : n < daysBeforeYear year) :
    (Date.ofDays n).year < year := by
  by_contra hn
  have hy := daysBeforeYear_mono (Nat.le_of_not_lt hn)
  have hd := daysBeforeYear_le_toDays (Date.ofDays n)
  rw [toDays_ofDays] at hd
  omega

end Date

end Refetch.Calendar

namespace Refetch.HttpDate.Fields

open Calendar

/-! ## Seconds -/

theorem toSeconds_ofSeconds (n : Nat) : (ofSeconds n).toSeconds = n := by
  have hd : (ofSeconds n).date.toDays = n / 86400 := Date.toDays_ofDays _
  unfold toSeconds
  rw [hd]
  show n / 86400 * 86400 + n % 86400 / 3600 * 3600 + n % 3600 / 60 * 60 + n % 60 = n
  omega

/-- **The fields of a second** name a moment and its weekday. -/
theorem valid_ofSeconds {n : Nat} (h : n < secondsLimit) : (ofSeconds n).Valid := by
  have hday : n / 86400 < daysBeforeYear 10000 := by
    rw [daysBeforeYear_tenThousand]
    unfold secondsLimit at h
    omega
  have hyear := Date.year_ofDays_lt hday
  refine ⟨Date.valid_ofDays _, Nat.le_of_lt_succ hyear, ?_, ?_, ?_, ?_⟩
  · show n % 86400 / 3600 < 24
    omega
  · show n % 3600 / 60 < 60
    omega
  · exact Nat.mod_lt _ (by decide)
  · show Calendar.weekday (n / 86400) = Calendar.weekday (Date.ofDays (n / 86400)).toDays
    rw [Date.toDays_ofDays]

/-- **Fields that name a moment** are the fields of its second. -/
theorem ofSeconds_toSeconds {f : Fields} (h : f.Valid) : ofSeconds f.toSeconds = f := by
  obtain ⟨w, d, hour, minute, second⟩ := f
  obtain ⟨hd, -, hh, hm, hs, hw⟩ := h
  simp only at hd hh hm hs hw
  have hsec : toSeconds ⟨w, d, hour, minute, second⟩ =
      d.toDays * 86400 + hour * 3600 + minute * 60 + second := rfl
  rw [hsec, ofSeconds]
  congr 1
  · rw [hw]
    congr 1
    omega
  · rw [show (d.toDays * 86400 + hour * 3600 + minute * 60 + second) / 86400 = d.toDays by omega]
    exact Date.ofDays_toDays hd
  · omega
  · omega
  · omega

end Refetch.HttpDate.Fields
