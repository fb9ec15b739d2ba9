import Mathlib.Data.List.GetD
import Mathlib.Tactic
import Refetch.Proofs.Text.Letters
import Refetch.Time.HttpDate
/-!
# Moments that have a date

A date that is read is a moment of the years 1970 to 9999, and so it can be written again.

1. A day of a year comes before the next year begins (`Date.toDays_lt`).
2. Fields that name a moment name one before the end of the year 9999 (`Fields.toSeconds_lt`).
3. So a date that is read gives a whole second that has a date (`format_of_parse?`), and the date is
   written in plain characters (`isPlain_of_format`).
-/

namespace Refetch.Calendar

/-! ## Days -/

theorem daysBeforeYear_succ {year : Nat} (h : 1970 ≤ year) :
    daysBeforeYear (year + 1) = daysBeforeYear year + yearLength year := by
  have hr {first : Nat} (hf : first ≤ year) : List.range' first (year + 1 - first) =
      List.range' first (year - first) ++ [year] := by
    rw [Nat.succ_sub hf, List.range'_1_concat, Nat.add_sub_cancel' hf]
  show List.sum _ = List.sum _ + _
  rw [hr h, List.map_append, List.sum_append]
  rfl

theorem daysBeforeYear_mono : Monotone daysBeforeYear := by
  refine monotone_nat_of_le_succ fun year => ?_
  by_cases h : 1970 ≤ year
  · rw [daysBeforeYear_succ h]
    exact Nat.le_add_right ..
  · -- before 1970 no year is counted
    simp [daysBeforeYear, show year - 1970 = 0 by omega]

theorem sum_monthLengths (year : Nat) : (monthLengths year).sum = yearLength year := by
  unfold monthLengths yearLength
  cases isLeap year <;> rfl

/-- What begins within one of some pieces lies before their end. -/
theorem sum_take_add_lt_sum (ms : List Nat) {i k : Nat} (h : k < ms.getD i 0) :
    (ms.take i).sum + k < ms.sum := by
  have hi : i < ms.length := by
    by_contra hn
    rw [List.getD_eq_default _ _ (Nat.le_of_not_lt hn)] at h
    omega
  have hs := congrArg List.sum (List.take_append_drop i ms)
  rw [List.sum_append, List.drop_eq_getElem_cons hi, List.sum_cons] at hs
  rw [List.getD_eq_getElem _ _ hi] at h
  omega

theorem Date.toDays_lt {d : Date} (h : d.Valid) : d.toDays < daysBeforeYear (d.year + 1) := by
  obtain ⟨hy, -, -, hl, hu⟩ := h
  have hm := sum_take_add_lt_sum (monthLengths d.year) (i := d.month - 1) (k := d.day - 1)
    (by omega)
  rw [sum_monthLengths] at hm
  have ht : d.toDays = daysBeforeYear d.year + ((monthLengths d.year).take (d.month - 1)).sum +
      (d.day - 1) := rfl
  rw [ht, daysBeforeYear_succ hy]
  omega

theorem daysBeforeYear_tenThousand : daysBeforeYear 10000 = 2932897 := by decide +kernel

end Refetch.Calendar

namespace Refetch.HttpDate

open Calendar
open Text (IsPlain)

/-! ## Seconds -/

theorem Fields.toSeconds_lt {f : Fields} (h : f.Valid) : f.toSeconds < secondsLimit := by
  obtain ⟨hd, hy, hh, hm, hs, -⟩ := h
  have hdays : f.date.toDays < 2932897 :=
    calc f.date.toDays < daysBeforeYear (f.date.year + 1) := Date.toDays_lt hd
      _ ≤ daysBeforeYear 10000 := daysBeforeYear_mono (by omega)
      _ = 2932897 := daysBeforeYear_tenThousand
  unfold toSeconds secondsLimit
  omega

/-- **A date that is read** is a whole second of the years that have dates. -/
theorem exists_ofSeconds_of_parse? {value : String} {t : Timestamp} (h : parse? value = some t) :
    ∃ n < secondsLimit, t = .ofSeconds n := by
  obtain ⟨f, -, hf⟩ := Option.bind_eq_some_iff.1 h
  obtain ⟨hv, ht⟩ := Option.ite_none_right_eq_some.1 hf
  exact ⟨f.toSeconds, Fields.toSeconds_lt hv, (Option.some.inj ht).symm⟩

theorem seconds_ofSeconds (n : Int) : (Timestamp.ofSeconds n).seconds = n := by
  simp [Timestamp.seconds, Timestamp.ofSeconds, Timestamp.nanosPerSecond]

theorem format_ofSeconds {n : Nat} (h : n < secondsLimit) :
    format (.ofSeconds n) = .ok (String.ofList (renderFixed (.ofSeconds n))) := by
  rw [format, seconds_ofSeconds, if_neg (by omega), Int.toNat_natCast]

/-- A date that is read can be written. -/
theorem format_of_parse? {value : String} {t : Timestamp} (h : parse? value = some t) :
    ∃ date, format t = .ok date := by
  obtain ⟨n, hn, rfl⟩ := exists_ofSeconds_of_parse? h
  exact ⟨_, format_ofSeconds hn⟩

/-! ## Characters -/

theorem isPlain_of_all {cs : List Char} (h : (cs.all fun c => decide (IsPlain c)) = true) :
    ∀ c ∈ cs, IsPlain c := by
  simpa using h

theorem isPlain_digit (n : Nat) : IsPlain (digit n) := by
  have h : ∀ k < 10, IsPlain (Char.ofNat ('0'.toNat + k)) := by decide
  exact h _ (Nat.mod_lt n (by decide))

theorem isPlain_two (n : Nat) : ∀ c ∈ two n, IsPlain c := by
  simp [two, isPlain_digit]

/-- A check of all names holds for any of them, and for the name that is missing. -/
theorem forall_mem_nameAt {p : Char → Prop} [DecidablePred p] {names : List String}
    (h : names.all (fun name => name.toList.all fun c => decide (p c)) = true) (i : Nat) :
    ∀ c ∈ nameAt names i, p c := by
  unfold nameAt
  by_cases hi : i < names.length
  · rw [List.getD_eq_getElem _ _ hi]
    intro c hc
    exact of_decide_eq_true (List.all_eq_true.1 (List.all_eq_true.1 h _ (List.getElem_mem hi)) c hc)
  · rw [List.getD_eq_default _ _ (Nat.le_of_not_lt hi)]
    simp

theorem isPlain_renderFixed (f : Fields) : ∀ c ∈ renderFixed f, IsPlain c := by
  have hw : ∀ c ∈ nameAt weekdayNames f.weekday, IsPlain c := forall_mem_nameAt (by decide) _
  have hm : ∀ c ∈ nameAt monthNames (f.date.month - 1), IsPlain c :=
    forall_mem_nameAt (by decide) _
  have hcomma : ∀ c ∈ ", ".toList, IsPlain c := isPlain_of_all (by decide)
  have hzone : ∀ c ∈ " GMT".toList, IsPlain c := isPlain_of_all (by decide)
  have hspace : IsPlain ' ' := by decide
  have hcolon : IsPlain ':' := by decide
  simp only [renderFixed, clock, four, List.forall_mem_append, List.forall_mem_cons]
  have ht := isPlain_two
  exact ⟨⟨⟨⟨⟨⟨hw, hcomma⟩, ht _⟩, hspace, hm⟩, hspace, ht _, ht _⟩,
    hspace, ⟨ht _, hcolon, ht _⟩, hcolon, ht _⟩, hzone⟩

/-- **A date** is written in plain characters. -/
theorem isPlain_of_format {t : Timestamp} {date : String} (h : format t = .ok date) :
    ∀ c ∈ date.toList, IsPlain c := by
  unfold format at h
  split at h
  · cases h
  · obtain rfl := Outcome.ok.inj h
    rw [String.toList_ofList]
    exact isPlain_renderFixed _

end Refetch.HttpDate
