import Refetch.Proofs.Time.Written
/-!
# Dates there and back

Every whole second of the years 1970 to 9999 has a date, and the date is read as that second.

1. The forms are written in ASCII, and no blank stands at their ends (`Form.ascii`,
   `Form.trimmed`). So a form of a second is read as this second, with any blanks around it
   (`Form.names`).
2. A text of 29 bytes that is read is the fixed form (`Form.eq_renderFixed`), since the other two
   are shorter and longer.
3. The weekday that a text begins with is the one of its fields (`Form.weekdayIn?_eq`), and those are
   fields of the second that is read.
-/

namespace Refetch.HttpDate

open Text (isBlank trim trimChars IsPlain)

/-! ## Characters of the forms -/

theorem isPlain_padded {pad : Char} (hp : pad = ' ' ∨ pad = '0') (day : Nat) :
    ∀ c ∈ padded pad day, IsPlain c := by
  have hpad : IsPlain pad := by
    rcases hp with rfl | rfl <;> decide
  simp only [padded, List.forall_mem_cons]
  refine ⟨?_, isPlain_digit _, by simp⟩
  split
  · exact hpad
  · exact isPlain_digit _

theorem Form.ascii {f : Fields} {cs : List Char} (h : Form f cs) : ∀ c ∈ cs, c.toNat < 0x80 := by
  have hplain {cs : List Char} (h : ∀ c ∈ cs, IsPlain c) : ∀ c ∈ cs, c.toNat < 0x80 := by
    intro c hc
    have := (h c hc).2
    omega
  have htwo (n : Nat) : ∀ c ∈ two n, c.toNat < 0x80 := hplain (isPlain_two n)
  have hmonth : ∀ c ∈ nameAt monthNames (f.date.month - 1), c.toNat < 0x80 :=
    forall_mem_nameAt (by decide) _
  have hcolon : ':'.toNat < 0x80 := by decide
  have hspace : ' '.toNat < 0x80 := by decide
  cases h with
  | fixed => exact hplain (isPlain_renderFixed f)
  | full gap hg hl hu =>
    have hname : ∀ c ∈ nameAt fullWeekdayNames f.weekday, c.toNat < 0x80 :=
      forall_mem_nameAt (by decide) _
    have hcomma : ','.toNat < 0x80 := by decide
    have hdash : '-'.toNat < 0x80 := by decide
    have hzone : ∀ c ∈ " GMT".toList, c.toNat < 0x80 := hplain (isPlain_of_all (by decide))
    simp only [renderFullWith, fullTail, clock, List.forall_mem_append, List.forall_mem_cons]
    exact ⟨hname, hcomma, hspace, ⟨⟨⟨htwo _, hdash, hmonth⟩, hdash, htwo _⟩, hg, ⟨htwo _, hcolon,
      htwo _⟩, hcolon, htwo _⟩, hzone⟩
  | asctime pad hp =>
    have hname : ∀ c ∈ nameAt weekdayNames f.weekday, c.toNat < 0x80 :=
      forall_mem_nameAt (by decide) _
    simp only [renderAsctime_eq, clock, four, List.forall_mem_append, List.forall_mem_cons]
    exact ⟨⟨⟨⟨hname, hspace, hmonth⟩, hspace, hplain (isPlain_padded hp _)⟩, hspace,
      ⟨htwo _, hcolon, htwo _⟩, hcolon, htwo _⟩, hspace, htwo _, htwo _⟩

/-- A form begins with the name of its weekday, which ends with the letters. -/
theorem Form.exists_name {f : Fields} {cs : List Char} (h : Form f cs) :
    ∃ names c rest, (names = weekdayNames ∨ names = fullWeekdayNames) ∧ c.isAlpha = false ∧
      cs = nameAt names f.weekday ++ c :: rest := by
  cases h with
  | fixed => exact ⟨weekdayNames, ',', _, .inl rfl, by decide, by simp [renderFixed]; rfl⟩
  | full gap hg hl hu => exact ⟨fullWeekdayNames, ',', _, .inr rfl, by decide, rfl⟩
  | asctime pad hp =>
    exact ⟨weekdayNames, ' ', _, .inl rfl, by decide, by simp [renderAsctime]; rfl⟩

/-- A form ends with its zone or its year. -/
theorem Form.exists_last {f : Fields} {cs : List Char} (h : Form f cs) :
    ∃ init c, isBlank c = false ∧ cs = init ++ [c] := by
  have hzone (init : List Char) : ∃ init' c, isBlank c = false ∧
      init ++ " GMT".toList = init' ++ [c] :=
    ⟨init ++ " GM".toList, 'T', by decide, by simp⟩
  cases h with
  | fixed => exact hzone _
  | full gap hg hl hu =>
    rw [renderFullWith, fullTail, ← List.cons_append, ← List.cons_append, ← List.append_assoc]
    exact hzone _
  | asctime pad hp =>
    have hdigit : ∀ k < 10, isBlank (Char.ofNat ('0'.toNat + k)) = false := by decide
    refine ⟨nameAt weekdayNames f.weekday ++ ' ' :: nameAt monthNames (f.date.month - 1) ++ ' ' ::
      padded pad f.date.day ++ ' ' :: clock f ++ ' ' :: two (f.date.year / 100) ++
      [digit (f.date.year / 10)], digit f.date.year, hdigit _ (Nat.mod_lt _ (by decide)), ?_⟩
    rw [renderAsctime_eq, four]
    simp [two]

/-- No blank stands at the ends of a form. -/
theorem Form.trimmed {f : Fields} {cs : List Char} (hf : f.Fits) (h : Form f cs) :
    trimChars cs = cs := by
  refine Text.trimChars_of_ends ?_ ?_
  · obtain ⟨names, c, rest, hnames, -, rfl⟩ := h.exists_name
    have hmem : ∀ c ∈ nameAt names f.weekday, isBlank c = false := by
      rcases hnames with rfl | rfl <;> exact forall_mem_nameAt (by decide) _
    have hne : nameAt names f.weekday ≠ [] := by
      have hall : ∀ i < 7, nameAt weekdayNames i ≠ [] ∧ nameAt fullWeekdayNames i ≠ [] := by
        decide
      rcases hnames with rfl | rfl
      · exact (hall _ hf.weekday).1
      · exact (hall _ hf.weekday).2
    rw [List.head?_append_of_ne_nil _ hne]
    exact fun c hc => hmem c (List.mem_of_mem_head? hc)
  · obtain ⟨init, c, hc, rfl⟩ := h.exists_last
    simpa using hc

/-! ## Reading what is written -/

/-- The text is read as this moment, with any blanks around it. -/
def Names (text : String) (t : Timestamp) : Prop :=
  ∀ before after : String, (∀ c ∈ before.toList, isBlank c = true) →
    (∀ c ∈ after.toList, isBlank c = true) → parse? (before ++ text ++ after) = some t

theorem Names.parse? {text : String} {t : Timestamp} (h : Names text t) :
    HttpDate.parse? text = some t := by
  have hself := h "" "" (by simp) (by simp)
  simpa using hself

/-- **A form of a second** is read as this second. -/
theorem Form.names {n : Nat} {cs : List Char} (hn : n < secondsLimit)
    (h : Form (.ofSeconds n) cs) : Names (String.ofList cs) (.ofSeconds n) := by
  intro before after hb ha
  refine parse?_eq_some_iff.2 ⟨n, hn, rfl, ?_⟩
  rw [String.toList_append, String.toList_append, String.toList_ofList,
    Text.trimChars_append hb ha, h.trimmed (Fields.valid_ofSeconds hn).fits]
  exact h

/-- A form of 29 bytes is the fixed one. -/
theorem Form.eq_renderFixed {f : Fields} {cs : List Char} (hf : f.Fits) (h : Form f cs)
    (hl : (Text.Utf8.encodeChars cs).length = 29) : cs = renderFixed f := by
  rw [Text.Utf8.length_encodeChars_of_ascii h.ascii] at hl
  cases h with
  | fixed => rfl
  | full gap _ _ _ =>
    have := length_renderFullWith hf gap
    omega
  | asctime pad _ =>
    have := length_renderAsctime hf pad
    omega

/-! ## Dates there and back -/

/-- What a value says that is read as a moment: a whole second that has a date, which is read as the
same moment. The value is a form of fields that name a day of the calendar and its weekday, and with
29 bytes it is the date itself. -/
structure Denotes (value : String) (t : Timestamp) : Prop where
  whole : ∃ n < secondsLimit, t = .ofSeconds n
  back : ∃ date, format t = .ok date ∧ parse? date = some t
  exists_form : ∃ f : Fields, f.Valid ∧ (f.toSeconds : Int) = t.seconds ∧
    Form f (trim value).toList
  eq_date : (Text.Utf8.encode (trim value)).length = 29 → format t = .ok (trim value)

theorem names_of_format {n : Nat} (hn : n < secondsLimit) :
    ∃ date, format (.ofSeconds n) = .ok date ∧ Names date (.ofSeconds n) :=
  ⟨_, format_ofSeconds hn, Form.fixed.names hn⟩

/-- Below the second nothing is written. -/
theorem format_seconds (t : Timestamp) : format (.ofSeconds t.seconds) = format t := by
  rw [format, format, seconds_ofSeconds]

theorem exists_of_format {t : Timestamp} {date : String} (h : format t = .ok date) :
    ∃ n < secondsLimit, t.seconds = n := by
  unfold format at h
  split at h
  · cases h
  · rename_i hr
    exact ⟨t.seconds.toNat, by omega, by omega⟩

theorem denotes_of_parse? {value : String} {t : Timestamp} (h : parse? value = some t) :
    Denotes value t := by
  obtain ⟨n, hn, rfl, hform⟩ := parse?_eq_some_iff.1 h
  have hv := Fields.valid_ofSeconds hn
  have htrim : (trim value).toList = trimChars value.toList := String.toList_ofList
  obtain ⟨date, hdate, hnames⟩ := names_of_format hn
  refine ⟨⟨n, hn, rfl⟩, ⟨date, hdate, hnames.parse?⟩, ⟨.ofSeconds n, hv, ?_, htrim ▸ hform⟩, ?_⟩
  · rw [Fields.toSeconds_ofSeconds, seconds_ofSeconds]
  · intro hl
    rw [Text.Utf8.encode, htrim] at hl
    rw [format_ofSeconds hn, ← hform.eq_renderFixed hv.fits hl]
    rfl

/-- **Dates there and back.** Every moment of the years 1970 to 9999 has a date, which is read as
the moment to the second, with any blanks around it; only moments of one second have the same date;
and what is read is what `Denotes` says. -/
theorem dates_round_trip :
    (∀ t : Timestamp, 0 ≤ t.seconds → t.seconds < secondsLimit →
      ∃ date, format t = .ok date ∧ Names date (.ofSeconds t.seconds)) ∧
    (∀ s t date, format s = .ok date → format t = .ok date → s.seconds = t.seconds) ∧
    ∀ value t, parse? value = some t → Denotes value t := by
  have hnames {t : Timestamp} {n : Nat} (hn : n < secondsLimit) (ht : t.seconds = n) :
      ∃ date, format t = .ok date ∧ Names date (.ofSeconds t.seconds) := by
    obtain ⟨date, hdate, hnames⟩ := names_of_format hn
    rw [← format_seconds, ht]
    exact ⟨date, hdate, hnames⟩
  refine ⟨fun t hl hu => ?_, fun s t date hs ht => ?_, fun value t h => denotes_of_parse? h⟩
  · exact hnames (n := t.seconds.toNat) (by omega) (by omega)
  · obtain ⟨m, hm, hsm⟩ := exists_of_format hs
    obtain ⟨n, hn, htn⟩ := exists_of_format ht
    obtain ⟨_, hs', hread⟩ := hnames hm hsm
    obtain ⟨_, ht', hread'⟩ := hnames hn htn
    obtain rfl := Outcome.ok.inj (hs'.symm.trans hs)
    obtain rfl := Outcome.ok.inj (ht'.symm.trans ht)
    have heq := hread.parse?.symm.trans hread'.parse?
    simpa [seconds_ofSeconds] using congrArg (Option.map Timestamp.seconds) heq

/-- The last second of a leap day. -/
theorem dates_round_trip_leapDay :
    (0 ≤ (Timestamp.ofSeconds 951868799 500000000).seconds ∧
      (Timestamp.ofSeconds 951868799 500000000).seconds < secondsLimit) ∧
    format (.ofSeconds 951868799 500000000) = .ok "Tue, 29 Feb 2000 23:59:59 GMT" ∧
    Names "Tue, 29 Feb 2000 23:59:59 GMT" (.ofSeconds 951868799) ∧
    Denotes "  Tuesday, 29-Feb-00 23:59:59 GMT " (.ofSeconds 951868799) := by
  obtain ⟨hread, -, hdenotes⟩ := dates_round_trip
  have hr : 0 ≤ (Timestamp.ofSeconds 951868799 500000000).seconds ∧
      (Timestamp.ofSeconds 951868799 500000000).seconds < secondsLimit := by decide
  have hf : format (.ofSeconds 951868799 500000000) = .ok "Tue, 29 Feb 2000 23:59:59 GMT" := by
    decide +kernel
  have hp : parse? "  Tuesday, 29-Feb-00 23:59:59 GMT " = some (.ofSeconds 951868799) := by
    decide +kernel
  obtain ⟨date, hdate, hnames⟩ := hread _ hr.1 hr.2
  obtain rfl := Outcome.ok.inj (hdate.symm.trans hf)
  exact ⟨hr, hf, hnames, hdenotes _ _ hp⟩

/-! ## The three forms -/

/-- The letters that a text begins with, read as a weekday, short or full. -/
def weekdayIn? (cs : List Char) : Option Nat :=
  let letters := cs.takeWhile Char.isAlpha
  indexOf? weekdayNames letters <|> indexOf? fullWeekdayNames letters

theorem Form.weekdayIn?_eq {f : Fields} {cs : List Char} (hf : f.Fits) (h : Form f cs) :
    weekdayIn? cs = some f.weekday := by
  obtain ⟨names, c, rest, hnames, hc, rfl⟩ := h.exists_name
  have hletters : ∀ c ∈ nameAt names f.weekday, c.isAlpha = true := by
    rcases hnames with rfl | rfl <;> exact forall_mem_nameAt (by decide) _
  have ht : (nameAt names f.weekday ++ c :: rest).takeWhile Char.isAlpha =
      nameAt names f.weekday := by
    rw [List.takeWhile_append_of_pos hletters, List.takeWhile_cons_of_neg (by simp [hc]),
      List.append_nil]
  rw [weekdayIn?, ht]
  rcases hnames with rfl | rfl
  · rw [(indexOf?_eq_some_iff nodup_weekdayNames).2 ⟨hf.weekday, rfl⟩]
    rfl
  · -- no full name is a short one
    have hshort : ∀ i < 7, indexOf? weekdayNames (nameAt fullWeekdayNames i) = none := by decide
    rw [hshort _ hf.weekday, (indexOf?_eq_some_iff nodup_fullWeekdayNames).2 ⟨hf.weekday, rfl⟩]
    rfl

/-- The seconds from the start of 1970 to the end of 2069, whose years two digits name. -/
def centuryLimit : Nat := 3155760000

/-- The forms of a second are read as this second, with any blanks around them: its date, and the
other two forms, of which one is for the years that two digits name. -/
structure OneMoment (n : Nat) : Prop where
  date : ∃ date, format (.ofSeconds n) = .ok date ∧ Names date (.ofSeconds n)
  asctime : ∀ pad, pad = ' ' ∨ pad = '0' →
    Names (String.ofList (renderAsctime pad (.ofSeconds n))) (.ofSeconds n)
  full : n < centuryLimit → Names (String.ofList (renderFull (.ofSeconds n))) (.ofSeconds n)

theorem year_ofSeconds_le {n : Nat} (h : n < centuryLimit) :
    (Fields.ofSeconds n).date.year ≤ 2069 := by
  have hdays : Calendar.daysBeforeYear 2070 = 36525 := by decide +kernel
  have hday : n / 86400 < Calendar.daysBeforeYear 2070 := by
    rw [hdays]
    unfold centuryLimit at h
    omega
  exact Nat.le_of_lt_succ (Calendar.Date.year_ofDays_lt hday)

/-- **The three forms** of a second name the same moment, and a text that is read begins with the
weekday of the moment that it is read as. -/
theorem forms_name_one_moment :
    (∀ n < secondsLimit, OneMoment n) ∧
    ∀ value t, parse? value = some t → ∃ n < secondsLimit, t = .ofSeconds n ∧
      weekdayIn? (trim value).toList = some (Calendar.weekday (n / 86400)) := by
  refine ⟨fun n hn => ⟨names_of_format hn, fun pad hp => (Form.asctime pad hp).names hn,
    fun hc => ?_⟩, fun value t h => ?_⟩
  · rw [renderFull_eq]
    have hl := (Fields.valid_ofSeconds hn).1.1
    exact (Form.full ' ' (by decide) hl (year_ofSeconds_le hc)).names hn
  · obtain ⟨n, hn, rfl, hform⟩ := parse?_eq_some_iff.1 h
    have htrim : (trim value).toList = trimChars value.toList := String.toList_ofList
    refine ⟨n, hn, rfl, ?_⟩
    rw [htrim]
    exact hform.weekdayIn?_eq (Fields.valid_ofSeconds hn).fits

/-- The last second of the century that two digits name, and a text of its own. -/
theorem forms_name_one_moment_centuryEnd :
    3155759999 < centuryLimit ∧ OneMoment 3155759999 ∧
    Names "Tuesday, 31-Dec-69 23:59:59 GMT" (.ofSeconds 3155759999) ∧
    weekdayIn? (trim " Fri Dec  1 00:00:00 2000").toList = some 4 := by
  obtain ⟨hone, hweekday⟩ := forms_name_one_moment
  have hc : 3155759999 < centuryLimit := by decide
  have h := hone 3155759999 (by decide)
  have hr : renderFull (.ofSeconds 3155759999) = "Tuesday, 31-Dec-69 23:59:59 GMT".toList := by
    decide +kernel
  have hp : parse? " Fri Dec  1 00:00:00 2000" = some (.ofSeconds 975628800) := by
    decide +kernel
  obtain ⟨n, hn, ht, hw⟩ := hweekday _ _ hp
  have hfull := h.full hc
  rw [hr, String.ofList_toList] at hfull
  have hday : n = 975628800 := by
    have := congrArg Timestamp.seconds ht
    rw [seconds_ofSeconds, seconds_ofSeconds] at this
    omega
  subst hday
  exact ⟨hc, h, hfull, hw⟩

end Refetch.HttpDate
