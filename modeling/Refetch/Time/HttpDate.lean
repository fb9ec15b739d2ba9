import Refetch.Error
import Refetch.Text.Blank
import Refetch.Time.Calendar
import Refetch.Time.Timestamp
/-!
# HTTP dates

A moment of the years 1970 to 9999 is written to the second, as `Sun, 06 Nov 1994 08:49:37 GMT`.
Three forms are read: this one, the one with the full weekday and a two-digit year (RFC 850), and
the `asctime` form. Each is a row of fields at fixed places, and the weekday must be the
date's.
-/

namespace Refetch.HttpDate

def weekdayNames : List String := ["Mon", "Tue", "Wed", "Thu", "Fri", "Sat", "Sun"]

def fullWeekdayNames : List String :=
  ["Monday", "Tuesday", "Wednesday", "Thursday", "Friday", "Saturday", "Sunday"]

def monthNames : List String :=
  ["Jan", "Feb", "Mar", "Apr", "May", "Jun", "Jul", "Aug", "Sep", "Oct", "Nov", "Dec"]

/-- The fields of a date as written; the weekday counts from Monday, zero, and the month from
January, one. -/
structure Fields where
  weekday : Nat
  date : Calendar.Date
  hour : Nat
  minute : Nat
  second : Nat
  deriving Repr, DecidableEq

/-- The seconds from the start of 1970 to the end of 9999. -/
def secondsLimit : Nat := 253402300800

namespace Fields

def ofSeconds (s : Nat) : Fields :=
  let days := s / 86400
  ⟨Calendar.weekday days, .ofDays days, s % 86400 / 3600, s % 3600 / 60, s % 60⟩

def toSeconds (f : Fields) : Nat :=
  f.date.toDays * 86400 + f.hour * 3600 + f.minute * 60 + f.second

/-- The fields name a moment of the years 1970 to 9999 and its weekday. -/
def Valid (f : Fields) : Prop :=
  f.date.Valid ∧ f.date.year ≤ 9999 ∧ f.hour < 24 ∧ f.minute < 60 ∧ f.second < 60 ∧
    f.weekday = Calendar.weekday f.date.toDays

instance (f : Fields) : Decidable f.Valid := by unfold Valid; infer_instance

end Fields

/-! ## Writing -/

def digit (n : Nat) : Char := Char.ofNat ('0'.toNat + n % 10)

def two (n : Nat) : List Char := [digit (n / 10), digit n]

def four (n : Nat) : List Char := two (n / 100) ++ two n

def nameAt (names : List String) (i : Nat) : List Char := (names.getD i "").toList

/-- `08:49:37` -/
def clock (f : Fields) : List Char := two f.hour ++ ':' :: two f.minute ++ ':' :: two f.second

/-- `Sun, 06 Nov 1994 08:49:37 GMT` -/
def renderFixed (f : Fields) : List Char :=
  nameAt weekdayNames f.weekday ++ ", ".toList ++ two f.date.day ++ ' ' ::
    nameAt monthNames (f.date.month - 1) ++ ' ' :: four f.date.year ++ ' ' :: clock f ++
    " GMT".toList

/-- `Sunday, 06-Nov-94 08:49:37 GMT` -/
def renderFull (f : Fields) : List Char :=
  nameAt fullWeekdayNames f.weekday ++ ", ".toList ++ two f.date.day ++ '-' ::
    nameAt monthNames (f.date.month - 1) ++ '-' :: two f.date.year ++ ' ' :: clock f ++
    " GMT".toList

/-- `Sun Nov  6 08:49:37 1994`; the day is padded by a space or a zero. -/
def renderAsctime (pad : Char) (f : Fields) : List Char :=
  nameAt weekdayNames f.weekday ++ ' ' :: nameAt monthNames (f.date.month - 1) ++ ' ' ::
    (if f.date.day < 10 then pad else digit (f.date.day / 10)) :: digit f.date.day :: ' ' ::
    clock f ++ ' ' :: four f.date.year

/-- The date of a moment. -/
def format (t : Timestamp) : Outcome String :=
  if t.seconds < 0 ∨ secondsLimit ≤ t.seconds then .crash .timeWithoutDate
  else .ok (String.ofList (renderFixed (.ofSeconds t.seconds.toNat)))

/-! ## Reading -/

def digit? (c : Char) : Option Nat := if c.isDigit then some (c.toNat - '0'.toNat) else none

/-- The number that two digits write. -/
def two? (a b : Char) : Option Nat := do pure ((← digit? a) * 10 + (← digit? b))

def four? (a b c d : Char) : Option Nat := do pure ((← two? a b) * 100 + (← two? c d))

/-- The place of a name in a list of names. -/
def indexOf? (names : List String) (cs : List Char) : Option Nat :=
  names.findIdx? fun name => name.toList == cs

def readFixed : List Char → Option Fields
  | [w1, w2, w3, ',', ' ', d1, d2, ' ', m1, m2, m3, ' ', y1, y2, y3, y4, ' ',
     h1, h2, ':', i1, i2, ':', s1, s2, ' ', 'G', 'M', 'T'] => do
    let weekday ← indexOf? weekdayNames [w1, w2, w3]
    let month ← indexOf? monthNames [m1, m2, m3]
    pure ⟨weekday, ⟨← four? y1 y2 y3 y4, month + 1, ← two? d1 d2⟩,
      ← two? h1 h2, ← two? i1 i2, ← two? s1 s2⟩
  | _ => none

/-- The century of a two-digit year is the one from 1970 to 2069. -/
def fullYear (year : Nat) : Nat := if year < 70 then 2000 + year else 1900 + year

/-- The part after the weekday; any ASCII character may stand between year and hour. -/
def readFullTail (weekday : Nat) : List Char → Option Fields
  | [d1, d2, '-', m1, m2, m3, '-', y1, y2, gap, h1, h2, ':', i1, i2, ':', s1, s2,
     ' ', 'G', 'M', 'T'] => do
    guard (gap.toNat < 0x80)
    let month ← indexOf? monthNames [m1, m2, m3]
    pure ⟨weekday, ⟨fullYear (← two? y1 y2), month + 1, ← two? d1 d2⟩,
      ← two? h1 h2, ← two? i1 i2, ← two? s1 s2⟩
  | _ => none

def readFull (cs : List Char) : Option Fields := do
  let weekday ← indexOf? fullWeekdayNames (cs.takeWhile (· != ','))
  match cs.dropWhile (· != ',') with
  | ',' :: ' ' :: rest => readFullTail weekday rest
  | _ => none

def readAsctime : List Char → Option Fields
  | [w1, w2, w3, ' ', m1, m2, m3, ' ', d1, d2, ' ', h1, h2, ':', i1, i2, ':', s1, s2, ' ',
     y1, y2, y3, y4] => do
    let weekday ← indexOf? weekdayNames [w1, w2, w3]
    let month ← indexOf? monthNames [m1, m2, m3]
    let day ← if d1 = ' ' then digit? d2 else two? d1 d2
    pure ⟨weekday, ⟨← four? y1 y2 y3 y4, month + 1, day⟩,
      ← two? h1 h2, ← two? i1 i2, ← two? s1 s2⟩
  | _ => none

/-- The fields in the first form that fits. -/
def readFields (cs : List Char) : Option Fields :=
  readFixed cs <|> readFull cs <|> readAsctime cs

/-- Reads a date; blanks around it are passed over. -/
def parse? (value : String) : Option Timestamp := do
  let fields ← readFields (Text.trimChars value.toList)
  if fields.Valid then some (.ofSeconds fields.toSeconds) else none

end Refetch.HttpDate
