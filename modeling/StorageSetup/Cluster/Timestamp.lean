import StorageSetup.Certificate.Time
import StorageSetup.Text.Blank
/-!
# Timestamps

The API writes points in time as calendar dates in universal time. A timestamp is read in a relaxed
form: blanks may stand between its parts, leading zeros may be left out, and the time may be that of
a place ahead of universal time or behind it. It is written again in one form only.

Key definitions:
- `Date`: a day of the calendar, `Date.next?` and `Date.previous?` the days beside it
- `Timestamp`: a point in universal time
- `Timestamp.read?`, `Timestamp.text`: how it is read and how it is written
-/

namespace StorageSetup

open Text

/-! ## Dates -/

/-- The number of days of a month. The calendar repeats every 400 years. -/
def Date.daysIn (year : Int) (month : Nat) : Nat :=
  Time.daysInMonth (year % 400).toNat month

/-- A day of the calendar, of the years that are counted. -/
structure Date where
  year : Int
  month : Nat
  day : Nat
  year_bounds : -262143 ≤ year ∧ year ≤ 262142
  month_bounds : 1 ≤ month ∧ month ≤ 12
  day_bounds : 1 ≤ day ∧ day ≤ Date.daysIn year month
  deriving DecidableEq

namespace Date

/-- The day, if there is such a day. -/
def make? (year : Int) (month day : Nat) : Option Date :=
  if h : (-262143 ≤ year ∧ year ≤ 262142) ∧ (1 ≤ month ∧ month ≤ 12) ∧
      (1 ≤ day ∧ day ≤ daysIn year month) then
    some ⟨year, month, day, h.1, h.2.1, h.2.2⟩
  else none

/-- The day after. -/
def next? (d : Date) : Option Date :=
  if d.day < daysIn d.year d.month then make? d.year d.month (d.day + 1)
  else if d.month < 12 then make? d.year (d.month + 1) 1
  else make? (d.year + 1) 1 1

/-- The day before. -/
def previous? (d : Date) : Option Date :=
  if 1 < d.day then make? d.year d.month (d.day - 1)
  else if 1 < d.month then make? d.year (d.month - 1) (daysIn d.year (d.month - 1))
  else make? (d.year - 1) 12 31

/-- The date and the minute of the day in universal time, where it is a date and a minute at a place
so many minutes ahead. -/
def universal? (d : Date) (minute : Nat) (ahead : Int) : Option (Date × Nat) :=
  let m := Int.ofNat minute - ahead
  if m < 0 then d.previous?.map (·, (m + 1440).toNat)
  else if m < 1440 then some (d, m.toNat)
  else d.next?.map (·, (m - 1440).toNat)

end Date

/-! ## Points in time -/

/-- A point in universal time. -/
structure Timestamp where
  date : Date
  /-- The minute of the day. -/
  minute : Nat
  /-- The second of the minute. A minute can have one second more. -/
  second : Nat
  nanosecond : Nat
  minute_lt : minute < 1440
  second_le : second ≤ 60
  nanosecond_lt : nanosecond < 1000000000
  deriving DecidableEq

namespace Timestamp

def make? (date : Date) (minute second nanosecond : Nat) : Option Timestamp :=
  if h : minute < 1440 ∧ second ≤ 60 ∧ nanosecond < 1000000000 then
    some ⟨date, minute, second, nanosecond, h.1, h.2.1, h.2.2⟩
  else none

/-! ### Reading -/

/-- A number of one digit at least and of so many at most. -/
def number? (most : Nat) (cs : List Char) : Option (Nat × List Char) :=
  let digits := (cs.take most).takeWhile isDigit
  if digits.isEmpty then none else some (ofDigits digits, cs.drop digits.length)

/-- A year of four digits at most, or behind a sign of any number of them. -/
def year? (cs : List Char) : Option (Int × List Char) :=
  match trimStart cs with
  | '-' :: rest => (number? rest.length rest).map fun (n, rest) => (-Int.ofNat n, rest)
  | '+' :: rest => (number? rest.length rest).map fun (n, rest) => (Int.ofNat n, rest)
  | rest => (number? 4 rest).map fun (n, rest) => (Int.ofNat n, rest)

/-- A number of two digits at most, behind blanks. -/
def part? (cs : List Char) : Option (Nat × List Char) :=
  number? 2 (trimStart cs)

/-- The text behind a mark, which may stand behind blanks. -/
def mark? (mark : Char) (cs : List Char) : Option (List Char) :=
  match trimStart cs with
  | c :: rest => if c = mark then some rest else none
  | [] => none

/-- The text behind the mark between date and time. -/
def separator? : List Char → Option (List Char)
  | c :: rest => if ['T', 't', ' '].contains c then some rest else none
  | [] => none

/-- The fraction of a second in nanoseconds, digits beyond them dropped. -/
def fraction? : List Char → Option (Nat × List Char)
  | '.' :: rest =>
    let digits := rest.takeWhile isDigit
    if digits.isEmpty then none
    else some (ofDigits ((digits ++ List.replicate 9 '0').take 9), rest.dropWhile isDigit)
  | cs => some (0, cs)

/-- Hours and minutes as minutes. Colons and blanks may stand between them. -/
def hoursAndMinutes? (cs : List Char) : Option (Nat × List Char) := do
  let (h, cs) ← Time.pair? cs
  let (m, cs) ← Time.pair? (cs.dropWhile fun c => c == ':' || isSpace c)
  if 59 < m then none else some (60 * h + m, cs)

/-- The minutes that the time is ahead of universal time. -/
def ahead? : List Char → Option (Int × List Char)
  | 'Z' :: rest | 'z' :: rest => some (0, rest)
  | '+' :: rest => (hoursAndMinutes? rest).map fun (n, rest) => (Int.ofNat n, rest)
  | '-' :: rest | '−' :: rest => (hoursAndMinutes? rest).map fun (n, rest) => (-Int.ofNat n, rest)
  | u :: t :: c :: rest =>
    if [u, t, c].map Char.toUpper = ['U', 'T', 'C'] then some (0, rest) else none
  | _ => none

/-- The point in time that a text is about. -/
def read? (cs : List Char) : Option Timestamp := do
  let (year, cs) ← year? cs
  let cs ← mark? '-' cs
  let (month, cs) ← part? cs
  let cs ← mark? '-' cs
  let (day, cs) ← part? cs
  let cs ← separator? cs
  let (hour, cs) ← part? cs
  let cs ← mark? ':' cs
  let (minute, cs) ← part? cs
  let cs ← mark? ':' cs
  let (second, cs) ← part? cs
  let (nanosecond, cs) ← fraction? cs
  let (ahead, cs) ← ahead? (trimStart cs)
  if 23 < hour || 59 < minute || 1440 ≤ ahead.natAbs || !(trimStart cs).isEmpty then none
  else
    let date ← Date.make? year month day
    let (date, minute) ← date.universal? (60 * hour + minute) ahead
    make? date minute second nanosecond

/-! ### Writing -/

/-- The digits of a number with zeros in front. -/
def padded (width n : Nat) : List Char :=
  let digits := Nat.toDigits 10 n
  List.replicate (width - digits.length) '0' ++ digits

/-- A year, with its sign where it has not four digits. -/
def yearText (year : Int) : List Char :=
  if 0 ≤ year ∧ year ≤ 9999 then padded 4 year.toNat
  else (if year < 0 then '-' else '+') :: padded 4 year.natAbs

/-- The digits of a fraction of a second in groups of three, without groups of zeros at the end. -/
def fractionText (nanosecond : Nat) : List Char :=
  if nanosecond = 0 then []
  else if nanosecond % 1000000 = 0 then '.' :: padded 3 (nanosecond / 1000000)
  else if nanosecond % 1000 = 0 then '.' :: padded 6 (nanosecond / 1000)
  else '.' :: padded 9 nanosecond

/-- The form in which the API writes it. -/
def text (t : Timestamp) : List Char :=
  yearText t.date.year ++ '-' :: (padded 2 t.date.month ++ '-' :: (padded 2 t.date.day ++
    'T' :: (padded 2 (t.minute / 60) ++ ':' :: (padded 2 (t.minute % 60) ++
      ':' :: (padded 2 t.second ++ (fractionText t.nanosecond ++ ['Z']))))))

end Timestamp

/-- The timestamp in universal time. -/
def Time.normalTimestamp? (s : String) : Option String :=
  (Timestamp.read? s.toList).map fun t => String.ofList t.text

end StorageSetup
