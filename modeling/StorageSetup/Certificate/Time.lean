import StorageSetup.Text.Digits
/-!
# Times of certificates

Validity bounds are written as digits of the calendar with an offset from universal time, and
compared as seconds since the start of 1970.

Key definitions:
- `daysBefore`: days from the start of 1970 to a date
- `Time.utc?`: a time with two digits of the year
- `Time.generalized?`: a time with four digits of the year
-/

namespace StorageSetup.Time

open StorageSetup.Text

def isLeapYear (y : Nat) : Bool :=
  y % 4 == 0 && (y % 100 != 0 || y % 400 == 0)

def daysInMonth (y m : Nat) : Nat :=
  if m = 2 then (if isLeapYear y then 29 else 28)
  else if m = 4 || m = 6 || m = 9 || m = 11 then 30
  else 31

/-- Days from the first of March of the year zero to a date, months counted from March. -/
def daysFromMarch (y m d : Nat) : Nat :=
  let y' := if m ≤ 2 then y - 1 else y
  let m' := if m ≤ 2 then m + 9 else m - 3
  365 * y' + y' / 4 - y' / 100 + y' / 400 + (153 * m' + 2) / 5 + (d - 1)

/-- Days from the start of 1970 to a date from the year one on. -/
def daysBefore (y m d : Nat) : Int :=
  Int.ofNat (daysFromMarch y m d) - 719468

/-- Two digits as a number. -/
def pair? : List Char → Option (Nat × List Char)
  | a :: b :: rest => if isDigit a && isDigit b then some (ofDigits [a, b], rest) else none
  | _ => none

/-- The offset from universal time in seconds. -/
def offset? : List Char → Option Int
  | ['Z'] => some 0
  | c :: rest => do
    let (h, rest) ← pair? rest
    let (m, rest) ← pair? rest
    if !rest.isEmpty || 23 < h || 59 < m then none
    else
      let seconds := Int.ofNat (h * 3600 + m * 60)
      if c = '+' then some seconds
      else if c = '-' then some (-seconds)
      else none
  | [] => none

/-- The seconds since the start of 1970 of a date and time of day, if there is such a date. -/
def seconds? (y m d h min s : Nat) (offset : Int) : Option Int :=
  if m = 0 || 12 < m || d = 0 || daysInMonth y m < d || 23 < h || 59 < min || 59 < s then none
  else some (daysBefore y m d * 86400 + Int.ofNat (h * 3600 + min * 60 + s) - offset)

/-- Seconds of a minute, zero when left out. -/
def secondsPart (cs : List Char) : Nat × List Char :=
  (pair? cs).getD (0, cs)

/-- A time with two digits of the year, which lies between 1950 and 2049. -/
def utc? (cs : List Char) : Option Int := do
  let (yy, cs) ← pair? cs
  let (m, cs) ← pair? cs
  let (d, cs) ← pair? cs
  let (h, cs) ← pair? cs
  let (min, cs) ← pair? cs
  let (s, cs) := secondsPart cs
  let offset ← offset? cs
  seconds? (if yy < 50 then 2000 + yy else 1900 + yy) m d h min s offset

/-- The text behind a fraction of a second. -/
def skipFraction : List Char → List Char
  | '.' :: rest => rest.dropWhile isDigit
  | cs => cs

/-- A time with four digits of the year. -/
def generalized? (cs : List Char) : Option Int := do
  let (century, cs) ← pair? cs
  let (yy, cs) ← pair? cs
  let (m, cs) ← pair? cs
  let (d, cs) ← pair? cs
  let (h, cs) ← pair? cs
  let (min, cs) ← pair? cs
  let (s, cs) := secondsPart cs
  let offset ← offset? (skipFraction cs)
  seconds? (century * 100 + yy) m d h min s offset

end StorageSetup.Time
