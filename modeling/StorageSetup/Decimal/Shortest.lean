import StorageSetup.Decimal.Binary
/-!
# The fewest digits that read back

A double is written with the fewest decimal digits of which it is the nearest double; of several
such texts the nearest to its exact value, and of two equally near the greater.

Key definitions:
- `Digits`: a decimal number, digits times a power of ten
- `shortest`: the digits of a finite positive double
- `plain`: positional notation without an exponent, as in messages
- `scientific`: positional notation in a middle range and an exponent outside it
-/

namespace StorageSetup.Decimal

/-- The number `digits * 10 ^ exponent`. -/
structure Digits where
  digits : Nat
  exponent : Int
  deriving DecidableEq, Repr

/-- The number of decimal digits of a natural number, one for zero. -/
def digitCount (n : Nat) : Nat :=
  (Nat.toDigits 10 n).length

/-- The exponent of the leading decimal digit of `num / den` below one, searched downward. -/
def leadBelowOne : Nat → Nat → Nat → Nat → Int
  | 0, _, _, k => -(Int.ofNat k)
  | fuel + 1, num, den, k =>
    if den ≤ num * Nat.pow 10 k then -(Int.ofNat k) else leadBelowOne fuel num den (k + 1)

/-- The exponent of the leading decimal digit of a positive quotient. A double is at least
`10 ^ (-324)`, so 330 steps suffice. -/
def leadExponent (r : Ratio) : Int :=
  if r.den ≤ r.num then Int.ofNat (digitCount (r.num / r.den)) - 1
  else leadBelowOne 330 r.num r.den 1

/-- The reals that round to a double: a quotient of the double and its two bounds over one
denominator, the bounds themselves counting when `closed`. -/
structure Interval where
  low : Nat
  mid : Nat
  high : Nat
  den : Nat
  closed : Bool

/-- The interval of a finite positive double. Below a power of two the spacing halves. -/
def Interval.of (mantissa : Nat) (exponent : Int) : Interval :=
  let low := if mantissa = Nat.pow 2 52 ∧ -1074 < exponent then 4 * mantissa - 1 else 4 * mantissa - 2
  let closed := mantissa % 2 == 0
  let e := exponent - 2
  if 0 ≤ e then
    let p := Nat.pow 2 e.toNat
    ⟨low * p, 4 * mantissa * p, (4 * mantissa + 2) * p, 1, closed⟩
  else ⟨low, 4 * mantissa, 4 * mantissa + 2, Nat.pow 2 (-e).toNat, closed⟩

/-- The interval measured in units of `10 ^ q`. -/
def Interval.inUnits (i : Interval) (q : Int) : Interval :=
  if 0 ≤ q then { i with den := i.den * Nat.pow 10 q.toNat }
  else
    let p := Nat.pow 10 (-q).toNat
    ⟨i.low * p, i.mid * p, i.high * p, i.den, i.closed⟩

/-- Whether the integer `n` lies in the interval. -/
def Interval.contains (i : Interval) (n : Nat) : Bool :=
  if i.closed then i.low ≤ n * i.den && n * i.den ≤ i.high
  else i.low < n * i.den && n * i.den < i.high

/-- The integer of the interval nearest to its middle, the greater of two equally near. -/
def Interval.nearest? (i : Interval) : Option Nat :=
  let down := i.mid / i.den
  let up := down + 1
  let below := i.mid - down * i.den
  let above := up * i.den - i.mid
  match i.contains down, i.contains up with
  | true, true => if below < above then some down else some up
  | true, false => some down
  | false, true => some up
  | false, false => none

/-- Moves the zeros at the end of the digits into the exponent. -/
def Digits.strip : Nat → Digits → Digits
  | 0, d => d
  | fuel + 1, d =>
    if d.digits ≠ 0 ∧ d.digits % 10 = 0 then strip fuel ⟨d.digits / 10, d.exponent + 1⟩ else d

/-- Tries one digit, then two, up to seventeen, which always suffice. -/
def shortestFrom (i : Interval) (lead : Int) : Nat → Nat → Digits
  | 0, _ => ⟨0, 0⟩
  | fuel + 1, k =>
    let q := lead - Int.ofNat k + 1
    match (i.inUnits q).nearest? with
    | some n => Digits.strip 20 ⟨n, q⟩
    | none => shortestFrom i lead fuel (k + 1)

/-- The shortest digits of the positive double `mantissa * 2 ^ exponent`. -/
def shortest (mantissa : Nat) (exponent : Int) : Digits :=
  shortestFrom (Interval.of mantissa exponent) (leadExponent (Ratio.scaled mantissa exponent)) 18 1

/-- Digits in positional notation, without an exponent and without a needless point. -/
def Digits.plain (d : Digits) : String :=
  let text := Nat.toDigits 10 d.digits
  if 0 ≤ d.exponent then
    String.ofList (text ++ List.replicate (if d.digits = 0 then 0 else d.exponent.toNat) '0')
  else
    let places := (-d.exponent).toNat
    let padded := List.replicate (places + 1 - text.length) '0' ++ text
    let whole := padded.length - places
    String.ofList (padded.take whole ++ '.' :: padded.drop whole)

/-- The sign and the texts of the values that are no numbers, around a magnitude's text. -/
def withSign (x : Binary) (zero : String) (text : Digits → String) : String :=
  match x.magnitude with
  | .nan => "NaN"
  | .infinite => if x.negative then "-inf" else "inf"
  | .finite m e =>
    let body := if m = 0 then zero else text (shortest m e)
    if x.negative then "-" ++ body else body

/-- The text of a double in a message: shortest digits, positional. -/
def plain (x : Float) : String :=
  withSign (Binary.ofFloat x) "0" Digits.plain

/-- Digits with a point always present, and an exponent when the leading digit stands above the
sixteenth place or below the fifth after the point. -/
def Digits.scientific (d : Digits) : String :=
  let text := Nat.toDigits 10 d.digits
  let point := Int.ofNat text.length + d.exponent
  if 0 ≤ d.exponent ∧ point ≤ 16 then d.plain ++ ".0"
  else if -5 < point ∧ point ≤ 16 then d.plain
  else
    let tail := text.drop 1
    let fraction := if tail.isEmpty then [] else '.' :: tail
    String.ofList (text.take 1 ++ fraction) ++ "e" ++ toString (point - 1)

/-- The text of a double inside a decoding error. -/
def scientific (x : Float) : String :=
  withSign (Binary.ofFloat x) "0.0" Digits.scientific

end StorageSetup.Decimal
