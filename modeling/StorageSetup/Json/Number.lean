import StorageSetup.Json.Basic
import StorageSetup.Text.Digits
/-!
# Numbers in JSON texts

A number without fraction and exponent is an integer where it fits in 64 bits. Any other is a double
made from the digits that fit in 64 bits and a power of ten; there is none beyond the range of
doubles.

Key definitions:
- `NumberText`, `numberText?`: the parts of a number, read from the beginning of a text
- `NumberText.value?`: its value
-/

namespace StorageSetup.Json

open StorageSetup.Text

/-- The power of ten as a double, up to the 308th. -/
def powerOfTen (k : Nat) : Float :=
  Float.ofScientific 1 false k

/-- `significand * 10 ^ exponent` by one multiplication or by divisions through the table of
powers; a result beyond the doubles is refused. Each division lowers the exponent by 308, and a
significand of 64 bits is zero after two of them, so four rounds suffice. -/
def scaleFloat? : Nat → Float → Int → Option Float
  | 0, f, _ => some f
  | rounds + 1, f, e =>
    if e.natAbs ≤ 308 then
      if 0 ≤ e then
        let x := f * powerOfTen e.natAbs
        if x.isInf then none else some x
      else some (f / powerOfTen e.natAbs)
    else if f == 0 then some f
    else if 0 ≤ e then none
    else scaleFloat? rounds (f / powerOfTen 308) (e + 308)

/-- The digits of a number as far as they fit in 64 bits, and the digits left over. -/
def significand : Nat → List Char → Nat × List Char
  | acc, [] => (acc, [])
  | acc, c :: rest =>
    let next := 10 * acc + digitValue c
    if next ≤ maxWord then significand next rest else (acc, c :: rest)

/-- The parts of a number in a text: sign, whole digits, fraction and exponent. -/
structure NumberText where
  negative : Bool
  whole : List Char
  fraction : Option (List Char)
  exponent : Option (Bool × List Char)

/-- The largest value of an exponent that is still read as a number. -/
def maxExponent : Nat := Nat.pow 2 31 - 1

/-- The double of a number with fraction or exponent, or of an integer beyond 64 bits. Digits
that do not fit into the significand only move the point. -/
def NumberText.double? (t : NumberText) : Option Float :=
  let (high, extra) := significand 0 t.whole
  let (digits, shift) : Nat × Int :=
    if extra.isEmpty then
      let fraction := t.fraction.getD []
      let (all, left) := significand high fraction
      (all, -(Int.ofNat (fraction.length - left.length)))
    else
      let fraction := t.fraction.getD []
      let (all, left) := significand high fraction
      (all, Int.ofNat extra.length - Int.ofNat (fraction.length - left.length))
  let magnitude : Option Float := match t.exponent with
    | none => scaleFloat? 4 (UInt64.ofNat digits).toFloat shift
    | some (negative, ds) =>
      let e := ofDigits ds
      if maxExponent < e then
        if digits ≠ 0 ∧ !negative then none else some 0
      else
        let e := if negative then -(Int.ofNat e) else Int.ofNat e
        scaleFloat? 4 (UInt64.ofNat digits).toFloat (shift + e)
  magnitude.map fun x => if t.negative then -x else x

/-- The value of a number: an integer where neither fraction nor exponent is written and it fits
in 64 bits, with minus zero a double. -/
def NumberText.value? (t : NumberText) : Option Number :=
  if t.fraction.isNone && t.exponent.isNone then
    let n := ofDigits t.whole
    if t.negative then
      if n = 0 then some (.real (-0.0))
      else if n ≤ Nat.pow 2 63 then some (.int (-(Int.ofNat n)))
      else t.double?.map .real
    else if n ≤ maxWord then some (.int (Int.ofNat n))
    else t.double?.map .real
  else t.double?.map .real

/-- The grammar of a number: no leading zero, digits on both sides of a point, digits in the
exponent. -/
def numberText? (cs : List Char) : Option (NumberText × List Char) :=
  let (negative, cs) := match cs with
    | '-' :: rest => (true, rest)
    | other => (false, other)
  let run := cs.takeWhile isDigit
  let cs := cs.dropWhile isDigit
  if run.isEmpty || (run.head? == some '0' && 1 < run.length) then none
  else
    let afterPoint : Option (Option (List Char) × List Char) := match cs with
      | '.' :: rest =>
        let fraction := rest.takeWhile isDigit
        if fraction.isEmpty then none else some (some fraction, rest.dropWhile isDigit)
      | other => some (none, other)
    afterPoint.bind fun (fraction, cs) =>
      match cs with
      | c :: rest =>
        if c = 'e' || c = 'E' then
          let (minus, rest) := match rest with
            | '-' :: r => (true, r)
            | '+' :: r => (false, r)
            | r => (false, r)
          let digits := rest.takeWhile isDigit
          if digits.isEmpty then none
          else some (⟨negative, run, fraction, some (minus, digits)⟩, rest.dropWhile isDigit)
        else some (⟨negative, run, fraction, none⟩, cs)
      | [] => some (⟨negative, run, fraction, none⟩, [])

end StorageSetup.Json
