import StorageSetup.Text.Digits
/-!
# Reading decimal numbers

The grammar of numbers in quantities: an optional sign, then `inf`, `infinity` or `nan` in any
case, or digits with at most one point and at least one digit, then an optional exponent. The
value is the nearest double.

Key definitions:
- `readFloat?`: the double a text writes
-/

namespace StorageSetup.Decimal

open StorageSetup.Text

/-- The nearest double to `digits * 10 ^ exponent`. Numbers beyond the range of doubles become
infinite, those below it zero, without computing their power of ten. -/
def toFloat (digits : Nat) (exponent : Int) : Float :=
  if digits = 0 then 0
  else
    let lead := Int.ofNat (Nat.toDigits 10 digits).length + exponent
    if 400 < lead then 1.0 / 0.0
    else if lead < -400 then 0
    else if 0 ≤ exponent then Float.ofScientific (digits * Nat.pow 10 exponent.toNat) false 0
    else Float.ofScientific digits true (-exponent).toNat

/-- Splits an optional sign off; `true` stands for minus. -/
def splitSign : List Char → Bool × List Char
  | '-' :: rest => (true, rest)
  | '+' :: rest => (false, rest)
  | cs => (false, cs)

/-- The exponent part of a number, zero when the text is empty. -/
def readExponent? : List Char → Option Int
  | [] => some 0
  | c :: rest =>
    if c = 'e' || c = 'E' then
      let (negative, digits) := splitSign rest
      if digits.isEmpty || !digits.all isDigit then none
      else
        let n := Int.ofNat (ofDigits digits)
        some (if negative then -n else n)
    else none

/-- A number without sign: whole part, fraction and exponent. -/
def readUnsigned? (cs : List Char) : Option Float :=
  let whole := cs.takeWhile isDigit
  let rest := cs.dropWhile isDigit
  let (fraction, tail) := match rest with
    | '.' :: after => (after.takeWhile isDigit, after.dropWhile isDigit)
    | other => ([], other)
  if whole.isEmpty && fraction.isEmpty then none
  else (readExponent? tail).map fun e =>
    toFloat (ofDigits (whole ++ fraction)) (e - Int.ofNat fraction.length)

/-- The double a text writes. -/
def readFloat? (s : String) : Option Float :=
  let (negative, body) := splitSign s.toList
  let magnitude : Option Float :=
    match String.ofList (body.map Char.toLower) with
    | "inf" | "infinity" => some (1.0 / 0.0)
    | "nan" => some (0.0 / 0.0)
    | _ => readUnsigned? body
  magnitude.map fun x => if negative then -x else x

end StorageSetup.Decimal
