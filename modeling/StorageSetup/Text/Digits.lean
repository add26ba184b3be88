/-!
# Decimal digits

Natural numbers as ASCII digits, the form of counts, sizes and limits in texts.

Key definitions:
- `isDigit`, `digitValue`: one digit
- `ofDigits`: the number written by a list of digits
- `parseNat`: a text of digits, with one plus sign allowed in front
- `parseWord`: the same, refusing numbers beyond 64 bits
- `hexValue?`: one hexadecimal digit
-/

namespace StorageSetup.Text

/-- The ASCII digits. -/
def isDigit (c : Char) : Bool :=
  '0' ≤ c && c ≤ '9'

/-- The value of a digit. -/
def digitValue (c : Char) : Nat :=
  c.toNat - '0'.toNat

/-- The number that the digits write, most significant first. -/
def ofDigits (cs : List Char) : Nat :=
  cs.foldl (fun n c => 10 * n + digitValue c) 0

/-- Reads a number: one optional plus sign, then digits only and at least one. -/
def parseNat (cs : List Char) : Option Nat :=
  let digits := match cs with
    | '+' :: rest => rest
    | other => other
  if digits.isEmpty || !digits.all isDigit then none else some (ofDigits digits)

/-- The largest number of a 64-bit word. -/
def maxWord : Nat := Nat.pow 2 64 - 1

/-- Reads a number that fits in 64 bits. -/
def parseWord (s : String) : Option Nat :=
  (parseNat s.toList).filter (· ≤ maxWord)

/-- The value of a hexadecimal digit. -/
def hexValue? (c : Char) : Option Nat :=
  if '0' ≤ c && c ≤ '9' then some (c.toNat - '0'.toNat)
  else if 'a' ≤ c && c ≤ 'f' then some (c.toNat - 'a'.toNat + 10)
  else if 'A' ≤ c && c ≤ 'F' then some (c.toNat - 'A'.toNat + 10)
  else none

/-- A character repeated. -/
def fill (n : Nat) (c : Char) : String :=
  String.ofList (List.replicate n c)

end StorageSetup.Text
