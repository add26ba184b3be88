import StorageSetup.Decimal.Read
/-!
# What plain scalars mean

A scalar without quotes may stand for null, a boolean or a number. Numbers may be written in base
2, 8, 10 or 16; decimal digits with an idle zero in front are a text.

Key definitions:
- `Plain`: what a plain scalar means
- `Plain.ofText`: the meaning of a text
-/

namespace StorageSetup.Yaml

open StorageSetup.Text

/-- What a plain scalar means. -/
inductive Plain where
  | null
  | bool (b : Bool)
  | int (n : Int)
  | real (x : Float)
  | text

/-- The ways to write null. -/
def isNull (s : String) : Bool :=
  ["null", "Null", "NULL", "~"].contains s

/-- The ways to write a boolean. -/
def readBool? (s : String) : Option Bool :=
  if ["true", "True", "TRUE"].contains s then some true
  else if ["false", "False", "FALSE"].contains s then some false
  else none

/-- Several digits that begin with a zero, with or without a sign. -/
def hasIdleZero (cs : List Char) : Bool :=
  let digits := (Decimal.splitSign cs).2
  1 < digits.length && digits.head? == some '0' && digits.all isDigit

/-- The number that digits of a base write. -/
def readBase? (base : Nat) (cs : List Char) : Option Nat :=
  if cs.isEmpty then none
  else cs.foldlM (fun n c => ((hexValue? c).filter (· < base)).map (base * n + ·)) 0

/-- The bases with the mark that goes before their digits. -/
def bases : List (Char × Nat) :=
  [('x', 16), ('o', 8), ('b', 2)]

/-- A number without sign in a base that is marked, or in base 10. -/
def readMagnitude? (cs : List Char) : Option Nat :=
  let marked := match cs with
    | '0' :: mark :: digits => (bases.lookup mark).bind fun base => readBase? base digits
    | _ => none
  marked.or (readBase? 10 cs)

/-- An integer of at most 128 bits. -/
def readInt? (cs : List Char) : Option Int :=
  if hasIdleZero cs then none
  else
    match cs with
    | '-' :: rest => ((readMagnitude? rest).filter (· ≤ Nat.pow 2 127)).map fun n => -(n : Int)
    | '+' :: rest => ((readMagnitude? rest).filter (· < Nat.pow 2 128)).map Int.ofNat
    | _ => ((readMagnitude? cs).filter (· < Nat.pow 2 128)).map Int.ofNat

/-- A double, infinite or no number only where it is written with a point in front. -/
def readReal? (s : String) : Option Float :=
  let unsigned := match s.toList with
    | '+' :: rest => String.ofList rest
    | _ => s
  if [".inf", ".Inf", ".INF"].contains unsigned then some (1.0 / 0.0)
  else if ["-.inf", "-.Inf", "-.INF"].contains s then some (-1.0 / 0.0)
  else if [".nan", ".NaN", ".NAN"].contains s then some (0.0 / 0.0)
  else if unsigned ≠ s && (unsigned.startsWith "+" || unsigned.startsWith "-") then none
  else (Decimal.readFloat? unsigned).filter (·.isFinite)

/-- The meaning of a plain scalar. -/
def Plain.ofText (s : String) : Plain :=
  if s.isEmpty || isNull s then .null
  else
    match readBool? s with
    | some b => .bool b
    | none =>
      match readInt? s.toList with
      | some n => .int n
      | none =>
        if hasIdleZero s.toList then .text
        else
          match readReal? s with
          | some x => .real x
          | none => .text

end StorageSetup.Yaml
