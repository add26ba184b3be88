/-!
# The exact value of a double

A finite double is `mantissa * 2 ^ exponent` exactly. Every decimal text of a double is computed
from this pair in natural numbers, so no rounding of the machine enters.

Key definitions:
- `Binary`: sign and magnitude of a double
- `Binary.ofFloat`: read from the bits
- `Ratio`: a quotient of naturals, `Magnitude.ratio` the value of a magnitude as one
-/

namespace StorageSetup.Decimal

/-- The magnitude of a double. -/
inductive Magnitude where
  | nan
  | infinite
  | finite (mantissa : Nat) (exponent : Int)
  deriving DecidableEq, Repr

/-- Sign and magnitude of a double. -/
structure Binary where
  negative : Bool
  magnitude : Magnitude
  deriving DecidableEq, Repr

/-- A double from its 64 bits: sign, 11 bits of exponent, 52 bits of fraction. -/
def Binary.ofBits (bits : Nat) : Binary :=
  let negative := bits / Nat.pow 2 63 % 2 == 1
  let field := bits / Nat.pow 2 52 % Nat.pow 2 11
  let fraction := bits % Nat.pow 2 52
  let magnitude :=
    if field == 2047 then
      if fraction == 0 then Magnitude.infinite else Magnitude.nan
    else if field == 0 then Magnitude.finite fraction (-1074)
    else Magnitude.finite (Nat.pow 2 52 + fraction) (Int.ofNat field - 1075)
  ⟨negative, magnitude⟩

def Binary.ofFloat (x : Float) : Binary :=
  Binary.ofBits x.toBits.toNat

/-- A quotient of naturals. -/
structure Ratio where
  num : Nat
  den : Nat
  deriving DecidableEq, Repr

/-- The quotient `n * 2 ^ e`. -/
def Ratio.scaled (n : Nat) (e : Int) : Ratio :=
  if 0 ≤ e then ⟨n * Nat.pow 2 e.toNat, 1⟩ else ⟨n, Nat.pow 2 (-e).toNat⟩

/-- The integer nearest to `num / den`; half way between two, the even one. -/
def roundDiv (num den : Nat) : Nat :=
  let q := num / den
  let r := num % den
  if 2 * r < den then q
  else if den < 2 * r then q + 1
  else if q % 2 = 0 then q
  else q + 1

end StorageSetup.Decimal
