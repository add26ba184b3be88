import StorageSetup.Decimal.Binary
/-!
# A fixed number of places

Sizes are shown with a fixed number of places after the point. The exact value of the double is
rounded to the nearest, a half to the even neighbour.
-/

namespace StorageSetup.Decimal

/-- The natural number `n` of units `10 ^ (-places)` in positional notation. -/
def pointed (n places : Nat) : String :=
  let text := Nat.toDigits 10 n
  if places = 0 then String.ofList text
  else
    let padded := List.replicate (places + 1 - text.length) '0' ++ text
    let whole := padded.length - places
    String.ofList (padded.take whole ++ '.' :: padded.drop whole)

/-- A double with the given number of places after the point. -/
def fixed (places : Nat) (x : Float) : String :=
  let b := Binary.ofFloat x
  match b.magnitude with
  | .nan => "NaN"
  | .infinite => if b.negative then "-inf" else "inf"
  | .finite m e =>
    let r := Ratio.scaled m e
    let body := pointed (roundDiv (r.num * Nat.pow 10 places) r.den) places
    if b.negative then "-" ++ body else body

end StorageSetup.Decimal
