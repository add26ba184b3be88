import StorageSetup.Decimal.Fixed
import StorageSetup.Decimal.Read
import StorageSetup.Text.Blank
/-!
# Quantities

Capacities are reported as numbers with a suffix, and shown as sizes with one place.

Key definitions:
- `readQuantity?`: a number with a binary or decimal suffix
- `formatBytes`: a size in the largest unit that leaves at least one
-/

namespace StorageSetup

open StorageSetup.Text

/-- The suffixes with their factors, the two-letter ones first. -/
def quantitySuffixes : List (List Char × Float) := [
  (['K', 'i'], 1024.0),
  (['M', 'i'], 1048576.0),
  (['G', 'i'], 1073741824.0),
  (['T', 'i'], 1099511627776.0),
  (['P', 'i'], 1125899906842624.0),
  (['k'], 1e3),
  (['M'], 1e6),
  (['G'], 1e9),
  (['T'], 1e12),
  (['P'], 1e15),
  (['m'], 1e-3)]

/-- The text before an ending, if it has the ending. -/
def withoutEnding? (ending cs : List Char) : Option (List Char) :=
  if ending.isSuffixOf cs then some (cs.take (cs.length - ending.length)) else none

/-- A quantity as a plain number. The first suffix that fits decides. -/
def readQuantity? (quantity : String) : Option Float :=
  let cs := trimChars quantity.toList
  if cs.isEmpty then none
  else
    match quantitySuffixes.findSome? fun (ending, factor) =>
        (withoutEnding? ending cs).map fun number => (number, factor) with
    | some (number, factor) => (Decimal.readFloat? (String.ofList number)).map (· * factor)
    | none => Decimal.readFloat? (String.ofList cs)

/-- Divides by 1024 while that leaves at least one and a larger unit is there. -/
def scaleBytes : List String → String → Float → Float × String
  | [], unit, value => (value, unit)
  | next :: rest, unit, value =>
    if 1024.0 ≤ value then scaleBytes rest next (value / 1024.0) else (value, unit)

/-- A size with one place in the largest unit that leaves at least one, bytes without a place. -/
def formatBytes (bytes : UInt64) : String :=
  if bytes < 1024 then toString bytes.toNat ++ " B"
  else
    let (value, unit) := scaleBytes ["KiB", "MiB", "GiB", "TiB", "PiB"] "B" bytes.toFloat
    Decimal.fixed 1 value ++ " " ++ unit

end StorageSetup
