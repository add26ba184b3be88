import StorageSetup.Cluster.Object
import StorageSetup.Node
/-!
# Taints of nodes

A taint is recognised by its key and effect; its value may differ. A node keeps the taints it has,
and a new one goes behind them.

Key definitions:
- `NodeTaint`: a taint as the API holds it
- `withTaint`: the taints of a node with one more
-/

namespace StorageSetup

open Json (Decoder)

/-- A taint as the API holds it. -/
structure NodeTaint where
  key : String
  effect : String
  value : Option String := none
  /-- When the taint was put on the node. -/
  timeAdded : Option String := none
  deriving DecidableEq, Repr, Inhabited

namespace NodeTaint

def toJson (t : NodeTaint) : Json :=
  .obj ([("effect", .str t.effect), ("key", .str t.key)] ++
    (t.timeAdded.map fun at' => ("timeAdded", Json.str at')).toList ++
    (t.value.map fun v => ("value", Json.str v)).toList)

def decode : Decoder NodeTaint := fun r v => do
  let kept ← Json.known "Taint" [Json.always "effect", Json.always "key",
    Json.maybe "timeAdded" Json.keepTime, Json.maybe "value" Json.keepText] r v
  let text? (name : String) := (kept.member? name).bind Json.string?
  .ok { key := (text? "key").getD "", effect := (text? "effect").getD "", value := text? "value",
        timeAdded := text? "timeAdded" }

/-- The same mark on a node, whatever the values. -/
def marks (t : NodeTaint) (taint : Taint) : Bool :=
  t.key == taint.key && t.effect == taint.effect

/-- A taint to put on a node; an empty value is left out. -/
def ofTaint (t : Taint) : NodeTaint :=
  { key := t.key, effect := t.effect, value := if t.value.isEmpty then none else some t.value }

/-- The taint without the time. -/
def toTaint (t : NodeTaint) : Taint :=
  ⟨t.key, t.value.getD "", t.effect⟩

end NodeTaint

/-- The taints with one more behind them, none where it is there already. -/
def withTaint (existing : List NodeTaint) (taint : Taint) : Option (List NodeTaint) :=
  if existing.any (·.marks taint) then none else some (existing ++ [.ofTaint taint])

end StorageSetup
