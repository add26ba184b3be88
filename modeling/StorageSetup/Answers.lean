import StorageSetup.Node
import StorageSetup.Wizard.Action
import StorageSetup.Yaml.Decode
/-!
# Answers files

A run without a terminal takes its choices from a file: the names of the nodes to use, and wizard
actions in the form in which they are written as JSON.

Key definitions:
- `Answers`, `Answers.ofYaml`: what a file says
- `Answers.decodeActions`: its actions
- `Answers.resolveNodes`: its nodes in an inventory
-/

namespace StorageSetup

open Yaml (Decode)

/-- What an answers file says. -/
structure Answers where
  nodes : List String := []
  /-- The actions before they are decoded. -/
  actions : List Json := []

namespace Answers

/-- A node that the cluster does not have. -/
structure UnknownNode where
  name : String
  deriving DecidableEq, Repr

def UnknownNode.message (e : UnknownNode) : String :=
  "Unknown node: " ++ e.name

/-- The fields of the file. Its own mapping is the outermost collection. -/
def fields : List (Decode.Setter Answers) :=
  let depth := Yaml.maxDepth - 1
  [ { name := "nodes"
      set := fun v a doc => do
        return { a with nodes := ← Decode.sequence (fun _ => Decode.text) depth v doc } },
    { name := "actions"
      set := fun v a doc => do
        return { a with actions := ← Decode.sequence Decode.json depth v doc } }]

def ofYaml (content : String) : Except Yaml.Error Answers :=
  Yaml.readRecord fields {} content

/-- The actions in order; the first that does not decode fails the file. -/
def decodeActions (a : Answers) : Except ActionError (List Action) :=
  a.actions.mapM Action.ofJson

/-- The first node of a name. -/
def findNode (inventory : List Node) (name : String) : Except UnknownNode Node :=
  match inventory.find? (·.name == name) with
  | some n => .ok n
  | none => .error ⟨name⟩

/-- The named nodes in the order of the file, a node as often as it is named. -/
def resolveNodes (a : Answers) (inventory : List Node) : Except UnknownNode (List Node) :=
  a.nodes.mapM (findNode inventory)

end Answers

end StorageSetup
