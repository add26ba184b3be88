import StorageSetup.Text.Blank
import StorageSetup.Text.Digits
import StorageSetup.Wizard.Action
/-!
# Rows of a form

A step of the wizard is edited in rows. A row shows a value and says what can be done with it:
nothing, dispatching actions at once, or entering a text from which actions are made. A text that
makes no actions is rejected.

Key definitions:
- `Row`, `Edit`: a row and its way of editing
- `Row.info`, `Row.toggle`, `Row.choice`, `Row.option`, `Row.text`, `Row.secret`: the kinds of rows
- `cycle`: the choice after the current one
-/

namespace StorageSetup

/-- The files that can be read, by path. -/
abbrev Files := String → Option String

/-- What Enter does on a row. -/
inductive Edit where
  | readOnly
  /-- Dispatches the actions. -/
  | activate (actions : List Action)
  /-- Opens an editor on the value; the entered text makes the actions or is rejected. -/
  | text (value : String) (secret : Bool) (apply : Files → String → Option (List Action))

/-- A row of a form. -/
structure Row where
  label : String
  display : String
  edit : Edit

/-- A box with or without a mark. -/
def mark (on : Bool) : String :=
  if on then "[x]" else "[ ]"

/-- A star for each character. -/
def mask (value : String) : String :=
  Text.fill value.length '*'

namespace Row

/-- A row to read. -/
def info (label display : String) : Row :=
  ⟨label, display, .readOnly⟩

/-- A row that shows whether something is on. -/
def toggle (label : String) (on : Bool) (action : Action) : Row :=
  ⟨label, mark on, .activate [action]⟩

/-- A row that moves to another choice. -/
def choice (label display : String) (actions : List Action) : Row :=
  ⟨label, display, .activate actions⟩

/-- One of several choices that have a row each. -/
def option (label : String) (selected : Bool) (text : String) (action : Action) : Row :=
  ⟨label, mark selected ++ " " ++ text, .activate [action]⟩

/-- A text that is accepted or rejected by its content. -/
def checked (label value : String) (apply : String → Option (List Action)) : Row :=
  ⟨label, value, .text value false fun _ => apply⟩

/-- A text for which every content is accepted. -/
def text (label value : String) (apply : String → List Action) : Row :=
  checked label value fun s => some (apply s)

/-- A text that is shown masked. -/
def secret (label value : String) (apply : String → List Action) : Row :=
  ⟨label, mask value, .text value true fun _ s => some (apply s)⟩

/-- A document that is read from the file at the entered path. -/
def document (label : String) (loaded : Option String) (apply : String → List Action) : Row where
  label := label
  display := match loaded with
    | some content => "loaded (" ++ toString content.utf8ByteSize ++ " bytes)"
    | none => "not set"
  edit := .text "" false fun files path => (files (Text.trim path)).map apply

def isEditable (r : Row) : Bool :=
  match r.edit with
  | .readOnly => false
  | _ => true

end Row

/-- The choice after the current one, the first where the current one is not among them. -/
def cycle (choices : List String) (current : String) : Option String :=
  match choices.findIdx? (· == current) with
  | some i => choices[(i + 1) % choices.length]?
  | none => choices.head?

end StorageSetup
