import StorageSetup.Screen.Canvas
import StorageSetup.Screen.Event
/-!
# Drawing the screen

A heading, the list of steps beside the form of the current one, and a footing with a message and
the keys. The last step shows the planned operations below its form. Drawing scrolls the form so far
that the selected row is seen.

Key definitions:
- `Drawing`: what is on the terminal
- `Screen.scrolled`: the screen with the form scrolled to the selection
- `Screen.draw`: the drawing of a screen in a given size
-/

namespace StorageSetup

/-- What is on the terminal, with the numbers of the highlighted lines. -/
structure Drawing where
  lines : List String
  highlighted : List Nat
  deriving Repr

namespace Screen

open Canvas (Line fit)

/-- The size of the terminal. -/
structure Size where
  width : Nat := 100
  height : Nat := 30

/-- The pictures of work in progress. -/
def spinnerFrames : List String :=
  ["⠋", "⠙", "⠹", "⠸", "⠼", "⠴", "⠦", "⠧", "⠇", "⠏"]

def spinnerFrame (s : Screen) : String :=
  spinnerFrames.getD (s.spinner % spinnerFrames.length) ""

/-! ## Heading and footing -/

/-- The state of the inventory with its sign. -/
def inventoryText (s : Screen) : String :=
  match s.inventory with
  | .loaded i => " ● " ++ toString i.nodes.length ++ " nodes"
  | .failed message => " ✗ " ++ message
  | .idle | .loading => " " ++ s.spinnerFrame ++ " Loading cluster..."

def headingText (s : Screen) : String :=
  let step := s.session.currentStep
  " Create StorageSystem   Step " ++ toString step.id.toNat ++ " of " ++
    toString s.session.steps.length ++ ": " ++ step.name.title ++ "  " ++ s.inventoryText

/-- What helps with failures that are met often. -/
def hint (error : String) : Option String :=
  let mentions (part : String) := Text.containsText part.toList error.toList
  if mentions "already exists" then
    some "A resource from a previous attempt is still present. Remove it and retry."
  else if mentions "forbidden" then
    some "The current kubeconfig user lacks permission for this operation."
  else if mentions "timed out" then
    some "The vendor operator did not install its CRD in time."
  else none

/-- An error and what helps with it, in one line. -/
def failureText (error : String) : String :=
  let hinted := match hint error with
    | some help => error ++ "\n\n" ++ help
    | none => error
  hinted.map fun c => if c = '\n' then ' ' else c

/-- The message: how far the submission is, else the notice, else why the step cannot be left. -/
def messageText (s : Screen) : String :=
  match s.submission with
  | .running _ operation => " " ++ s.spinnerFrame ++ " " ++ operation
  | .done => " Storage system created. Press Enter to exit."
  | .failed _ error => " " ++ failureText error
  | .idle =>
    match s.notice, s.session.blockingReason with
    | some notice, _ => " " ++ notice.message
    | none, some reason => " " ++ reason.message
    | none, none => ""

/-- The keys that can be used. -/
def helpText (s : Screen) : String :=
  if s.editing.isSome then " [Enter] save  [Esc] cancel"
  else if s.session.isLastStep then " [Enter] create  [p] back  [q] quit"
  else " [↑↓/jk] navigate  [Enter] edit  [n/p] next/back  [1-9] jump  [r] reload  [q] quit"

/-! ## Steps, form and operations -/

def stepLine (s : Screen) (width : Nat) (step : Step) : Line :=
  let sign := if step.id = s.session.currentStep.id then "▸ " else "  "
  fit width (sign ++ toString step.id.toNat ++ ". " ++ step.name.title)

def stepsBox (s : Screen) (width height : Nat) : List Line :=
  Canvas.box " Steps " width height (s.session.steps.map (s.stepLine (width - 2)))

/-- The text of a row's value: the text being edited with a cursor behind it, or the display. -/
def valueText (s : Screen) (place : Nat) (row : Row) : String :=
  match s.editing, row.edit with
  | some text, .text _ secret _ =>
    if place = s.selected then (if secret then mask text else text) ++ "_" else row.display
  | _, _ => row.display

/-- A row of the form: its label in 32 cells, a blank, and its value in the others. -/
def rowLine (s : Screen) (width place : Nat) (row : Row) : Line :=
  fit (min 32 (width - 1)) (Canvas.firstLine row.label) ++ Canvas.blank (min 1 width) ++
    fit (width - 33) (Canvas.firstLine (s.valueText place row))

/-- The first row to draw, so that the selected one is among those that fit. The place where drawing
began before is kept if it can be. -/
def firstRow (count height offset selected : Nat) : Nat :=
  let start := min offset (count - 1)
  if min count (start + height) ≤ selected then selected + 1 - height
  else min start selected

/-- The screen with the form scrolled to the selection, in an area of the given size. -/
def scrolled (s : Screen) (width height : Nat) : Screen :=
  if width = 0 || height = 0 then s
  else
    let s := s.clampSelection
    { s with offset := firstRow s.rows.length height s.offset s.selected }

/-- The lines of the form, one for each row. -/
def formLines (s : Screen) (width : Nat) : List Line :=
  s.rows.zipIdx.map fun (row, place) => s.rowLine width place row

/-- The form from the given row on. -/
def formBox (s : Screen) (offset width height : Nat) : List Line :=
  Canvas.box (" " ++ s.step.title ++ " ") width height ((s.formLines (width - 2)).drop offset)

/-- The sign of an operation of the plan. -/
def operationSign (s : Screen) (index : Nat) : String :=
  match s.submission with
  | .idle => "·"
  | .done => "✓"
  | .running now _ =>
    if index < now then "✓" else if index = now then s.spinnerFrame else "·"
  | .failed now _ => if index < now then "✓" else if index = now then "✗" else "·"

/-- The lines of the plan, or of the reason why there is none. -/
def planLines (s : Screen) (width : Nat) : List Line :=
  match s.plan with
  | some (.ok plan) =>
    plan.operations.zipIdx.map fun (operation, index) =>
      fit width (" " ++ s.operationSign index ++ " " ++ operation.text)
  | some (.error e) => [fit width ("  " ++ e.message)]
  | none => []

def planBox (s : Screen) (width height : Nat) : List Line :=
  Canvas.box " Operations " width height (s.planLines (width - 2))

/-! ## The whole -/

/-- The height of the form: all of the area, or 45 percent of it beside the operations. -/
def formHeight (s : Screen) (height : Nat) : Nat :=
  if s.step = .reviewAndCreate then (45 * height + 50) / 100 else height

/-- The area between heading and footing, with the form from the given row on. -/
def content (s : Screen) (offset width height : Nat) : List Line :=
  let right := width - 30
  let upper := s.formHeight height
  let form := s.formBox offset right upper
  Canvas.beside (s.stepsBox (min 30 width) height)
    (if s.step = .reviewAndCreate then form ++ s.planBox right (height - upper) else form)

/-- All lines, with the form from the given row on. -/
def layout (s : Screen) (offset : Nat) (size : Size) : List Line :=
  let width := size.width
  [fit width s.headingText, Canvas.run width "─"] ++
    s.content offset width (size.height - 5) ++
    [Canvas.run width "─", fit width s.messageText, fit width s.helpText]

/-- The screen after it was drawn in the given size, and the drawing. A text that was being edited
on a row that is gone is not seen, even though another row is selected from then on. -/
def draw (s : Screen) (size : Size) : Screen × Drawing :=
  let width := size.width - 32
  let height := s.formHeight (size.height - 5) - 2
  let shown := s.scrolled width height
  (shown, {
    lines := ((s.layout shown.offset size).map Canvas.printed).take size.height
    highlighted := if width = 0 || height = 0 then [] else [3 + (shown.selected - shown.offset)] })

end Screen

end StorageSetup
