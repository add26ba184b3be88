import StorageSetup.Screen.Basic
/-!
# Events on the screen

Keys change the screen or ask for something that is done outside it: to leave, to load the inventory
again, or to submit the plan. What is done outside reports back by events as well. A text that is
being edited takes all keys, and a submission that has started freezes the form.

Key definitions:
- `Key`, `Command`: the keys, and what they ask for
- `Screen.press`: a key on the screen
- `Screen.Event`, `Screen.handle`, `Screen.after`: all events, one and several
-/

namespace StorageSetup

/-- A key. The space bar is the character of a space. -/
inductive Key where
  | enter
  | esc
  | backspace
  | tab
  | backTab
  | up
  | down
  | left
  | right
  | home
  | char (c : Char)
  deriving DecidableEq, Repr

/-- What the screen asks for. -/
inductive Command where
  | quit
  | refresh
  | submit
  deriving DecidableEq, Repr

namespace Screen

/-! ## Keys in the editor -/

/-- Ends editing with a text: the selected row makes actions of it or rejects it. -/
def commit (s : Screen) (files : Files) (text : String) : Screen :=
  let closed := { s with editing := none }
  let actions? := s.selectedRow?.bind fun row =>
    match row.edit with
    | .text _ _ apply => apply files text
    | _ => none
  match actions? with
  | some actions => closed.dispatch actions
  | none => { closed with notice := some (.invalidValue text) }

/-- The text without its last character. -/
def withoutLast (text : String) : String :=
  String.ofList text.toList.dropLast

/-- A key while a text is being edited. -/
def pressInEditor (s : Screen) (files : Files) (text : String) : Key → Screen
  | .enter => s.commit files text
  | .esc => { s with editing := none }
  | .backspace => { s with editing := some (withoutLast text) }
  | .char c => { s with editing := some (text.push c) }
  | _ => s

/-! ## Keys on the form -/

/-- Selects the row above, the last one above the first. -/
def selectPrevious (s : Screen) : Screen :=
  let count := s.rows.length
  if count = 0 then s
  else { s with selected := if s.selected = 0 then count - 1 else s.selected - 1 }

/-- Selects the row below, the first one below the last. -/
def selectNext (s : Screen) : Screen :=
  let count := s.rows.length
  if count = 0 then s else { s with selected := (s.selected + 1) % count }

/-- Does what the selected row is for. A row of the summary submits. -/
def activate (s : Screen) : Screen × Option Command :=
  match s.selectedRow?.map Row.edit with
  | some (.activate actions) => (s.dispatch actions, none)
  | some (.text value _ _) => ({ s with editing := some value }, none)
  | some .readOnly => (s, if s.step = .reviewAndCreate then some .submit else none)
  | none => (s, none)

/-- Enters the step a move leads to, or says why it is refused. -/
def follow (s : Screen) : Except NavigationError Session → Screen
  | .ok session => enterStep { s with session := session }
  | .error reason => { s with notice := some (.refused reason) }

def goNext (s : Screen) : Screen :=
  s.follow (s.session.next.map (·.1))

def goBack (s : Screen) : Screen :=
  s.follow (.ok s.session.back)

def jumpTo (s : Screen) (id : UInt32) : Screen :=
  s.follow (s.session.jumpTo id)

/-- The step that a digit from one to nine stands for. -/
def stepOfDigit? (c : Char) : Option UInt32 :=
  if '1' ≤ c ∧ c ≤ '9' then some (UInt32.ofNat (c.toNat - '0'.toNat)) else none

/-- A key on the form. -/
def pressOnForm (s : Screen) : Key → Screen × Option Command
  | .char 'q' | .esc => (s, some .quit)
  | .char 'r' => (s, some .refresh)
  | .up | .char 'k' => (s.selectPrevious, none)
  | .down | .char 'j' => (s.selectNext, none)
  | .enter | .char ' ' => s.activate
  | .tab | .right | .char 'n' => (s.goNext, none)
  | .backTab | .left | .char 'p' => (s.goBack, none)
  | .char c =>
    match stepOfDigit? c with
    | some id => (s.jumpTo id, none)
    | none => (s, none)
  | .backspace | .home => (s, none)

/-- The keys that leave a screen whose submission has started. -/
def leavesWhile : Submission → List Key
  | .idle => []
  | .running _ _ => [.char 'q']
  | .done => [.enter, .char 'q', .esc]
  | .failed _ _ => [.char 'q', .esc]

/-- A key on the screen. -/
def press (files : Files) (k : Key) (s : Screen) : Screen × Option Command :=
  match s.editing, s.submission with
  | some text, _ => (s.pressInEditor files text k, none)
  | none, .idle => s.pressOnForm k
  | none, submission => (s, if k ∈ leavesWhile submission then some .quit else none)

/-! ## Events -/

/-- What happens to a screen. -/
inductive Event where
  | key (k : Key)
  | tick
  /-- The inventory is being loaded again. -/
  | loading
  /-- The inventory is here, or the reason why it is not. -/
  | inventory (result : Except String Inventory)
  | progress (index : Nat) (operation : String)
  /-- The submission ended, with the place and reason of its failure if it failed. -/
  | finished (failure : Option (Nat × String))

/-- Shows an inventory, whose facts about the cluster the gates depend on. -/
def showInventory (s : Screen) : Except String Inventory → Screen
  | .ok i =>
    refreshLocalVolumes { s with
      session := s.session.setContext i.context
      inventory := .loaded i }
  | .error message => { s with inventory := .failed message }

/-- The screen after an event, and what it asks for. -/
def handle (files : Files) (s : Screen) : Event → Screen × Option Command
  | .key k => s.press files k
  | .tick => ({ s with spinner := s.spinner + 1 }, none)
  | .loading => ({ s with inventory := .loading }, none)
  | .inventory result => (s.showInventory result, none)
  | .progress index operation => ({ s with submission := .running index operation }, none)
  | .finished none => ({ s with submission := .done }, none)
  | .finished (some (index, error)) => ({ s with submission := .failed index error }, none)

/-- The screen after several events in order, each with the files as they are then. -/
def after (s : Screen) (events : List (Files × Event)) : Screen :=
  events.foldl (fun s e => (s.handle e.1 e.2).1) s

/-- The screen after several events in order, with the same files for all. -/
def run (files : Files) (s : Screen) (events : List Event) : Screen :=
  s.after (events.map fun e => (files, e))

end Screen

end StorageSetup
