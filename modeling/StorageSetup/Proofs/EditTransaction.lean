import StorageSetup.Proofs.Editor
import StorageSetup.Proofs.OneSubmission
import StorageSetup.Proofs.Stray
/-!
# An edit is a transaction

An open editor takes all keys, whatever they mean on the form. Until Enter or Esc they change its
text and nothing else. Esc drops the text. Enter hands it to the selected row: a text that the row
rejects changes nothing and is named in a notice, from another one the row makes actions, which are
all dispatched, in order, before the volume set follows the disks.

Key definitions: `Key.types`, `Key.typed`, `typedText`, `Screen.Committed`.
Key theorems: `Screen.press_typing`, `Screen.pressed_typing`, `Screen.committed_dispatch`,
`Screen.edit_transaction`.
-/

namespace StorageSetup

/-! ### Keys that type -/

/-- The key neither enters the text nor drops it. -/
def Key.types : Key → Bool
  | .enter | .esc => false
  | _ => true

/-- The characters of a text after a key. -/
def Key.typed (cs : List Char) : Key → List Char
  | .char c => cs ++ [c]
  | .backspace => cs.dropLast
  | _ => cs

/-- A text after several keys: each character is put behind it, Backspace takes the last one. -/
def typedText (text : String) (keys : List Key) : String :=
  String.ofList (keys.foldl Key.typed text.toList)

theorem typedText_nil (text : String) : typedText text [] = text :=
  String.ofList_toList

theorem typedText_cons (text : String) (k : Key) (keys : List Key) :
    typedText text (k :: keys) = typedText (String.ofList (k.typed text.toList)) keys := by
  unfold typedText
  rw [List.foldl_cons, String.toList_ofList]

namespace Screen

variable {s : Screen} {text : String}

/-- A key that types changes the text and asks for nothing. -/
theorem press_typing (files : Files) (hs : s.editing = some text) {k : Key}
    (hk : k.types = true) :
    s.press files k = ({ s with editing := some (String.ofList (k.typed text.toList)) }, none) := by
  have hkept : s = { s with editing := some (String.ofList text.toList) } := by
    rw [String.ofList_toList, ← hs]
  unfold press
  rw [hs]
  cases k with
  | enter | esc => cases hk
  | backspace => rfl
  | char c =>
    have hpush : text.push c = String.ofList (text.toList ++ [c]) := by
      rw [← String.toList_push, String.ofList_toList]
    exact congrArg (fun text => ({ s with editing := some text }, none)) hpush
  | _ => exact congrArg (·, none) hkept

/-- **Until Enter or Esc the keys change the text and nothing else.** -/
theorem pressed_typing : ∀ (keys : List (Files × Key)) {s : Screen} {text : String},
    s.editing = some text → (∀ k ∈ keys, k.2.types = true) →
    s.pressed keys = { s with editing := some (typedText text (keys.map (·.2))) } ∧
      s.commands (keys.map fun k => (k.1, .key k.2)) = []
  | [], s, text, hs, _ => by
    rw [List.map_nil, typedText_nil, ← hs]
    exact ⟨rfl, rfl⟩
  | k :: keys, s, text, hs, hkeys => by
    obtain ⟨hk, hrest⟩ := List.forall_mem_cons.mp hkeys
    have hpress := press_typing k.1 hs hk
    obtain ⟨hpressed, hcommands⟩ := pressed_typing keys
      (s := { s with editing := some (String.ofList (k.2.typed text.toList)) }) rfl hrest
    rw [List.map_cons, typedText_cons]
    constructor
    · show (s.press k.1 k.2).1.pressed keys = _
      rw [hpress]
      exact hpressed
    · show (s.press k.1 k.2).2.toList ++ (s.press k.1 k.2).1.commands _ = []
      rw [hpress]
      exact hcommands

/-! ### Entering the text -/

/-- The actions that the selected row makes of a text, nothing where it rejects the text. -/
def entered? (s : Screen) (files : Files) (text : String) : Option (List Action) :=
  s.selectedRow?.bind fun row => row.enter files text

/-- The actions were dispatched in order, then the volume set followed the disks of the inventory;
the selection is inside the form, and all else is as before. -/
structure Committed (s s' : Screen) (actions : List Action) : Prop where
  session : s'.session =
    (actions.foldl Session.dispatch s.session).following s.inventory.value?
  selected : s'.selected = min s.selected (s'.rows.length - 1)
  others : s' = { s with session := s'.session, selected := s'.selected, notice := none }

theorem committed_dispatch (s : Screen) (actions : List Action) :
    s.Committed (s.dispatch actions) actions := by
  unfold dispatch clampSelection
  rw [refreshLocalVolumes_eq]
  exact ⟨rfl, rfl, rfl⟩

theorem commit_eq_settle (s : Screen) (files : Files) (text : String) :
    s.commit files text = s.settle text (s.entered? files text) := by
  unfold entered?
  cases hrow : s.selectedRow? with
  | some row => exact commit_eq hrow files text
  | none =>
    unfold commit
    rw [hrow]
    rfl

/-- **An edit is made as a whole or not at all.** An editor is open, and keys other than Enter and
Esc are pressed: nothing but its text changes, which is the one at the start with each character put
behind it and the last one taken by Backspace, and nothing is asked for. Then Esc closes the editor
and does nothing else. Enter closes it too: where the selected row rejects the text, that is said
and nothing else happens; otherwise all actions of the row are dispatched. -/
theorem edit_transaction (s : Screen) (text : String) (hs : s.editing = some text)
    (keys : List (Files × Key)) (hkeys : ∀ k ∈ keys, k.2.types = true) :
    let typed := typedText text (keys.map (·.2))
    let t := s.pressed keys
    t = { s with editing := some typed } ∧
    s.commands (keys.map fun k => (k.1, .key k.2)) = [] ∧
    ∀ files,
      t.press files .esc = ({ s with editing := none }, none) ∧
      (s.entered? files typed = none →
        t.press files .enter =
          ({ s with editing := none, notice := some (.invalidValue typed) }, none)) ∧
      ∀ actions, s.entered? files typed = some actions →
        (t.press files .enter).2 = none ∧
          Committed { s with editing := none } (t.press files .enter).1 actions := by
  intro typed t
  obtain ⟨ht, hcommands⟩ := pressed_typing keys hs hkeys
  have hediting : t.editing = some typed := congrArg editing ht
  -- the rows are made of the walk and the inventory, which no key has changed
  have hentered (files : Files) : t.entered? files typed = s.entered? files typed := by
    rw [show t = _ from ht]
    rfl
  have henter (files : Files) : t.press files .enter =
      (t.settle typed (s.entered? files typed), none) := by
    unfold press
    rw [hediting, ← hentered, ← commit_eq_settle]
    rfl
  refine ⟨ht, hcommands, fun files => ⟨?_, fun hrejected => ?_, fun actions hactions => ?_⟩⟩
  · unfold press
    rw [hediting, show t = _ from ht]
    rfl
  · rw [henter, hrejected, show t = _ from ht]
    rfl
  · rw [henter, hactions, show t = _ from ht]
    exact ⟨rfl, committed_dispatch _ actions⟩

/-- A slip is taken back, and what is left is entered for a password. -/
theorem edit_transaction_slip :
    let s := (onPassword.press noFiles .enter).1
    let keys := [Key.char 's', .char 'x', .backspace].map fun k => (noFiles, k)
    s.editing = some "" ∧ (∀ k ∈ keys, k.2.types = true) ∧
      ∃ actions, s.entered? noFiles "s" = some actions ∧
        Committed { s with editing := none } ((s.pressed keys).press noFiles .enter).1 actions := by
  intro s keys
  have hs : s.editing = some "" := by decide +kernel
  have hkeys : ∀ k ∈ keys, k.2.types = true := by decide
  obtain ⟨actions, hactions⟩ : ∃ actions, s.entered? noFiles "s" = some actions :=
    Option.isSome_iff_exists.mp (by decide +kernel)
  have hmade := edit_transaction s "" hs keys hkeys
  exact ⟨hs, hkeys, actions, hactions, ((hmade.2.2 noFiles).2.2 actions hactions).2⟩

end Screen
end StorageSetup
