/-!
# Searching texts

Key definitions:
- `containsText`: whether a text holds another
- `withoutBeginning?`: what follows a beginning
-/

namespace StorageSetup.Text

/-- Whether the text contains the other as consecutive characters. -/
def containsText (part : List Char) : List Char → Bool
  | [] => part.isEmpty
  | c :: rest => part.isPrefixOf (c :: rest) || containsText part rest

/-- The text behind a beginning, if it begins so. -/
def withoutBeginning? : List Char → List Char → Option (List Char)
  | [], cs => some cs
  | _ :: _, [] => none
  | p :: ps, c :: cs => if p = c then withoutBeginning? ps cs else none

end StorageSetup.Text
