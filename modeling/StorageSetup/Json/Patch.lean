import StorageSetup.Json.Basic
/-!
# Merge patches

A merge patch is a value that looks like the part of the target it changes. Its members replace
those of the target, null removes one, and anything but an object replaces the target.

Key definitions:
- `eraseEntry`: a list of entries without a key
- `mergePatch`: the target with the patch merged in
-/

namespace StorageSetup

/-- The entries of other keys. -/
def eraseEntry {α : Type} (k : String) (entries : List (String × α)) : List (String × α) :=
  entries.filter (·.1 ≠ k)

namespace Json

mutual

/-- The target with the patch merged in. -/
def mergePatch (target : Json) : Json → Json
  | obj changes => obj (mergeMembers target.members changes)
  | patch => patch

/-- The members of the target with the changes made in order. -/
def mergeMembers (target : List (String × Json)) :
    List (String × Json) → List (String × Json)
  | [] => target
  | (k, null) :: rest => mergeMembers (eraseEntry k target) rest
  | (k, change) :: rest =>
    mergeMembers
      (insertEntry k (mergePatch ((lookupEntry k target).getD null) change) target) rest

end

end Json

end StorageSetup
