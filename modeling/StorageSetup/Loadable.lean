/-!
# Loaded data

Data fetched from the cluster is not asked for yet, on its way, here, or failed with a message.
-/

namespace StorageSetup

/-- The state of data that is fetched. -/
inductive Loadable (α : Type) where
  | idle
  | loading
  | loaded (value : α)
  | failed (message : String)
  deriving Repr

namespace Loadable

variable {α β : Type}

def isIdle : Loadable α → Bool
  | idle => true
  | _ => false

def isLoading : Loadable α → Bool
  | loading => true
  | _ => false

def value? : Loadable α → Option α
  | loaded value => some value
  | _ => none

def error? : Loadable α → Option String
  | failed message => some message
  | _ => none

/-- The data or the message of a finished fetch. -/
def ofResult : Except String α → Loadable α
  | .ok value => loaded value
  | .error message => failed message

/-- The state with the data changed, if it is here. -/
def map (f : α → β) : Loadable α → Loadable β
  | idle => idle
  | loading => loading
  | loaded value => loaded (f value)
  | failed message => failed message

end Loadable

end StorageSetup
