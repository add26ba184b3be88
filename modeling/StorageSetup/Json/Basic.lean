import StorageSetup.Data.Dict
/-!
# JSON values

Documents, resource bodies and saved actions are JSON values. An object lists its members in the
order of writing; the canonical form sorts them by name and keeps the last of each.

Key definitions:
- `Number`: an integer of 64 bits, or a double
- `Json`: the values
- `Json.canonical`: members sorted by name, the last of each name kept
- `Json.object`, `Json.member?`, `Json.at?`: construction of and access to objects
-/

namespace StorageSetup

/-- A JSON number: an integer, or a double where a fraction or an exponent was written. -/
inductive Number where
  | int (n : Int)
  | real (x : Float)
  deriving Inhabited

/-- A JSON value. -/
inductive Json where
  | null
  | bool (b : Bool)
  | num (n : Number)
  | str (s : String)
  | arr (items : List Json)
  | obj (members : List (String × Json))
  deriving Inhabited

namespace Json

mutual

/-- The value with the members of every object sorted, the last of each name kept. -/
def canonical : Json → Json
  | null => null
  | bool b => bool b
  | num n => num n
  | str s => str s
  | arr items => arr (canonicalItems items)
  | obj members => obj (sortEntries (canonicalMembers members))

def canonicalItems : List Json → List Json
  | [] => []
  | v :: rest => canonical v :: canonicalItems rest

def canonicalMembers : List (String × Json) → List (String × Json)
  | [] => []
  | (k, v) :: rest => (k, canonical v) :: canonicalMembers rest

end

/-- An object from its members in any order. -/
def object (members : List (String × Json)) : Json :=
  obj (sortEntries members)

/-- An integer as a value. -/
def int (n : Int) : Json :=
  num (.int n)

/-- A natural number as a value. -/
def nat (n : Nat) : Json :=
  num (.int (Int.ofNat n))

/-- A double as a value; there is no number that is not finite. -/
def real (x : Float) : Json :=
  if x.isFinite then num (.real x) else null

/-- A text, or null for none. -/
def ofOption {α : Type} (f : α → Json) : Option α → Json
  | none => null
  | some a => f a

/-- A list of texts. -/
def strings (items : List String) : Json :=
  arr (items.map str)

/-- The members of a dictionary as an object. -/
def ofDict {α : Type} (f : α → Json) (d : Dict α) : Json :=
  obj (d.entries.map fun e => (e.1, f e.2))

/-- A dictionary of texts as an object. -/
def texts (d : Dict String) : Json :=
  ofDict str d

/-- The member of an object with the name. -/
def member? (name : String) : Json → Option Json
  | obj members => lookupEntry name members
  | _ => none

/-- The value reached by following member names. -/
def at? (path : List String) (v : Json) : Option Json :=
  match path with
  | [] => some v
  | name :: rest => (v.member? name).bind (at? rest)

def string? : Json → Option String
  | str s => some s
  | _ => none

def bool? : Json → Option Bool
  | bool b => some b
  | _ => none

/-- The number of a natural number that fits in 64 bits. -/
def nat? : Json → Option Nat
  | num (.int (.ofNat n)) => some n
  | _ => none

def items? : Json → Option (List Json)
  | arr items => some items
  | _ => none

/-- The members of an object, none for other values. -/
def members : Json → List (String × Json)
  | obj ms => ms
  | _ => []

/-- Writes a member of an object. -/
def setMember (v : Json) (name : String) (value : Json) : Json :=
  match v with
  | obj ms => obj (insertEntry name value ms)
  | other => other

def Number.same : Number → Number → Bool
  | .int a, .int b => a == b
  | .real a, .real b => a == b
  | _, _ => false

mutual

/-- Equality of canonical values; doubles are compared as numbers. -/
def same : Json → Json → Bool
  | null, null => true
  | bool a, bool b => a == b
  | num a, num b => Number.same a b
  | str a, str b => a == b
  | arr a, arr b => sameItems a b
  | obj a, obj b => sameMembers a b
  | _, _ => false

def sameItems : List Json → List Json → Bool
  | [], [] => true
  | a :: as, b :: bs => same a b && sameItems as bs
  | _, _ => false

def sameMembers : List (String × Json) → List (String × Json) → Bool
  | [], [] => true
  | (k, a) :: as, (j, b) :: bs => k == j && same a b && sameMembers as bs
  | _, _ => false

end

end Json

end StorageSetup
