import StorageSetup.Json.Number
/-!
# Reading JSON texts

A strict reader: one value with blanks around it, at most 127 nested arrays and objects, no lone
surrogate and no number beyond the range of doubles. Members stay in the order of the text, so
that a reader of a fixed set of members can refuse a repeated one. Members that nobody asks for have
to follow the grammar only.

Key definitions:
- `Json.Shape`: what is asked for in a text
- `Json.skipValue?`: the rest of a text behind its first value
- `Json.readValue?`: the first value of a text and the rest after it
- `Json.parseAs?`, `Json.parse?`: the value of a text
-/

namespace StorageSetup.Json

open StorageSetup.Text

/-- The four blanks of JSON. -/
def isBlankChar (c : Char) : Bool :=
  c = ' ' || c = '\n' || c = '\t' || c = '\r'

def skipBlanks (cs : List Char) : List Char :=
  cs.dropWhile isBlankChar

/-- Four hexadecimal digits. -/
def hexUnit? : List Char → Option (Nat × List Char)
  | a :: b :: c :: d :: rest => do
    let a ← hexValue? a
    let b ← hexValue? b
    let c ← hexValue? c
    let d ← hexValue? d
    some (((a * 16 + b) * 16 + c) * 16 + d, rest)
  | _ => none

/-- The character after `\u`: one unit, or a leading surrogate and its trailing one. -/
def escapedUnit? (cs : List Char) : Option (Char × List Char) := do
  let (unit, rest) ← hexUnit? cs
  if 0xD800 ≤ unit && unit ≤ 0xDBFF then
    match rest with
    | '\\' :: 'u' :: rest =>
      let (low, rest) ← hexUnit? rest
      if 0xDC00 ≤ low && low ≤ 0xDFFF then
        some (Char.ofNat (0x10000 + (unit - 0xD800) * 0x400 + (low - 0xDC00)), rest)
      else none
    | _ => none
  else if 0xDC00 ≤ unit && unit ≤ 0xDFFF then none
  else some (Char.ofNat unit, rest)

/-- The character after a backslash and the rest of the text. -/
def escape? : List Char → Option (Char × List Char)
  | '"' :: rest => some ('"', rest)
  | '\\' :: rest => some ('\\', rest)
  | '/' :: rest => some ('/', rest)
  | 'b' :: rest => some ('\x08', rest)
  | 'f' :: rest => some ('\x0c', rest)
  | 'n' :: rest => some ('\n', rest)
  | 'r' :: rest => some ('\r', rest)
  | 't' :: rest => some ('\t', rest)
  | 'u' :: rest => escapedUnit? rest
  | _ => none

/-- The rest of a string after its opening quote. The fuel bounds the number of characters. -/
def stringBody? : Nat → List Char → List Char → Option (String × List Char)
  | 0, _, _ => none
  | _ + 1, _, [] => none
  | _ + 1, acc, '"' :: rest => some (String.ofList acc.reverse, rest)
  | fuel + 1, acc, '\\' :: rest => do
    let (c, rest) ← escape? rest
    stringBody? fuel (c :: acc) rest
  | fuel + 1, acc, c :: rest =>
    if c.toNat < 0x20 then none else stringBody? fuel (c :: acc) rest

/-- Arrays and objects may be nested this deep. -/
def maxDepth : Nat := 127

/-- A literal word. -/
def word? (word : String) (value : Json) (cs : List Char) : Option (Json × List Char) :=
  if word.toList.isPrefixOf cs then some (value, cs.drop word.length) else none

/-! ## Values that nobody asks for -/

/-- The rest behind a string, from behind its opening quote. An escaped unit need not be a
character. -/
def skipString? : Nat → List Char → Option (List Char)
  | 0, _ => none
  | _ + 1, [] => none
  | _ + 1, '"' :: rest => some rest
  | fuel + 1, '\\' :: 'u' :: rest => (hexUnit? rest).bind fun (_, rest) => skipString? fuel rest
  | fuel + 1, '\\' :: rest => (escape? rest).bind fun (_, rest) => skipString? fuel rest
  | fuel + 1, c :: rest => if c.toNat < 0x20 then none else skipString? fuel rest

mutual

/-- The rest behind a value, however deep it is nested and whatever its numbers are. -/
def skipValue? : Nat → List Char → Option (List Char)
  | 0, _ => none
  | fuel + 1, cs =>
    match skipBlanks cs with
    | [] => none
    | 'n' :: rest => (word? "null" null ('n' :: rest)).map (·.2)
    | 't' :: rest => (word? "true" null ('t' :: rest)).map (·.2)
    | 'f' :: rest => (word? "false" null ('f' :: rest)).map (·.2)
    | '"' :: rest => skipString? (rest.length + 1) rest
    | '[' :: rest =>
      match skipBlanks rest with
      | ']' :: rest => some rest
      | rest => skipItems? fuel rest
    | '{' :: rest =>
      match skipBlanks rest with
      | '}' :: rest => some rest
      | rest => skipMembers? fuel rest
    | rest => (numberText? rest).map (·.2)

/-- The rest behind the items of an array, at least one. -/
def skipItems? : Nat → List Char → Option (List Char)
  | 0, _ => none
  | fuel + 1, cs => do
    match skipBlanks (← skipValue? fuel cs) with
    | ',' :: rest => skipItems? fuel rest
    | ']' :: rest => some rest
    | _ => none

/-- The rest behind the members of an object, at least one. -/
def skipMembers? : Nat → List Char → Option (List Char)
  | 0, _ => none
  | fuel + 1, cs =>
    match skipBlanks cs with
    | '"' :: rest => do
      match skipBlanks (← skipString? (rest.length + 1) rest) with
      | ':' :: rest =>
        match skipBlanks (← skipValue? fuel rest) with
        | ',' :: rest => skipMembers? fuel rest
        | '}' :: rest => some rest
        | _ => none
      | _ => none
    | _ => none

end

/-! ## Values that are asked for -/

/-- What is asked for in a text. -/
inductive Shape where
  | whole
  /-- Nothing; the value is given as null. -/
  | nothing
  /-- A list, in every item of which the same is asked for. -/
  | items (item : Shape)
  /-- A record: these members, or their values in this order as a list. -/
  | record (members : List (String × Shape))

namespace Shape

/-- A record with members that are asked for as a whole. -/
def named (names : List String) : Shape :=
  record (names.map (·, whole))

/-- What is asked for in an item of an array. -/
def item (place : Nat) : Shape → Shape
  | items shape => shape
  | record members => ((members[place]?).map (·.2)).getD whole
  | shape => shape

/-- What is asked for in a member of an object. -/
def member (name : String) : Shape → Shape
  | record members => (members.lookup name).getD nothing
  | shape => shape

def isNothing : Shape → Bool
  | nothing => true
  | _ => false

end Shape

mutual

/-- One value after blanks. The fuel bounds the work, the depth the nesting still allowed. -/
def readValue? : Nat → Shape → Nat → List Char → Option (Json × List Char)
  | 0, _, _, _ => none
  | fuel + 1, shape, depth, cs =>
    if shape.isNothing then (skipValue? (fuel + 1) cs).map (null, ·)
    else
      match skipBlanks cs with
      | [] => none
      | 'n' :: rest => word? "null" null ('n' :: rest)
      | 't' :: rest => word? "true" (bool true) ('t' :: rest)
      | 'f' :: rest => word? "false" (bool false) ('f' :: rest)
      | '"' :: rest => do
        let (s, rest) ← stringBody? (rest.length + 1) [] rest
        some (str s, rest)
      | '[' :: rest =>
        if depth = 0 then none
        else
          match skipBlanks rest with
          | ']' :: rest => some (arr [], rest)
          | rest => readItems? fuel shape (depth - 1) [] rest
      | '{' :: rest =>
        if depth = 0 then none
        else
          match skipBlanks rest with
          | '}' :: rest => some (obj [], rest)
          | rest => readMembers? fuel shape (depth - 1) [] rest
      | rest => do
        let (t, rest) ← numberText? rest
        let n ← t.value?
        some (num n, rest)

/-- The items of an array up to its closing bracket, at least one. -/
def readItems? : Nat → Shape → Nat → List Json → List Char → Option (Json × List Char)
  | 0, _, _, _, _ => none
  | fuel + 1, shape, depth, acc, cs => do
    let (v, rest) ← readValue? fuel (shape.item acc.length) depth cs
    match skipBlanks rest with
    | ',' :: rest => readItems? fuel shape depth (v :: acc) rest
    | ']' :: rest => some (arr (v :: acc).reverse, rest)
    | _ => none

/-- The members of an object up to its closing brace, at least one. -/
def readMembers? :
    Nat → Shape → Nat → List (String × Json) → List Char → Option (Json × List Char)
  | 0, _, _, _, _ => none
  | fuel + 1, shape, depth, acc, cs =>
    match skipBlanks cs with
    | '"' :: rest => do
      let (name, rest) ← stringBody? (rest.length + 1) [] rest
      match skipBlanks rest with
      | ':' :: rest => do
        let (v, rest) ← readValue? fuel (shape.member name) depth rest
        match skipBlanks rest with
        | ',' :: rest => readMembers? fuel shape depth ((name, v) :: acc) rest
        | '}' :: rest => some (obj ((name, v) :: acc).reverse, rest)
        | _ => none
      | _ => none
    | _ => none

end

/-- What is asked for in a text that holds nothing else, its members in the order of the text. -/
def parseAs? (shape : Shape) (s : String) : Option Json := do
  let cs := s.toList
  let (v, rest) ← readValue? (2 * cs.length + 2) shape maxDepth cs
  if (skipBlanks rest).isEmpty then some v else none

/-- The value of a text that holds nothing else, its members in the order of the text. -/
def parse? (s : String) : Option Json :=
  parseAs? .whole s

end StorageSetup.Json
