import StorageSetup.Yaml.Token.Scalar
import StorageSetup.Yaml.Token.Tag
/-!
# The tokens of a text

Outside of brackets indentation opens and closes blocks. Whether a scalar is a key shows only when
a colon follows it on its line, so every place where a key may begin is kept, and those that turn
out to be one get their signs when the text is read.

Key definitions:
- `Piece`: a token, or a place where a key may begin
- `Reader`: the state between two tokens
- `tokens?`: the tokens of a text
-/

namespace StorageSetup.Yaml

/-- A token, or a numbered place where a key may begin. -/
inductive Piece where
  | token (t : Token)
  | place (id : Nat)

/-- A place where a key may begin. -/
structure Candidate where
  id : Nat
  /-- The indentation demands a key here. -/
  required : Bool
  index : Nat
  line : Nat
  column : Nat

/-- The state between two tokens. -/
structure Reader where
  cursor : Cursor
  /-- The column of the block, minus one outside of all blocks. -/
  indent : Int := -1
  /-- The columns of the blocks around it. -/
  outerIndents : List Int := []
  /-- A key may begin here. -/
  keyAllowed : Bool := true
  /-- The place where a key may have begun. -/
  candidate : Option Candidate := none
  /-- The same for each pair of brackets around this place. -/
  outerCandidates : List (Option Candidate) := []
  /-- The pieces so far, the last one first. -/
  pieces : List Piece := []
  /-- How many places there are so far. -/
  places : Nat := 0
  /-- The places at which a key begins, with whether it opens a mapping. -/
  keys : List (Nat × Bool) := []

namespace Reader

/-- The place stands inside brackets. -/
def inFlow (r : Reader) : Bool :=
  !r.outerCandidates.isEmpty

def emit (r : Reader) (t : Token) : Reader :=
  { r with pieces := .token t :: r.pieces }

/-- Steps over a sign of the given length and notes it. -/
def emitSign (r : Reader) (t : Token) (length : Nat) : Reader :=
  { r.emit t with cursor := r.cursor.advance length }

/-- Opens a block at the column if it lies deeper than the one around it. -/
def openBlock (r : Reader) (column : Nat) (t : Token) : Reader :=
  if r.inFlow || (column : Int) ≤ r.indent then r
  else { r.emit t with indent := column, outerIndents := r.indent :: r.outerIndents }

/-- Closes the blocks that lie deeper than the column, `inner` of them listed from the innermost
on. -/
def closeFrom (column : Int) : List Int → Reader → Reader
  | [], r => r
  | outer :: rest, r =>
    if r.indent ≤ column then r
    else closeFrom column rest { r.emit .blockEnd with indent := outer, outerIndents := rest }

/-- Closes the blocks that lie deeper than the column. -/
def closeBlocks (r : Reader) (column : Int) : Reader :=
  if r.inFlow then r else closeFrom column r.outerIndents r

/-- A candidate that has to be given up. -/
def giveUp : Option Candidate → Except Error (Option Candidate)
  | some k => if k.required then .error .missingColon else .ok none
  | none => .ok none

/-- The candidate of this level is given up. -/
def dropCandidate (r : Reader) : Except Error Reader := do
  let candidate ← giveUp r.candidate
  .ok { r with candidate }

/-- A key stands in one line and has at most 1024 characters. -/
def isStale (c : Cursor) (k : Candidate) : Bool :=
  k.line < c.line || k.index + 1024 < c.index

/-- Gives up a candidate that can no longer be a key. -/
def refresh (c : Cursor) (k : Option Candidate) : Except Error (Option Candidate) :=
  if k.any (isStale c) then giveUp k else .ok k

/-- Gives up the candidates that can no longer be keys. -/
def dropStale (r : Reader) : Except Error Reader := do
  let outerCandidates ← r.outerCandidates.mapM (refresh r.cursor)
  let candidate ← refresh r.cursor r.candidate
  .ok { r with candidate, outerCandidates }

/-- Notes that a key may begin here. -/
def noteCandidate (r : Reader) : Except Error Reader :=
  if r.keyAllowed then do
    let r ← r.dropCandidate
    let c := r.cursor
    let required := !r.inFlow && r.indent == (c.column : Int)
    .ok { r with
      candidate := some ⟨r.places, required, c.index, c.line, c.column⟩
      places := r.places + 1
      pieces := .place r.places :: r.pieces }
  else .ok r

/-- Steps over blanks, comments and line breaks. -/
def skipToToken : Nat → Reader → Reader
  | 0, r => r
  | fuel + 1, r =>
    let tabs := r.inFlow || !r.keyAllowed
    let c := r.cursor
    let c := if c.index = 0 && c.startsWith '\ufeff' then c.advance 1 else c
    let c := c.skipWhile fun ch => ch = ' ' || (tabs && ch = '\t')
    let c := if c.startsWith '#' then c.skipWhile (!isBreak ·) else c
    match c.newline? with
    | some (_, c) => skipToToken fuel { r with cursor := c, keyAllowed := !r.inFlow || r.keyAllowed }
    | none => { r with cursor := c }

/-- A sign at the start of a line that belongs to no block. -/
def atTopLevel (r : Reader) : Except Error Reader := do
  let r ← (r.closeBlocks (-1)).dropCandidate
  .ok { r with keyAllowed := false }

def directive (r : Reader) : Except Error Reader := do
  let r ← r.atTopLevel
  let (t, c) ← directiveToken r.cursor
  let c ← endOfLine .invalidDirective c
  .ok { r.emit t with cursor := c }

def documentMarker (r : Reader) (t : Token) : Except Error Reader := do
  let r ← r.atTopLevel
  .ok (r.emitSign t 3)

/-- An opening bracket. -/
def openFlow (r : Reader) (t : Token) : Except Error Reader := do
  let r ← r.noteCandidate
  .ok { r.emitSign t 1 with
    candidate := none, outerCandidates := r.candidate :: r.outerCandidates, keyAllowed := true }

/-- A closing bracket, which may have no opening one. -/
def closeFlow (r : Reader) (t : Token) : Except Error Reader := do
  let r ← r.dropCandidate
  let r := match r.outerCandidates with
    | outer :: rest => { r with candidate := outer, outerCandidates := rest }
    | [] => r
  .ok { r.emitSign t 1 with keyAllowed := false }

def flowEntry (r : Reader) : Except Error Reader := do
  let r ← r.dropCandidate
  .ok { r.emitSign .flowEntry 1 with keyAllowed := true }

/-- The dash of an entry. -/
def blockEntry (r : Reader) : Except Error Reader :=
  if !r.inFlow && !r.keyAllowed then .error .entryNotAllowed
  else do
    let r ← (r.openBlock r.cursor.column .blockSequenceStart).dropCandidate
    .ok { r.emitSign .blockEntry 1 with keyAllowed := true }

/-- The question mark of a key. -/
def explicitKey (r : Reader) : Except Error Reader :=
  if !r.inFlow && !r.keyAllowed then .error .keyNotAllowed
  else do
    let r ← (r.openBlock r.cursor.column .blockMappingStart).dropCandidate
    .ok { r.emitSign .key 1 with keyAllowed := !r.inFlow }

/-- The colon of a value. The candidate before it becomes a key; without one the key before it was
written with a question mark or is empty. -/
def value (r : Reader) : Except Error Reader :=
  match r.candidate with
  | some k =>
    let opens := !r.inFlow && r.indent < (k.column : Int)
    let r := { r with
      candidate := none, keyAllowed := false, keys := (k.id, opens) :: r.keys
      indent := if opens then k.column else r.indent
      outerIndents := if opens then r.indent :: r.outerIndents else r.outerIndents }
    .ok (r.emitSign .value 1)
  | none =>
    if !r.inFlow && !r.keyAllowed then .error .valueNotAllowed
    else
      let r := r.openBlock r.cursor.column .blockMappingStart
      .ok { r.emitSign .value 1 with keyAllowed := !r.inFlow }

/-- A token that may begin a key, with the place behind it. -/
def keyStart (r : Reader) (read : Cursor → Except Error (Token × Cursor)) :
    Except Error Reader := do
  let r ← r.noteCandidate
  let (t, c) ← read r.cursor
  .ok { r.emit t with cursor := c, keyAllowed := false }

def plain (r : Reader) : Except Error Reader := do
  let r ← r.noteCandidate
  let p ← plainScalar r.inFlow (r.indent + 1).toNat r.cursor
  .ok { r.emit (.scalar p.text true) with cursor := p.behind, keyAllowed := p.atLineStart }

def block (r : Reader) (folded : Bool) : Except Error Reader := do
  let r ← r.dropCandidate
  let (text, c) ← blockScalar folded r.indent r.cursor
  .ok { r.emit (.scalar text false) with cursor := c, keyAllowed := true }

/-- The characters with which no plain scalar begins. -/
def indicators : List Char :=
  ['-', '?', ':', ',', '[', ']', '\x7b', '\x7d', '#', '&', '*', '!', '|', '>', '\'', '"', '%', '@',
    '\x60']

/-- Reads the token that begins with the character. -/
def token (r : Reader) (ch : Char) : Except Error Reader :=
  let c := r.cursor
  let alone := c.endsWordAt 1
  let text (quote : Char) (c : Cursor) := (quotedScalar quote c).map fun (s, c) =>
    (Token.scalar s false, c)
  let name (make : String → Token) (c : Cursor) := (anchorName c).map fun (s, c) => (make s, c)
  if c.column = 0 && ch = '%' then r.directive
  else if c.atMarker '-' then r.documentMarker .documentStart
  else if c.atMarker '.' then r.documentMarker .documentEnd
  else if ch = '[' then r.openFlow .flowSequenceStart
  else if ch = '\x7b' then r.openFlow .flowMappingStart
  else if ch = ']' then r.closeFlow .flowSequenceEnd
  else if ch = '\x7d' then r.closeFlow .flowMappingEnd
  else if ch = ',' then r.flowEntry
  else if ch = '-' && alone then r.blockEntry
  else if ch = '?' && (r.inFlow || alone) then r.explicitKey
  else if ch = ':' && (r.inFlow || alone) then r.value
  else if ch = '*' then r.keyStart (name .aliasName)
  else if ch = '&' then r.keyStart (name .anchor)
  else if ch = '!' then r.keyStart (tagToken r.inFlow)
  else if ch = '|' && !r.inFlow then r.block false
  else if ch = '>' && !r.inFlow then r.block true
  else if ch = '\'' || ch = '"' then r.keyStart (text ch)
  else if !isBlankOrBreak ch && !indicators.contains ch then r.plain
  else if ch = '-' || (!r.inFlow && (ch = '?' || ch = ':')) then r.plain
  else .error (.strayCharacter ch)

/-- Reads the tokens up to the end of the text. -/
def run : Nat → Reader → Except Error Reader
  | 0, r => .ok r
  | fuel + 1, r => do
    let r ← (skipToToken (r.cursor.rest.length + 1) r).dropStale
    let r := r.closeBlocks r.cursor.column
    match r.cursor.rest with
    | ch :: _ => run fuel (← r.token ch)
    | [] => (r.closeBlocks (-1)).dropCandidate

end Reader

/-- The signs of a key at the places where one begins. -/
def expand (keys : List (Nat × Bool)) : Piece → List Token
  | .token t => [t]
  | .place id =>
    match keys.lookup id with
    | some true => [.blockMappingStart, .key]
    | some false => [.key]
    | none => []

/-- The tokens of a text. A mark of byte order at its beginning is skipped. -/
def tokens? (text : String) : Except Error (List Token) := do
  let cs := match text.toList with
    | '\ufeff' :: rest => rest
    | cs => cs
  match cs.find? (!isAllowed ·) with
  | some c => .error (.forbiddenCharacter c)
  | none =>
    let r ← Reader.run (cs.length + 1) { cursor := { rest := cs } }
    .ok (r.pieces.reverse.flatMap (expand r.keys))

end StorageSetup.Yaml
