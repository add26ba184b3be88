import StorageSetup.Text.Digits
import StorageSetup.Yaml.Cursor
import StorageSetup.Yaml.Token
/-!
# Scalars

A scalar is written plainly, in quotes or as a block. Inside plain and quoted scalars a line break
is folded: one break becomes a space, of several all but the first stay.

Key definitions:
- `Gap`: the blanks and breaks between two words, `Gap.text` what stays of them
- `plainScalar`, `quotedScalar`, `blockScalar`: the text of a scalar and the place behind it
-/

namespace StorageSetup.Yaml

/-! ## Gaps -/

/-- The blanks and breaks between two words. -/
inductive Gap where
  | within (blanks : String)
  /-- The first break and those behind it. -/
  | across (first more : String)

namespace Gap

/-- What stays of the gap in the text. -/
def text : Gap → String
  | within blanks => blanks
  | across first more =>
    if first = "\n" then (if more.isEmpty then " " else more) else first ++ more

/-- The gap with one more line break. -/
def withBreak : Gap → String → Gap
  | within _, b => across b ""
  | across first more, b => across first (more ++ b)

def isAcross : Gap → Bool
  | within _ => false
  | across .. => true

end Gap

/-- Reads blanks and breaks. On a later line a tab before the given column is refused. -/
def readGap (indent : Nat) : Nat → Gap → Cursor → Except Error (Gap × Cursor)
  | 0, gap, c => .ok (gap, c)
  | fuel + 1, gap, c =>
    match c.newline? with
    | some (b, c) => readGap indent fuel (gap.withBreak b) c
    | none =>
      match c.rest, gap with
      | ch :: _, .within blanks =>
        if isBlank ch then readGap indent fuel (.within (blanks.push ch)) (c.advance 1)
        else .ok (gap, c)
      | ch :: _, .across .. =>
        if !isBlank ch then .ok (gap, c)
        else if ch = '\t' && c.column < indent then .error .strayTab
        else readGap indent fuel gap (c.advance 1)
      | [], _ => .ok (gap, c)

/-! ## Plain scalars -/

/-- The characters that end a plain scalar inside brackets. -/
def isFlowIndicator (c : Char) : Bool :=
  c = ',' || c = '[' || c = ']' || c = '\x7b' || c = '\x7d'

/-- The characters of a word of a plain scalar. Inside brackets a colon must not stand before a
bracket, comma or question mark. -/
def plainWord (flow : Bool) : List Char → Except Error (List Char)
  | [] => .ok []
  | ch :: rest =>
    let next? := rest.head?
    if isBlankOrBreak ch then .ok []
    else if flow && ch = ':' && next?.any fun n => isFlowIndicator n || n = '?' then
      .error .colonInFlow
    else if ch = ':' && next?.all isBlankOrBreak then .ok []
    else if flow && isFlowIndicator ch then .ok []
    else (plainWord flow rest).map (ch :: ·)

/-- A plain scalar that was read. -/
structure PlainText where
  text : String
  /-- The scalar was followed by a line break. -/
  atLineStart : Bool
  behind : Cursor

/-- Reads the words of a plain scalar, the text so far and the gap behind it given. -/
def plainWords (flow : Bool) (indent : Nat) :
    Nat → String → Gap → Cursor → Except Error PlainText
  | 0, text, gap, c => .ok ⟨text, gap.isAcross, c⟩
  | fuel + 1, text, gap, c =>
    if c.atDocumentMarker || c.startsWith '#' then .ok ⟨text, gap.isAcross, c⟩
    else do
      let word ← plainWord flow c.rest
      let (text, gap) :=
        if word.isEmpty then (text, gap)
        else (text ++ gap.text ++ String.ofList word, Gap.within "")
      let c := c.advance word.length
      if (c.rest.head?).any isBlankOrBreak then
        let (gap, c) ← readGap indent c.rest.length gap c
        if !flow && c.column < indent then .ok ⟨text, gap.isAcross, c⟩
        else plainWords flow indent fuel text gap c
      else .ok ⟨text, gap.isAcross, c⟩

/-- A plain scalar. Outside of brackets it ends before a line that is indented less. -/
def plainScalar (flow : Bool) (indent : Nat) (c : Cursor) : Except Error PlainText :=
  plainWords flow indent c.rest.length "" (.within "") c

/-! ## Quoted scalars -/

/-- The number that hexadecimal digits write. -/
def hexNumber? (digits : List Char) : Option Nat :=
  digits.foldlM (fun n c => (Text.hexValue? c).map (16 * n + ·)) 0

/-- The characters that one letter stands for behind a backslash. -/
def escapes : List (Char × Char) := [
  ('0', '\x00'), ('a', '\x07'), ('b', '\x08'), ('t', '\t'), ('\t', '\t'), ('n', '\n'),
  ('v', '\x0b'), ('f', '\x0c'), ('r', '\r'), ('e', '\x1b'), (' ', ' '), ('"', '"'), ('/', '/'),
  ('\\', '\\'), ('N', '\u0085'), ('_', '\u00a0'), ('L', '\u2028'), ('P', '\u2029')]

/-- How many digits follow a letter that announces a code point. -/
def codeLength? (c : Char) : Option Nat :=
  if c = 'x' then some 2 else if c = 'u' then some 4 else if c = 'U' then some 8 else none

/-- The character written behind a backslash, and the place behind it. -/
def readEscape (c : Cursor) : Except Error (Char × Cursor) :=
  match c.rest with
  | [] => .error .unknownEscape
  | letter :: rest =>
    match codeLength? letter with
    | some n =>
      match hexNumber? (rest.take n) with
      | some code =>
        if rest.length < n || !code.isValidChar then .error .invalidEscape
        else .ok (Char.ofNat code, c.advance (n + 1))
      | none => .error .invalidEscape
    | none =>
      match escapes.lookup letter with
      | some ch => .ok (ch, c.advance 1)
      | none => .error .unknownEscape

/-- Part of a quoted scalar, up to a blank, a break or the closing quote. -/
structure QuotedWord where
  text : String
  /-- The part ended with a backslash before a line break. -/
  joined : Bool
  behind : Cursor

/-- Reads a word of a quoted scalar, the text so far given. -/
def quotedWord (quote : Char) : Nat → String → Cursor → Except Error QuotedWord
  | 0, text, c => .ok ⟨text, false, c⟩
  | fuel + 1, text, c =>
    match c.rest with
    | [] => .ok ⟨text, false, c⟩
    | ch :: rest =>
      if isBlankOrBreak ch then .ok ⟨text, false, c⟩
      else if ch = quote then
        if quote = '\'' && rest.head? == some quote then
          quotedWord quote fuel (text.push quote) (c.advance 2)
        else .ok ⟨text, false, c⟩
      else if quote = '"' && ch = '\\' then
        match (c.advance 1).newline? with
        | some (_, c) => .ok ⟨text, true, c⟩
        | none => do
          let (ch, c) ← readEscape (c.advance 1)
          quotedWord quote fuel (text.push ch) c
      else quotedWord quote fuel (text.push ch) (c.advance 1)

/-- Reads words until the closing quote. -/
def quotedWords (quote : Char) : Nat → String → Cursor → Except Error (String × Cursor)
  | 0, _, _ => .error .unclosedQuote
  | fuel + 1, text, c =>
    if c.atDocumentMarker then .error .documentMarkerInQuote
    else if c.rest.isEmpty then .error .unclosedQuote
    else do
      let word ← quotedWord quote c.rest.length text c
      let c := word.behind
      if c.startsWith quote then .ok (word.text, c.advance 1)
      else
        let start := if word.joined then Gap.across "" "" else Gap.within ""
        let (gap, c) ← readGap 0 c.rest.length start c
        quotedWords quote fuel (word.text ++ gap.text) c

/-- A scalar in quotes, from the opening quote on. -/
def quotedScalar (quote : Char) (c : Cursor) : Except Error (String × Cursor) :=
  quotedWords quote (c.rest.length + 1) "" (c.advance 1)

/-! ## Block scalars -/

/-- What is done with the line breaks at the end of a block scalar. -/
inductive Chomping where
  | strip
  | clip
  | keep
  deriving DecidableEq, Repr

/-- How a block scalar is written: its chomping, and its indentation where that is given. -/
structure BlockHeader where
  chomping : Chomping := .clip
  indent : Option Nat := none

def chomping? (c : Char) : Option Chomping :=
  if c = '+' then some .keep else if c = '-' then some .strip else none

/-- A digit of indentation, which must not be zero. -/
def blockIndent? (c : Char) : Option (Except Error Nat) :=
  if c = '0' then some (.error .invalidBlockHeader)
  else if '1' ≤ c && c ≤ '9' then some (.ok (c.toNat - '0'.toNat))
  else none

/-- The marks behind the indicator of a block scalar, in either order. -/
def readBlockHeader (c : Cursor) : Except Error (BlockHeader × Cursor) := do
  let mark? {α : Type} (read : Char → Option α) (c : Cursor) : Option α :=
    c.rest.head?.bind read
  match mark? chomping? c with
  | some chomping =>
    let c := c.advance 1
    match mark? blockIndent? c with
    | some indent => .ok (⟨chomping, some (← indent)⟩, c.advance 1)
    | none => .ok (⟨chomping, none⟩, c)
  | none =>
    match mark? blockIndent? c with
    | some indent =>
      let indent ← indent
      let c := c.advance 1
      match mark? chomping? c with
      | some chomping => .ok (⟨chomping, some indent⟩, c.advance 1)
      | none => .ok (⟨.clip, some indent⟩, c)
    | none => .ok ({}, c)

/-- The end of a line that holds nothing more than a comment, and the start of the next. -/
def endOfLine (failure : Error) (c : Cursor) : Except Error Cursor :=
  let c := c.skipWhile isBlank
  let c := if c.startsWith '#' then c.skipWhile (!isBreak ·) else c
  match c.newline? with
  | some (_, c) => .ok c
  | none => if c.rest.isEmpty then .ok c else .error failure

/-- Steps over empty lines and the indentation of the line behind them. Where the indentation is
not known, the widest one met is given. -/
def blockBreaks (indent : Option Nat) :
    Nat → Nat → String → Cursor → Except Error (Nat × String × Cursor)
  | 0, widest, breaks, c => .ok (widest, breaks, c)
  | fuel + 1, widest, breaks, c =>
    let spaces := (c.rest.takeWhile (· = ' ')).length
    let c := c.advance (match indent with
      | some n => min spaces (n - c.column)
      | none => spaces)
    let widest := max widest c.column
    if c.startsWith '\t' && indent.all (c.column < ·) then .error .strayTab
    else
      match c.newline? with
      | some (b, c) => blockBreaks indent fuel widest (breaks ++ b) c
      | none => .ok (widest, breaks, c)

/-- The lines of a block scalar that were read. -/
structure BlockLines where
  text : String := ""
  /-- The break behind the last line. -/
  lastBreak : String := ""
  /-- The breaks of empty lines behind that. -/
  breaks : String
  /-- The last line begins with a blank. -/
  afterBlank : Bool := false

/-- The text with the breaks before the next line. A folded scalar joins lines that do not begin
with a blank. -/
def BlockLines.joined (lines : BlockLines) (folded beginsBlank : Bool) : String :=
  if folded && lines.lastBreak = "\n" && !lines.afterBlank && !beginsBlank then
    lines.text ++ (if lines.breaks.isEmpty then " " else lines.breaks)
  else lines.text ++ lines.lastBreak ++ lines.breaks

/-- Reads the lines of a block scalar. -/
def blockLines (folded : Bool) (indent : Nat) :
    Nat → BlockLines → Cursor → Except Error (BlockLines × Cursor)
  | 0, lines, c => .ok (lines, c)
  | fuel + 1, lines, c =>
    if c.column ≠ indent || c.rest.isEmpty then .ok (lines, c)
    else do
      let beginsBlank := (c.rest.head?).any isBlank
      let text := lines.joined folded beginsBlank
      let (line, c) := c.takeWhile (!isBreak ·)
      let (lastBreak, c) := (c.newline?).getD ("", c)
      let (_, breaks, c) ← blockBreaks (some indent) (c.rest.length + 1) 0 "" c
      blockLines folded indent fuel ⟨text ++ line, lastBreak, breaks, beginsBlank⟩ c

/-- A block scalar from its indicator on, inside a block of the given indentation. -/
def blockScalar (folded : Bool) (parent : Int) (c : Cursor) : Except Error (String × Cursor) := do
  let (header, c) ← readBlockHeader (c.advance 1)
  let c ← endOfLine .invalidBlockHeader c
  let given := header.indent.map fun n => parent.toNat + n
  let (widest, breaks, c) ← blockBreaks given (c.rest.length + 1) 0 "" c
  let indent := given.getD (max widest (max (parent + 1).toNat 1))
  let (lines, c) ← blockLines folded indent (c.rest.length + 1) { breaks } c
  .ok (lines.text ++ (if header.chomping = .strip then "" else lines.lastBreak) ++
    (if header.chomping = .keep then lines.breaks else ""), c)

end StorageSetup.Yaml
