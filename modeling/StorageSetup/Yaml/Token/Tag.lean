import StorageSetup.Text.Digits
import StorageSetup.Yaml.Cursor
import StorageSetup.Yaml.Token
/-!
# Tags, anchors and directives

Key definitions:
- `anchorName`: the name behind an anchor or an alias
- `tagToken`: a tag with its handle
- `directiveToken`: a line that says how the document is written
-/

namespace StorageSetup.Yaml

/-- The name behind the sign of an anchor or an alias. -/
def anchorName (c : Cursor) : Except Error (String × Cursor) :=
  let (name, c) := (c.advance 1).takeWhile isNameChar
  let ends := match c.rest with
    | [] => true
    | ch :: _ => isBlankOrBreak ch || ['?', ':', ',', ']', '\x7d', '%', '@', '\x60'].contains ch
  if name.isEmpty || !ends then .error .invalidAnchor else .ok (name, c)

/-- The characters of tags; those with a meaning inside brackets only where they cannot be
mistaken. -/
def isTagChar (verbatim : Bool) (c : Char) : Bool :=
  isNameChar c || [';', '/', '?', ':', '@', '&', '=', '+', '$', '.', '%', '!', '~', '*', '\'', '(',
    ')'].contains c || (verbatim && [',', '[', ']'].contains c)

/-- The value of two hexadecimal digits. -/
def hexByte? : List Char → Option UInt8
  | [a, b] => do
    let hi ← Text.hexValue? a
    let lo ← Text.hexValue? b
    some (UInt8.ofNat (16 * hi + lo))
  | _ => none

/-- The bytes of a tag in which bytes may be written as a percent sign and two digits. -/
def tagBytes? : List Char → Option (List UInt8)
  | [] => some []
  | '%' :: a :: b :: rest => do
    let byte ← hexByte? [a, b]
    let bytes ← tagBytes? rest
    some (byte :: bytes)
  | '%' :: _ => none
  | c :: rest => (tagBytes? rest).map ((String.singleton c).toUTF8.toList ++ ·)

/-- The text of a tag with its percent signs resolved. -/
def tagText? (cs : List Char) : Option String := do
  let bytes ← tagBytes? cs
  String.fromUTF8? ⟨bytes.toArray⟩

/-- The rest of a tag, what was read of it already given. -/
def tagRest (verbatim : Bool) (head : String) (c : Cursor) : Except Error (String × Cursor) :=
  let (raw, c) := c.takeWhile (isTagChar verbatim)
  if raw.isEmpty && head.isEmpty then .error .invalidTag
  else
    match tagText? raw.toList with
    | some text => .ok (String.ofList (head.toList.drop 1) ++ text, c)
    | none => .error .invalidTag

/-- The handle of a tag: an exclamation mark, or a name between two. -/
def tagHandle (c : Cursor) : String × Cursor :=
  let (name, c) := (c.advance 1).takeWhile isNameChar
  if c.startsWith '!' then ("!" ++ name ++ "!", c.advance 1) else ("!" ++ name, c)

/-- A tag. A lone exclamation mark is a tag of its own. -/
def tagToken (flow : Bool) (c : Cursor) : Except Error (Token × Cursor) := do
  let (token, c) ←
    if c.ahead? 1 == some '<' then do
      let (text, c) ← tagRest true "" (c.advance 2)
      if c.startsWith '>' then .ok (Token.tag "" text, c.advance 1) else .error .invalidTag
    else do
      let (handle, c) := tagHandle c
      if 1 < handle.length && handle.endsWith "!" then do
        let (text, c) ← tagRest false "" c
        .ok (Token.tag handle text, c)
      else do
        let (text, c) ← tagRest false handle c
        .ok (if text.isEmpty then Token.tag "" "!" else Token.tag "!" text, c)
  if c.endsWordAt 0 || (flow && c.startsWith ',') then .ok (token, c) else .error .invalidTag

/-- A number of a version, of at most nine digits. -/
def versionNumber (c : Cursor) : Except Error (Nat × Cursor) :=
  let (digits, c) := c.takeWhile fun ch => '0' ≤ ch && ch ≤ '9'
  if digits.isEmpty || 9 < digits.length then .error .invalidDirective
  else .ok (digits.toList.foldl (fun n d => 10 * n + (d.toNat - '0'.toNat)) 0, c)

/-- The version that a directive names. -/
def versionDirective (c : Cursor) : Except Error (Token × Cursor) := do
  let (major, c) ← versionNumber (c.skipWhile isBlank)
  if !c.startsWith '.' then .error .invalidDirective
  else
    let (minor, c) ← versionNumber (c.advance 1)
    .ok (.versionDirective major minor, c)

/-- The handle that a directive introduces. -/
def tagDirective (c : Cursor) : Except Error (Token × Cursor) := do
  let c := c.skipWhile isBlank
  if !c.startsWith '!' then .error .invalidDirective
  else
    let (handle, c) := tagHandle c
    if handle ≠ "!" && !(1 < handle.length && handle.endsWith "!") then .error .invalidDirective
    else if !(c.rest.head?).any isBlank then .error .invalidDirective
    else
      let (start, c) ← tagRest true "" (c.skipWhile isBlank)
      if c.endsWordAt 0 then .ok (.tagDirective handle start, c) else .error .invalidDirective

/-- A directive, without the end of its line. -/
def directiveToken (c : Cursor) : Except Error (Token × Cursor) :=
  let (name, c) := (c.advance 1).takeWhile isNameChar
  if !c.endsWordAt 0 then .error .invalidDirective
  else if name = "YAML" then versionDirective c
  else if name = "TAG" then tagDirective c
  else .error .invalidDirective

end StorageSetup.Yaml
