/-!
# Options and words

A command line consists of options and words. An option is given by its long name behind two
hyphens or by its letter behind one, at most once. Its value follows, or is attached with an equals
sign, to a letter also directly. Behind two hyphens alone everything is a word.

Key definitions:
- `OptionSpec`, `Grammar`: what a command accepts
- `Arguments`: what was given
- `Grammar.read`: from a command line to what was given
- `Stop`: the other ways a command line can be meant
-/

namespace StorageSetup.CommandLine

/-- Why a command line asks for nothing to be done. -/
inductive Stop where
  /-- It is not understood. -/
  | usage
  | help
  | version
  deriving DecidableEq, Repr

/-- An option of a command. -/
structure OptionSpec where
  name : String
  letter : Option Char := none
  /-- The values that are accepted; an option without is a switch. -/
  accepts : Option (String → Bool) := none

/-- What a command accepts. -/
structure Grammar where
  options : List OptionSpec := []
  /-- The words that are accepted, place by place. -/
  words : List (String → Bool) := []
  /-- The commands that can follow, which take the rest of the line. -/
  commands : List String := []
  /-- What help can be asked for where commands can follow. -/
  topics : List (List String) := []
  /-- The command tells its version. -/
  hasVersion : Bool := false

/-- What was given. -/
structure Arguments where
  /-- The options by their long names; a switch has an empty value. -/
  values : List (String × String) := []
  words : List String := []
  command : Option (String × List String) := none
  deriving Repr

namespace Arguments

def value? (a : Arguments) (name : String) : Option String :=
  a.values.lookup name

def isSet (a : Arguments) (name : String) : Bool :=
  (a.value? name).isSome

/-- Gives an option its value, once. -/
def put (a : Arguments) (o : OptionSpec) (value : String) : Except Stop Arguments :=
  if a.isSet o.name || !o.accepts.all (· value) then .error .usage
  else .ok { a with values := a.values ++ [(o.name, value)] }

end Arguments

/-- A part of a command line. -/
inductive Item where
  | separator
  | long (name : String) (value : Option String)
  | letters (cs : List Char)
  | word (text : String)

/-- A part from its text. -/
def Item.ofText (text : String) : Item :=
  match text.toList with
  | ['-', '-'] => separator
  | '-' :: '-' :: body =>
    long (String.ofList (body.takeWhile (· ≠ '=')))
      (match body.dropWhile (· ≠ '=') with
        | _ :: value => some (String.ofList value)
        | [] => none)
  | '-' :: c :: cs => letters (c :: cs)
  | _ => word text

namespace Grammar

/-- Adds a word in the next place. -/
def addWord (g : Grammar) (a : Arguments) (word : String) : Except Stop Arguments :=
  match g.words[a.words.length]? with
  | some accepts =>
    if accepts word then .ok { a with words := a.words ++ [word] } else .error .usage
  | none => .error .usage

/-- An option by its long name. An option whose value is still to come is returned with what was
given so far. -/
def readLong (g : Grammar) (a : Arguments) (name : String) (value : Option String) :
    Except Stop (Arguments × Option OptionSpec) :=
  match g.options.find? (·.name == name), value with
  | some o, some v => if o.accepts.isSome then (a.put o v).map (·, none) else .error .usage
  | some o, none => if o.accepts.isSome then .ok (a, some o) else (a.put o "").map (·, none)
  | none, none =>
    if name = "help" then .error .help
    else if name = "version" && g.hasVersion then .error .version
    else .error .usage
  | none, some _ => .error .usage

/-- Options by their letters. Behind the letter of an option with a value comes its value. -/
def readLetters (g : Grammar) (a : Arguments) :
    List Char → Except Stop (Arguments × Option OptionSpec)
  | [] => .ok (a, none)
  | c :: rest =>
    match g.options.find? (·.letter == some c) with
    | some o =>
      if o.accepts.isSome then
        match rest with
        | [] => .ok (a, some o)
        | '=' :: value => (a.put o (String.ofList value)).map (·, none)
        | value => (a.put o (String.ofList value)).map (·, none)
      else
        match a.put o "" with
        | .error e => .error e
        | .ok a => g.readLetters a rest
    | none =>
      if c = 'h' then .error .help
      else if c = 'V' && g.hasVersion then .error .version
      else .error .usage

/-- Reads a command line; an option may be waiting for its value. -/
def readFrom (g : Grammar) :
    Option OptionSpec → List String → Arguments → Except Stop Arguments
  | none, [], a => .ok a
  | some _, [], _ => .error .usage
  | some o, text :: rest, a =>
    match Item.ofText text with
    | .word value => do g.readFrom none rest (← a.put o value)
    | _ => .error .usage
  | none, text :: rest, a =>
    match Item.ofText text with
    | .separator => rest.foldlM g.addWord a
    | .word word =>
      if g.commands.contains word then .ok { a with command := some (word, rest) }
      else if word = "help" && !g.commands.isEmpty then
        .error (if g.topics.contains rest then .help else .usage)
      else do g.readFrom none rest (← g.addWord a word)
    | .long name value => do
      let (a, waiting) ← g.readLong a name value
      g.readFrom waiting rest a
    | .letters cs => do
      let (a, waiting) ← g.readLetters a cs
      g.readFrom waiting rest a

/-- Reads a command line. -/
def read (g : Grammar) (line : List String) : Except Stop Arguments :=
  g.readFrom none line {}

end Grammar

end StorageSetup.CommandLine
