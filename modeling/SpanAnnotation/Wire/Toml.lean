import SpanAnnotation.Wire.Toml.Scalar
import SpanAnnotation.Wire.Toml.Table

/-!
TOML texts: reading a whole text as one table, and reading typed data from it.
-/

set_option autoImplicit false

namespace SpanAnnotation.Wire.Toml

-- How deep values may nest, and how many parts a key may have.
def nestingLimit : Nat := 80

/-- The text after a comment up to the end of the line. -/
def skipComment : List Char → List Char
  | '#' :: rest => rest.dropWhile isPrintable
  | cs => cs

-- Blanks, comments and line ends between the values of an array.
def skipLines : Nat → List Char → Option (List Char)
  | 0, _ => none
  | fuel + 1, cs =>
      match skipSpace cs with
      | '#' :: rest =>
          match rest.dropWhile isPrintable with
          | '\n' :: after => skipLines fuel after
          | '\r' :: '\n' :: after => skipLines fuel after
          | _ => none
      | '\n' :: rest => skipLines fuel rest
      | '\r' :: '\n' :: rest => skipLines fuel rest
      | start => some start

/-- The text after the end of a line; only a comment may come before it. -/
def endLine (cs : List Char) : Option (List Char) :=
  match skipComment (skipSpace cs) with
  | [] => some []
  | '\n' :: rest => some rest
  | '\r' :: '\n' :: rest => some rest
  | _ => none

/-- A dotted key by its parts, with blanks around each. -/
def readKey : Nat → List Char → Option (List String × List Char)
  | 0, _ => none
  | fuel + 1, cs => do
      let (part, after) ← readKeyPart (skipSpace cs)
      match skipSpace after with
      | '.' :: rest =>
          let (parts, final) ← readKey fuel rest
          return (part :: parts, final)
      | rest => return ([part], rest)

/-- A dotted key: the way to a table, and the name in it. -/
def readPath (cs : List Char) : Option (List String × String × List Char) := do
  let (parts, rest) ← readKey (cs.length + 1) cs
  let last ← parts.getLast?
  if parts.length < nestingLimit then some (parts.dropLast, last, rest) else none

def literal (word : List Char) (v : Value) (cs : List Char) : Option (Value × List Char) :=
  if word.isPrefixOf cs then some (v, cs.drop word.length) else none

mutual

def readValue : Nat → Nat → List Char → Option (Value × List Char)
  | 0, _, _ => none
  | fuel + 1, depth, cs =>
      match cs with
      | [] => none
      | '[' :: rest =>
          if depth + 1 < nestingLimit then do
            let (items, after) ← readItems fuel (depth + 1) rest
            return (.array items, after)
          else none
      | '\x7b' :: rest =>
          if depth + 1 < nestingLimit then
            match skipSpace rest with
            | '\x7d' :: after => some (.object [], after)
            | start => do
                let (entries, after) ← readPairs fuel (depth + 1) [] start
                return (.object (entryValues entries), after)
          else none
      | 't' :: _ => literal ['t', 'r', 'u', 'e'] (.bool true) cs
      | 'f' :: _ => literal ['f', 'a', 'l', 's', 'e'] (.bool false) cs
      | c :: _ =>
          if c == '"' || c == '\'' then
            (readString cs).map fun text => (.text (String.ofList text.1), text.2)
          else readNumeric cs

/-- The rest of an array; a comma may stand before the closing bracket. -/
def readItems : Nat → Nat → List Char → Option (List Value × List Char)
  | 0, _, _ => none
  | fuel + 1, depth, cs => do
      match ← skipLines (cs.length + 1) cs with
      | ']' :: rest => return ([], rest)
      | start =>
          let (item, after) ← readValue fuel depth start
          match ← skipLines (after.length + 1) after with
          | ',' :: rest =>
              let (items, final) ← readItems fuel depth rest
              return (item :: items, final)
          | ']' :: rest => return ([item], rest)
          | _ => none

/-- The rest of a table in braces, on one line and without a comma at its end. -/
def readPairs : Nat → Nat → Entries → List Char → Option (Entries × List Char)
  | 0, _, _, _ => none
  | fuel + 1, depth, entries, cs => do
      let (path, key, after) ← readPath cs
      match after with
      | '=' :: start =>
          let (v, following) ← readValue fuel depth (skipSpace start)
          let longer ← entries.put? path key v
          match skipSpace following with
          | ',' :: rest => readPairs fuel depth longer rest
          | '\x7d' :: rest => return (longer, rest)
          | _ => none
      | _ => none

end

-- The tables so far, and the header under which values are added.
structure State where
  root : Entries
  header : List String

/-- A header from after its opening brackets. -/
def readHeader (state : State) (element : Bool) (cs : List Char) : Option (State × List Char) := do
  let (path, key, after) ← readPath cs
  let closing := if element then [']', ']'] else [']']
  if closing.isPrefixOf after then
    let root ←
      if element then state.root.openElement? path key else state.root.openTable? path key
    let rest ← endLine (after.drop closing.length)
    return (⟨root, path ++ [key]⟩, rest)
  else none

/-- A key and its value on a line of their own. -/
def readPair (state : State) (cs : List Char) : Option (State × List Char) := do
  let (path, key, after) ← readPath cs
  match after with
  | '=' :: start =>
      let (v, following) ← readValue (2 * start.length + 2) 0 (skipSpace start)
      let rest ← endLine following
      let root ← state.root.putBelow? state.header path key v
      return ({ state with root := root }, rest)
  | _ => none

def readLines : Nat → State → List Char → Option State
  | 0, _, _ => none
  | fuel + 1, state, cs =>
      match skipSpace cs with
      | [] => some state
      | '\n' :: rest => readLines fuel state rest
      | '\r' :: '\n' :: rest => readLines fuel state rest
      | '#' :: rest => do readLines fuel state (← endLine ('#' :: rest))
      | '[' :: '[' :: rest => do
          let (next, after) ← readHeader state true rest
          readLines fuel next after
      | '[' :: rest => do
          let (next, after) ← readHeader state false rest
          readLines fuel next after
      | start => do
          let (next, after) ← readPair state start
          readLines fuel next after

-- A byte order mark in front does not count.
def dropMark : List Char → List Char
  | '\uFEFF' :: rest => rest
  | cs => cs

/-- The table that a text describes. -/
def read (text : String) : Option Value := do
  let cs := dropMark text.toList
  let state ← readLines (cs.length + 1) ⟨[], []⟩ cs
  return .object (entryValues state.root)

/-- Reads typed data from a text. -/
def decode {α : Type} (reader : Read α) (text : String) : Except Error α :=
  match read text with
  | none => .error .toml
  | some v =>
      match reader v with
      | .ok result => .ok result
      | .error _ => .error .toml

end SpanAnnotation.Wire.Toml
