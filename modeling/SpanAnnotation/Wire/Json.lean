import SpanAnnotation.Wire.Number

/-!
JSON texts: reading one value from the front of a text, and reading typed data from a whole
text. Values nested more than 127 deep are unreadable, which matters only where they are used.
-/

set_option autoImplicit false

namespace SpanAnnotation.Wire.Json

def isSpace (c : Char) : Bool := c == ' ' || c == '\n' || c == '\t' || c == '\r'

def skipSpace (cs : List Char) : List Char := cs.dropWhile isSpace

def maxDepth : Nat := 127

def hexDigit? (c : Char) : Option Nat :=
  if c.isDigit then some (c.toNat - '0'.toNat)
  else if 'a' ≤ c && c ≤ 'f' then some (c.toNat - 'a'.toNat + 10)
  else if 'A' ≤ c && c ≤ 'F' then some (c.toNat - 'A'.toNat + 10)
  else none

def hexCode? (a b c d : Char) : Option Nat := do
  let w ← hexDigit? a
  let x ← hexDigit? b
  let y ← hexDigit? c
  let z ← hexDigit? d
  return ((w * 16 + x) * 16 + y) * 16 + z

def isLead (code : Nat) : Bool := 0xD800 ≤ code && code ≤ 0xDBFF

def isTrail (code : Nat) : Bool := 0xDC00 ≤ code && code ≤ 0xDFFF

def plainEscape? : Char → Option Char
  | '"' => some '"'
  | '\\' => some '\\'
  | '/' => some '/'
  | 'b' => some '\x08'
  | 'f' => some '\x0c'
  | 'n' => some '\n'
  | 'r' => some '\r'
  | 't' => some '\t'
  | _ => none

-- A string under construction: its text in reverse order, the first half of a surrogate pair
-- that waits for the second, and whether no half was left alone so far.
structure Draft where
  text : List Char
  lead : Option Nat
  sound : Bool

def Draft.push (draft : Draft) (c : Char) : Draft :=
  ⟨c :: draft.text, none, draft.sound && draft.lead.isNone⟩

def Draft.pushCode (draft : Draft) (code : Nat) : Draft :=
  if isLead code then { draft with lead := some code, sound := draft.sound && draft.lead.isNone }
  else if isTrail code then
    match draft.lead with
    | some lead =>
        ⟨Char.ofNat (0x10000 + (lead - 0xD800) * 0x400 + (code - 0xDC00)) :: draft.text, none,
          draft.sound⟩
    | none => { draft with sound := false }
  else draft.push (Char.ofNat code)

def Draft.finish (draft : Draft) : Option String :=
  if draft.sound && draft.lead.isNone then some (String.ofList draft.text.reverse) else none

/-- The rest of a string after its opening quote; the text is lost when it contains half a
surrogate pair. -/
def readString (draft : Draft) : List Char → Option (Option String × List Char)
  | [] => none
  | '"' :: rest => some (draft.finish, rest)
  | '\\' :: 'u' :: a :: b :: c :: d :: rest =>
      match hexCode? a b c d with
      | none => none
      | some code => readString (draft.pushCode code) rest
  | '\\' :: mark :: rest =>
      match plainEscape? mark with
      | some c => readString (draft.push c) rest
      | none => none
  | c :: rest =>
      if c.toNat < 0x20 || c == '\\' then none else readString (draft.push c) rest

def Draft.empty : Draft := ⟨[], none, true⟩

def literal (word : List Char) (v : Value) (cs : List Char) : Option (Value × List Char) :=
  if word.isPrefixOf cs then some (v, cs.drop word.length) else none

def guardDepth (depth : Nat) (v : Value) : Value := if depth ≤ maxDepth then v else .unreadable

-- A member whose key is lost makes its object unreadable.
def objectOf (members : List (Option String × Value)) : Value :=
  if members.all fun member => member.1.isSome then
    .object (members.filterMap fun member => member.1.map fun key => (key, member.2))
  else .unreadable

mutual

/-- Reads a value at a nesting depth; the fuel bounds the number of steps. -/
def readValue : Nat → Nat → List Char → Option (Value × List Char)
  | 0, _, _ => none
  | fuel + 1, depth, cs =>
      match skipSpace cs with
      | '{' :: rest =>
          match skipSpace rest with
          | '}' :: after => some (guardDepth (depth + 1) (.object []), after)
          | start => do
              let (members, after) ← readMembers fuel (depth + 1) start
              return (guardDepth (depth + 1) (objectOf members), after)
      | '[' :: rest =>
          match skipSpace rest with
          | ']' :: after => some (guardDepth (depth + 1) (.array []), after)
          | start => do
              let (items, after) ← readElements fuel (depth + 1) start
              return (guardDepth (depth + 1) (.array items), after)
      | '"' :: rest => do
          let (text, after) ← readString .empty rest
          return (match text with | some s => .text s | none => .unreadable, after)
      | 't' :: rest => literal ['r', 'u', 'e'] (.bool true) rest
      | 'f' :: rest => literal ['a', 'l', 's', 'e'] (.bool false) rest
      | 'n' :: rest => literal ['u', 'l', 'l'] .null rest
      | start => readNumber start

def readElements : Nat → Nat → List Char → Option (List Value × List Char)
  | 0, _, _ => none
  | fuel + 1, depth, cs => do
      let (item, after) ← readValue fuel depth cs
      match skipSpace after with
      | ',' :: rest =>
          let (items, final) ← readElements fuel depth rest
          return (item :: items, final)
      | ']' :: rest => return ([item], rest)
      | _ => none

def readMembers : Nat → Nat → List Char → Option (List (Option String × Value) × List Char)
  | 0, _, _ => none
  | fuel + 1, depth, cs =>
      match skipSpace cs with
      | '"' :: rest => do
          let (key, after) ← readString .empty rest
          match skipSpace after with
          | ':' :: start =>
              let (item, following) ← readValue fuel depth start
              match skipSpace following with
              | ',' :: more =>
                  let (members, final) ← readMembers fuel depth more
                  return ((key, item) :: members, final)
              | '}' :: final => return ([(key, item)], final)
              | _ => none
          | _ => none
      | _ => none

end

/-- The value at the front of a text, and the text after it. -/
def read (text : String) : Option (Value × List Char) :=
  let cs := text.toList
  readValue (2 * cs.length + 2) 0 cs

/-- Reads typed data from a text that holds one value and nothing else. -/
def decode {α : Type} (reader : Read α) (text : String) : Except Misfit α :=
  match read text with
  | none => .error .shape
  | some (v, after) => do
      let result ← reader v
      if after.all isSpace then return result else .error .shape

def hexPair (code : Nat) : String :=
  let digit (n : Nat) : Char := Char.ofNat (if n < 10 then 48 + n else 87 + n)
  String.ofList [digit (code / 16), digit (code % 16)]

def escape (c : Char) : String :=
  if c == '"' then "\\\""
  else if c == '\\' then "\\\\"
  else if c == '\n' then "\\n"
  else if c == '\r' then "\\r"
  else if c == '\t' then "\\t"
  else if c == '\x08' then "\\b"
  else if c == '\x0c' then "\\f"
  else if c.toNat < 0x20 then "\\u00" ++ hexPair c.toNat
  else c.toString

def quoted (s : String) : String := "\"" ++ String.join (s.toList.map escape) ++ "\""

end SpanAnnotation.Wire.Json
