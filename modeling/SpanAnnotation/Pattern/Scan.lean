import SpanAnnotation.Pattern.Expression
import SpanAnnotation.Text.Alphanumeric
import SpanAnnotation.Text.Blank

/-!
Reading the parts of a pattern: escapes, bracketed sets, flags, names and counts. A pattern is read
from left to right; the flags that hold at a place and the names given so far go along.
-/

set_option autoImplicit false

namespace SpanAnnotation.Pattern

open Text

structure Flags where
  ignoreCase : Bool
  multiLine : Bool
  dotAll : Bool
  crlf : Bool
  -- Blanks and comments in the pattern do not count.
  spaced : Bool
  unicode : Bool
  -- A question mark after a repetition asks for more and not for less.
  swapped : Bool
  deriving DecidableEq, Repr

def Flags.initial : Flags := ⟨false, false, false, false, false, true, false⟩

structure Cursor where
  rest : List Char
  flags : Flags
  names : List String
  -- How many groups that keep what they match were opened.
  groups : Nat
  deriving DecidableEq, Repr

abbrev Scan (α : Type) := StateT Cursor Option α

namespace Scan

def refuse {α : Type} : Scan α := fun _ => none

def remaining : Scan (List Char) := fun cursor => some (cursor.rest, cursor)

def flags : Scan Flags := fun cursor => some (cursor.flags, cursor)

def moveTo (rest : List Char) : Scan Unit := fun cursor => some ((), { cursor with rest := rest })

def setFlags (flags : Flags) : Scan Unit := fun cursor => some ((), { cursor with flags := flags })

/-- Opens a group that keeps what it matches, and gives its number. -/
def openGroup : Scan Nat := fun cursor =>
  some (cursor.groups + 1, { cursor with groups := cursor.groups + 1 })

def ofOption {α : Type} : Option α → Scan α
  | some a => pure a
  | none => refuse

end Scan

-- Blanks, and comments from a number sign to the end of the line.
def dropSpace (inComment : Bool) : List Char → List Char
  | [] => []
  | c :: rest =>
      if inComment then dropSpace (c != '\n') rest
      else if isBlank c then dropSpace false rest
      else if c == '#' then dropSpace true rest
      else c :: rest

/-- Skips what does not count when blanks do not count. -/
def skipSpace : Scan Unit := fun cursor =>
  if cursor.flags.spaced then some ((), { cursor with rest := dropSpace false cursor.rest })
  else some ((), cursor)

def advanceTo (rest : List Char) : Scan Unit := do
  Scan.moveTo rest
  skipSpace

-- Literals, sets and conditions.

inductive Atom where
  -- A character; `byte` tells that it was given as a byte of two hexadecimal digits.
  | literal (c : Char) (byte : Bool)
  | set (chars : CharSet)
  | look (condition : Look)
  deriving Repr

def fold (flags : Flags) (chars : CharSet) : CharSet :=
  if !flags.ignoreCase then chars
  else if flags.unicode then chars.folded
  else chars.foldedAscii

-- Without Unicode the complement of a set holds bytes that are no characters.
def invert (flags : Flags) (negated : Bool) (chars : CharSet) : Option CharSet :=
  if !negated then some chars
  else if flags.unicode then some chars.complement
  else none

def isMeta (c : Char) : Bool := "\\.+*?()|[]\x7b\x7d^$#&-~".toList.contains c

def isLatinLetter (c : Char) : Bool := c.isUpper || c.isLower

def mayBeEscaped (c : Char) : Bool :=
  isMeta c || (c.toNat < 0x80 && !isLatinLetter c && !c.isDigit && c != '<' && c != '>')

def hexDigit? (c : Char) : Option Nat :=
  if c.isDigit then some (c.toNat - '0'.toNat)
  else if 'a' ≤ c && c ≤ 'f' then some (c.toNat - 'a'.toNat + 10)
  else if 'A' ≤ c && c ≤ 'F' then some (c.toNat - 'A'.toNat + 10)
  else none

def charOfCode? (code : Nat) : Option Char :=
  if code < 0xD800 || (0xDFFF < code && code < 0x110000) then some (Char.ofNat code) else none

def readHexDigits (value : Nat) : Nat → Scan Nat
  | 0 => pure value
  | count + 1 => do
      match ← Scan.remaining with
      | c :: rest =>
          let digit ← Scan.ofOption (hexDigit? c)
          advanceTo rest
          readHexDigits (value * 16 + digit) count
      | [] => Scan.refuse

/-- Digits up to a closing brace, by value. -/
def hexInBraces? (value : Nat) (digits : List Char) : Option Nat :=
  match digits with
  | [] => some value
  | c :: rest =>
      match hexDigit? c with
      | some digit => hexInBraces? (value * 16 + digit) rest
      | none => none

-- The text up to a closing brace, without what does not count.
def readBraced : Nat → Scan (List Char)
  | 0 => Scan.refuse
  | fuel + 1 => do
      match ← Scan.remaining with
      | [] => Scan.refuse
      | '\x7d' :: rest =>
          Scan.moveTo rest
          return []
      | c :: rest =>
          advanceTo rest
          let more ← readBraced fuel
          return c :: more

def readWholeBrace : Scan (List Char) := do
  let rest ← Scan.remaining
  readBraced (rest.length + 1)

/-- A character by its code point: the given number of digits, or any in braces. -/
def readHex (count : Nat) : Scan Atom := do
  match ← Scan.remaining with
  | '\x7b' :: rest =>
      advanceTo rest
      let digits ← readWholeBrace
      if digits.isEmpty then Scan.refuse
      else
        let c ← Scan.ofOption ((hexInBraces? 0 digits).bind charOfCode?)
        return .literal c false
  | _ =>
      let code ← readHexDigits 0 count
      let c ← Scan.ofOption (charOfCode? code)
      return .literal c (count == 2)

-- A property with its value after an equals sign, a colon, or `!=`.
def splitValue? (mark : List Char) : List Char → Option (List Char × List Char)
  | [] => none
  | c :: rest =>
      if mark.isPrefixOf (c :: rest) then some ([], (c :: rest).drop mark.length)
      else (splitValue? mark rest).map fun parts => (c :: parts.1, parts.2)

/-- The set of a name in braces, and whether it says which characters not to take. -/
def propertySet? (name : List Char) : Option (CharSet × Bool) :=
  match splitValue? ['!', '='] name with
  | some (property, value) => (valued? property value).map fun chars => (chars, true)
  | none =>
      match splitValue? [':'] name with
      | some (property, value) => (valued? property value).map fun chars => (chars, false)
      | none =>
          match splitValue? ['='] name with
          | some (property, value) => (valued? property value).map fun chars => (chars, false)
          | none => (named? name).map fun chars => (chars, false)

-- A name in braces, or of one letter.
def readPropertyName : Scan (List Char) := do
  match ← Scan.remaining with
  | [] => Scan.refuse
  | '\x7b' :: rest =>
      advanceTo rest
      readWholeBrace
  | c :: rest =>
      if c == '\\' then Scan.refuse
      else
        advanceTo rest
        return [c]

def readProperty (negated : Bool) : Scan Atom := do
  let flags ← Scan.flags
  let name ← readPropertyName
  let (chars, unequal) ← Scan.ofOption (propertySet? name)
  if flags.unicode then
    let set ← Scan.ofOption (invert flags (negated != unequal) (fold flags chars))
    return .set set
  else Scan.refuse

/-- Digits, blanks and word characters under their one-letter names. -/
def shorthand? (flags : Flags) (c : Char) : Option CharSet :=
  match c with
  | 'd' => some (if flags.unicode then Category.decimalDigits else asciiDigits)
  | 's' => some (if flags.unicode then Trait.spaces else asciiBlank)
  | 'w' => some (if flags.unicode then wordChars else asciiWord)
  | _ => none

def control? (c : Char) : Option Char :=
  match c with
  | 'a' => some '\x07'
  | 'f' => some '\x0c'
  | 't' => some '\t'
  | 'n' => some '\n'
  | 'r' => some '\r'
  | 'v' => some '\x0b'
  | _ => none

def condition? (unicode : Bool) (c : Char) : Option Look :=
  match c with
  | 'A' => some .textStart
  | 'z' => some .textEnd
  | 'B' => some (.notWordBoundary unicode)
  | '<' => some (.wordStart unicode)
  | '>' => some (.wordEnd unicode)
  | _ => none

def boundaryNamed? (unicode : Bool) (name : String) : Option Look :=
  match name with
  | "start" => some (.wordStart unicode)
  | "end" => some (.wordEnd unicode)
  | "start-half" => some (.wordStartHalf unicode)
  | "end-half" => some (.wordEndHalf unicode)
  | _ => none

def isBoundaryLetter (c : Char) : Bool := isLatinLetter c || c == '-'

/-- A word boundary, whose kind may follow in braces; other braces are a count. -/
def readBoundary : Scan Atom := do
  let unicode := (← Scan.flags).unicode
  let here ← Scan.remaining
  match here with
  | '\x7b' :: rest =>
      advanceTo rest
      match ← Scan.remaining with
      | [] => Scan.refuse
      | c :: _ =>
          if isBoundaryLetter c then
            let name ← readWholeBrace
            let condition ← Scan.ofOption (boundaryNamed? unicode (String.ofList name))
            return .look condition
          else
            Scan.moveTo here
            return .look (.wordBoundary unicode)
  | _ => return .look (.wordBoundary unicode)

/-- What follows a backslash. -/
def readEscape : Scan Atom := do
  let flags ← Scan.flags
  match ← Scan.remaining with
  | [] => Scan.refuse
  | 'x' :: rest => advanceTo rest; readHex 2
  | 'u' :: rest => advanceTo rest; readHex 4
  | 'U' :: rest => advanceTo rest; readHex 8
  | 'p' :: rest => advanceTo rest; readProperty false
  | 'P' :: rest => advanceTo rest; readProperty true
  | 'b' :: rest => Scan.moveTo rest; readBoundary
  | c :: rest =>
      Scan.moveTo rest
      if mayBeEscaped c then return .literal c false
      else
        match shorthand? flags c, shorthand? flags c.toLower, control? c,
            condition? flags.unicode c with
        | some chars, _, _, _ => return .set chars
        | none, some chars, _, _ =>
            let set ← Scan.ofOption (invert flags true chars)
            return .set set
        | none, none, some literal, _ => return .literal literal false
        | none, none, none, some condition => return .look condition
        | none, none, none, none => Scan.refuse

-- Outside brackets.

def literalSet? (flags : Flags) (c : Char) (byte : Bool) : Option CharSet :=
  if !flags.unicode && byte && 0x7F < c.toNat then none
  else some (fold flags (.single c))

def Atom.expression? (flags : Flags) : Atom → Option Expression
  | .literal c byte => (literalSet? flags c byte).map .set
  | .set chars => some (.set chars)
  | .look condition => some (.look condition)

-- Every character but the end of a line.
def dot? (flags : Flags) : Option CharSet :=
  if !flags.unicode then none
  else if flags.dotAll then some (.range 0 lastCode)
  else if flags.crlf then some (CharSet.ofChars ['\n', '\r']).complement
  else some (CharSet.single '\n').complement

def lineStart (flags : Flags) : Look :=
  if !flags.multiLine then .textStart else if flags.crlf then .lineStartCrlf else .lineStart

def lineEnd (flags : Flags) : Look :=
  if !flags.multiLine then .textEnd else if flags.crlf then .lineEndCrlf else .lineEnd

-- Inside brackets.

-- Sets without Unicode hold only characters of one byte.
def memberSet? (flags : Flags) (first last : Char) : Option CharSet :=
  if flags.unicode || (first.toNat < 0x80 && last.toNat < 0x80) then
    some (.range first.toNat last.toNat)
  else none

def Atom.memberSet? (flags : Flags) : Atom → Option CharSet
  | .literal c _ => Pattern.memberSet? flags c c
  | .set chars => some chars
  | .look _ => none

def readMember : Scan Atom := do
  match ← Scan.remaining with
  | [] => Scan.refuse
  | '\\' :: rest =>
      Scan.moveTo rest
      readEscape
  | c :: rest =>
      Scan.moveTo rest
      return .literal c false

-- The character that decides what a hyphen means. Of a comment only the number sign is skipped.
def afterHyphen (flags : Flags) (rest : List Char) : Option Char :=
  if !flags.spaced then rest.head?
  else
    match rest.dropWhile isBlank with
    | '#' :: comment => (comment.dropWhile isBlank).head?
    | other => other.head?

/-- One member of a bracketed set, or a range between two characters. -/
def readRange : Scan CharSet := do
  let flags ← Scan.flags
  let first ← readMember
  skipSpace
  match ← Scan.remaining with
  | [] => Scan.refuse
  | '-' :: rest =>
      let next := afterHyphen flags rest
      if next == some ']' || next == some '-' then Scan.ofOption (first.memberSet? flags)
      else
        advanceTo rest
        let last ← readMember
        match first, last with
        | .literal a _, .literal b _ =>
            if a ≤ b then Scan.ofOption (memberSet? flags a b) else Scan.refuse
        | _, _ => Scan.refuse
  | _ => Scan.ofOption (first.memberSet? flags)

/-- A class such as `[:alpha:]` at the front of a text, and the text after it. -/
def asciiClassAt? (cs : List Char) : Option (Bool × CharSet × List Char) :=
  match cs with
  | '[' :: ':' :: after =>
      let (negated, body) :=
        match after with
        | '^' :: rest => (true, rest)
        | rest => (false, rest)
      let name := body.takeWhile (· != ':')
      match body.dropWhile (· != ':') with
      | ':' :: ']' :: rest =>
          (asciiClass? (String.ofList name)).map fun chars => (negated, chars, rest)
      | _ => none
  | _ => none

inductive SetOperation where
  | inter | difference | symmetricDifference
  deriving DecidableEq, Repr

/-- The members of a bracketed set read so far: what they hold, how many they are, and how deep
the deepest of them is nested. -/
structure Members where
  chars : CharSet
  count : Nat
  deepest : Nat
  deriving Repr

namespace Members

def none : Members := ⟨.empty, 0, 0⟩

def push (members : Members) (chars : CharSet) (depth : Nat) : Members :=
  ⟨members.chars.union chars, members.count + 1, max members.deepest depth⟩

-- Two members or more are a level of their own.
def depth (members : Members) : Nat :=
  if members.count ≤ 1 then members.deepest else members.deepest + 1

end Members

-- A set with the depth of its nesting.
structure Nested where
  chars : CharSet
  depth : Nat
  deriving Repr

-- An operation whose right side is still being read.
abbrev Pending := Option (SetOperation × Nested)

def SetOperation.apply (operation : SetOperation) (left right : CharSet) : CharSet :=
  match operation with
  | .inter => left.inter right
  | .difference => left.difference right
  | .symmetricDifference => left.symmetricDifference right

def complete (flags : Flags) (pending : Pending) (right : Members) : Nested :=
  match pending with
  | none => ⟨right.chars, right.depth⟩
  | some (operation, left) =>
      ⟨operation.apply (fold flags left.chars) (fold flags right.chars),
        max left.depth right.depth + 1⟩

-- Hyphens in front of a set stand for themselves.
def readHyphens (members : Members) : Nat → Scan Members
  | 0 => pure members
  | fuel + 1 => do
      match ← Scan.remaining with
      | '-' :: rest =>
          advanceTo rest
          readHyphens (members.push (.single '-') 0) fuel
      | _ => return members

mutual

/-- A bracketed set from its opening bracket on. -/
def readBracket : Nat → Scan Nested
  | 0 => Scan.refuse
  | fuel + 1 => do
      let flags ← Scan.flags
      let start ← Scan.remaining
      advanceTo (start.drop 1)
      let negated :=
        match ← Scan.remaining with
        | '^' :: _ => true
        | _ => false
      if negated then advanceTo ((← Scan.remaining).drop 1)
      let hyphens ← readHyphens .none start.length
      let first ←
        match hyphens.count, ← Scan.remaining with
        | 0, ']' :: rest => do
            advanceTo rest
            pure (hyphens.push (.single ']') 0)
        | _, _ => pure hyphens
      let inner ← readMembers fuel none first
      let chars ← Scan.ofOption (invert flags negated (fold flags inner.chars))
      return ⟨chars, inner.depth + 1⟩

/-- The rest of a bracketed set, up to and with its closing bracket. -/
def readMembers : Nat → Pending → Members → Scan Nested
  | 0, _, _ => Scan.refuse
  | fuel + 1, pending, members => do
      skipSpace
      let flags ← Scan.flags
      match ← Scan.remaining with
      | [] => Scan.refuse
      | ']' :: rest =>
          Scan.moveTo rest
          return complete flags pending members
      | '&' :: '&' :: rest =>
          Scan.moveTo rest
          readMembers fuel (some (.inter, complete flags pending members)) .none
      | '-' :: '-' :: rest =>
          Scan.moveTo rest
          readMembers fuel (some (.difference, complete flags pending members)) .none
      | '~' :: '~' :: rest =>
          Scan.moveTo rest
          readMembers fuel (some (.symmetricDifference, complete flags pending members)) .none
      | '[' :: rest =>
          match asciiClassAt? ('[' :: rest) with
          | some (negated, named, after) =>
              Scan.moveTo after
              let chars ← Scan.ofOption (invert flags negated (fold flags named))
              readMembers fuel pending (members.push chars 0)
          | none =>
              let inner ← readBracket fuel
              readMembers fuel pending (members.push inner.chars inner.depth)
      | _ =>
          let chars ← readRange
          readMembers fuel pending (members.push chars 0)

end

-- Flags, names and counts.

-- The flags named so far, whether a hyphen was seen, and whether it came last.
structure FlagDraft where
  flags : Flags
  seen : List Char
  negative : Bool
  dangling : Bool
  deriving DecidableEq, Repr

def FlagDraft.put? (draft : FlagDraft) (c : Char) : Option FlagDraft :=
  let value := !draft.negative
  if draft.seen.contains c then none
  else
    let named (flags : Flags) : FlagDraft := ⟨flags, c :: draft.seen, draft.negative, false⟩
    match c with
    | '-' => some ⟨draft.flags, '-' :: draft.seen, true, true⟩
    | 'i' => some (named { draft.flags with ignoreCase := value })
    | 'm' => some (named { draft.flags with multiLine := value })
    | 's' => some (named { draft.flags with dotAll := value })
    | 'R' => some (named { draft.flags with crlf := value })
    | 'x' => some (named { draft.flags with spaced := value })
    | 'u' => some (named { draft.flags with unicode := value })
    | 'U' => some (named { draft.flags with swapped := value })
    | _ => none

/-- Flags up to a colon or a closing parenthesis. -/
def flagsOf? (draft : FlagDraft) : List Char → Option (FlagDraft × Char × List Char)
  | [] => none
  | c :: rest =>
      if c == ':' || c == ')' then if draft.dangling then none else some (draft, c, rest)
      else
        match draft.put? c with
        | some longer => flagsOf? longer rest
        | none => none

def startsName (c : Char) : Bool := c == '_' || isAlphabetic c

def continuesName (c : Char) : Bool :=
  c == '_' || c == '.' || c == '[' || c == ']' || isAlphanumeric c

/-- The name of a group up to its closing bracket; no two groups share a name. -/
def readName : Scan Unit := do
  let rest ← Scan.remaining
  let name := rest.takeWhile (· != '>')
  let key := String.ofList name
  match name, rest.dropWhile (· != '>') with
  | first :: others, '>' :: after =>
      fun cursor =>
        if startsName first && others.all continuesName && !cursor.names.contains key then
          some ((), { cursor with rest := after, names := key :: cursor.names })
        else none
  | _, _ => Scan.refuse

-- Counts fit into 32 bits.
def countLimit : Nat := 0x100000000

def readDigits (value : Option Nat) : Nat → Scan (Option Nat)
  | 0 => Scan.refuse
  | fuel + 1 => do
      match ← Scan.remaining with
      | c :: rest =>
          if c.isDigit then
            advanceTo rest
            readDigits (some (value.getD 0 * 10 + (c.toNat - '0'.toNat))) fuel
          else return value
      | [] => return value

def skipBlanks : Scan Unit := do
  Scan.moveTo ((← Scan.remaining).dropWhile isBlank)

/-- A decimal number between blanks, if there is one. -/
def readCount : Scan (Option Nat) := do
  skipBlanks
  let count ← readDigits none ((← Scan.remaining).length + 1)
  skipBlanks
  skipSpace
  match count with
  | some n => if n < countLimit then return some n else Scan.refuse
  | none => return none

/-- The bounds of a repetition, from after the opening brace to after the closing one. -/
def readBounds : Scan (Nat × Option Nat) := do
  skipSpace
  let least ← Scan.ofOption (← readCount)
  let most ←
    match ← Scan.remaining with
    | ',' :: rest => do
        advanceTo rest
        match ← Scan.remaining with
        | '\x7d' :: _ => pure none
        | _ => some <$> Scan.ofOption (← readCount)
    | _ => pure (some least)
  match ← Scan.remaining with
  | '\x7d' :: rest =>
      Scan.moveTo rest
      if least ≤ most.getD least then return (least, most) else Scan.refuse
  | _ => Scan.refuse

end SpanAnnotation.Pattern
