import SpanAnnotation.Error
import SpanAnnotation.Pattern.Automaton
import SpanAnnotation.Pattern.Scan

/-!
Patterns: reading a whole pattern, and asking whether a text holds a match. A pattern is a choice
between sequences of parts; parts are characters, sets, conditions and groups, each of which may be
repeated. Nesting and size are bounded.
-/

set_option autoImplicit false

namespace SpanAnnotation

namespace Pattern

-- A part of a sequence with the depth of its nesting. Flags alone are a part without a match, and
-- cannot be repeated.
structure Part where
  expression? : Option Expression
  depth : Nat
  deriving Repr

def Part.expression (part : Part) : Expression := part.expression?.getD .empty

def Part.plain (expression : Expression) : Part := ⟨some expression, 0⟩

def maxDepth (parts : List Part) : Nat := (parts.map Part.depth).foldl max 0

/-- Joins parts that are given last first. -/
def joinParts (join : Expression → Expression → Expression) : List Part → Part
  | [] => .plain .empty
  | [part] => ⟨some part.expression, part.depth⟩
  | last :: before =>
      ⟨some (before.foldl (fun tail part => join part.expression tail) last.expression),
        maxDepth (last :: before) + 1⟩

def sequenceOf (parts : List Part) : Part := joinParts .sequence parts

def choiceOf (branches : List Part) : Part := joinParts .choice branches

-- A question mark after a repetition turns its greed around.
def readGreed : Scan Bool := do
  let swapped := (← Scan.flags).swapped
  match ← Scan.remaining with
  | '?' :: rest =>
      Scan.moveTo rest
      return swapped
  | _ => return !swapped

/-- The last part repeated; there must be one, and it must not be flags alone. -/
def repeatLast (parts : List Part) (least : Nat) (most : Option Nat) : Scan (List Part) := do
  let greedy ← readGreed
  match parts with
  | part :: before =>
      match part.expression? with
      | some expression =>
          return ⟨some (.repeated expression least most greedy), part.depth + 1⟩ :: before
      | none => Scan.refuse
  | [] => Scan.refuse

def isLookaround (rest : List Char) : Bool :=
  [['?', '='], ['?', '!'], ['?', '<', '='], ['?', '<', '!']].any fun mark => mark.isPrefixOf rest

/-- A part that is neither a group nor a repetition. -/
def readPrimitive : Scan Part := do
  let flags ← Scan.flags
  match ← Scan.remaining with
  | [] => Scan.refuse
  | '\\' :: rest =>
      Scan.moveTo rest
      let atom ← readEscape
      let expression ← Scan.ofOption (atom.expression? flags)
      return .plain expression
  | '.' :: rest =>
      Scan.moveTo rest
      let chars ← Scan.ofOption (dot? flags)
      return .plain (.set chars)
  | '^' :: rest =>
      Scan.moveTo rest
      return .plain (.look (lineStart flags))
  | '$' :: rest =>
      Scan.moveTo rest
      return .plain (.look (lineEnd flags))
  | c :: rest =>
      Scan.moveTo rest
      let chars ← Scan.ofOption (literalSet? flags c false)
      return .plain (.set chars)

mutual

/-- The rest of a pattern or group, given the finished branches and the parts of the present one,
both last first. Ends before a closing parenthesis. -/
def readParts : Nat → List Part → List Part → Scan Part
  | 0, _, _ => Scan.refuse
  | fuel + 1, branches, parts => do
      skipSpace
      match ← Scan.remaining with
      | [] => return choiceOf (sequenceOf parts :: branches)
      | ')' :: _ => return choiceOf (sequenceOf parts :: branches)
      | '|' :: rest =>
          Scan.moveTo rest
          readParts fuel (sequenceOf parts :: branches) []
      | '(' :: rest =>
          advanceTo rest
          let part ← readGroup fuel
          readParts fuel branches (part :: parts)
      | '[' :: rest =>
          let bracket ← readBracket (rest.length + 2)
          readParts fuel branches (⟨some (.set bracket.chars), bracket.depth⟩ :: parts)
      | '?' :: rest =>
          Scan.moveTo rest
          readParts fuel branches (← repeatLast parts 0 (some 1))
      | '*' :: rest =>
          Scan.moveTo rest
          readParts fuel branches (← repeatLast parts 0 none)
      | '+' :: rest =>
          Scan.moveTo rest
          readParts fuel branches (← repeatLast parts 1 none)
      | '\x7b' :: rest =>
          Scan.moveTo rest
          let (least, most) ← readBounds
          skipSpace
          readParts fuel branches (← repeatLast parts least most)
      | _ =>
          let part ← readPrimitive
          readParts fuel branches (part :: parts)

/-- A group from after its opening parenthesis to after its closing one. Flags that are set inside
end with the group; flags alone hold on. -/
def readGroup : Nat → Scan Part
  | 0 => Scan.refuse
  | fuel + 1 => do
      let flags ← Scan.flags
      let start ← Scan.remaining
      if isLookaround start then Scan.refuse
      else
        -- Whether a group was opened, and its number if it keeps what it matches.
        let opened : Option (Option Nat) ←
          match start with
          | '?' :: 'P' :: '<' :: rest => do
              Scan.moveTo rest
              readName
              some <$> (some <$> Scan.openGroup)
          | '?' :: '<' :: rest => do
              Scan.moveTo rest
              readName
              some <$> (some <$> Scan.openGroup)
          | '?' :: rest => do
              let (draft, mark, after) ← Scan.ofOption (flagsOf? ⟨flags, [], false, false⟩ rest)
              Scan.moveTo after
              Scan.setFlags draft.flags
              if mark == ':' then pure (some none)
              else if draft.seen.isEmpty then Scan.refuse
              else pure none
          | _ => some <$> (some <$> Scan.openGroup)
        match opened with
        | some number? => do
            let inner ← readParts fuel [] []
            match ← Scan.remaining with
            | ')' :: after =>
                Scan.moveTo after
                Scan.setFlags flags
                return ⟨inner.expression?.map (.group number?), inner.depth + 1⟩
            | _ => Scan.refuse
        | none => return ⟨none, 0⟩

end

def nestingLimit : Nat := 250

/-- Reads a whole pattern. Nesting and size are bounded. -/
def ofText? (text : List Char) : Option Expression :=
  match readParts (2 * text.length + 2) [] [] ⟨text, .initial, [], 0⟩ with
  | some (part, cursor) =>
      if cursor.rest.isEmpty && part.depth ≤ nestingLimit &&
          Automaton.fits (.ofExpression part.expression) then
        some part.expression
      else none
  | none => none

end Pattern

/-- A pattern with its text and what the text means. -/
structure Pattern where
  text : String
  expression : Pattern.Expression
  deriving Repr

namespace Pattern

def compile (text : String) : Except Error Pattern :=
  match ofText? text.toList with
  | some expression => .ok ⟨text, expression⟩
  | none => .error (.regex text)

/-- The pattern that asks the whole text to match. -/
def compileWhole (text : String) : Except Error Pattern := compile ("^(?:" ++ text ++ ")$")

def isMatch (pattern : Pattern) (text : String) : Bool := pattern.expression.isMatch text

end Pattern

end SpanAnnotation
