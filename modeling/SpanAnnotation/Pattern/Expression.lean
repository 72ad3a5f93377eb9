import SpanAnnotation.Pattern.Property

/-!
Expressions of the pattern language and what they match. A position of a text lies before its
first character, after its last, or between two. An expression moves a set of start positions to
the set of positions where a match may end.
-/

set_option autoImplicit false

namespace SpanAnnotation.Pattern

-- The characters on both sides of a position.
structure Place where
  before? : Option Char
  after? : Option Char
  deriving DecidableEq, Repr

/-- Conditions on a position. Those on words go by Unicode, or by the Latin alphabet alone. -/
inductive Look where
  | textStart | textEnd
  | lineStart | lineEnd
  | lineStartCrlf | lineEndCrlf
  | wordBoundary (unicode : Bool)
  | notWordBoundary (unicode : Bool)
  | wordStart (unicode : Bool)
  | wordEnd (unicode : Bool)
  | wordStartHalf (unicode : Bool)
  | wordEndHalf (unicode : Bool)
  deriving DecidableEq, Repr

def isWordChar (unicode : Bool) (c : Option Char) : Bool :=
  match c with
  | none => false
  | some c => (if unicode then wordChars else asciiWord).contains c

def Look.holds (look : Look) (place : Place) : Bool :=
  let before unicode := isWordChar unicode place.before?
  let after unicode := isWordChar unicode place.after?
  match look with
  | .textStart => place.before?.isNone
  | .textEnd => place.after?.isNone
  | .lineStart => place.before?.isNone || place.before? == some '\n'
  | .lineEnd => place.after?.isNone || place.after? == some '\n'
  | .lineStartCrlf =>
      place.before?.isNone || place.before? == some '\n' ||
        (place.before? == some '\r' && place.after? != some '\n')
  | .lineEndCrlf =>
      place.after?.isNone || place.after? == some '\r' ||
        (place.after? == some '\n' && place.before? != some '\r')
  | .wordBoundary unicode => before unicode != after unicode
  | .notWordBoundary unicode => before unicode == after unicode
  | .wordStart unicode => !before unicode && after unicode
  | .wordEnd unicode => before unicode && !after unicode
  | .wordStartHalf unicode => !before unicode
  | .wordEndHalf unicode => !after unicode

inductive Expression where
  | empty
  | set (chars : CharSet)
  | look (condition : Look)
  | sequence (a b : Expression)
  | choice (a b : Expression)
  -- At least `least` and at most `most` times; without `most` there is no end. Greed prefers more.
  | repeated (a : Expression) (least : Nat) (most : Option Nat) (greedy : Bool)
  -- Parentheses, with a number if they keep what they match.
  | group (number? : Option Nat) (a : Expression)
  deriving Repr

def placesFrom (before? : Option Char) : List Char → List Place
  | [] => [⟨before?, none⟩]
  | c :: rest => ⟨before?, some c⟩ :: placesFrom (some c) rest

/-- The positions of a text, one more than it has characters. -/
def places (text : String) : List Place := placesFrom none text.toList

-- Which positions of a text are in a set.
abbrev Marks := List Bool

def Marks.union (a b : Marks) : Marks := List.zipWith (· || ·) a b

/-- Moves every mark over one character of the set. -/
def advance (chars : CharSet) (carried : Bool) : List Place → Marks → Marks
  | place :: places, mark :: marks =>
      carried :: advance chars (mark && (place.after?.map chars.contains).getD false) places marks
  | _, _ => []

def iterate (step : Marks → Marks) : Nat → Marks → Marks
  | 0, marks => marks
  | count + 1, marks => iterate step count (step marks)

-- The marks after at most `count` steps; a step without a new mark is the last.
def iterateUpTo (step : Marks → Marks) : Nat → Marks → Marks
  | 0, marks => marks
  | count + 1, marks =>
      let more := marks.union (step marks)
      if more == marks then marks else iterateUpTo step count more

namespace Expression

/-- Where a match may end when it starts at one of the marks. More repetitions than there are
positions change nothing. -/
def run (places : List Place) : Expression → Marks → Marks
  | .empty, marks => marks
  | .set chars, marks => advance chars false places marks
  | .look condition, marks =>
      List.zipWith (fun place mark => mark && condition.holds place) places marks
  | .sequence a b, marks => b.run places (a.run places marks)
  | .choice a b, marks => Marks.union (a.run places marks) (b.run places marks)
  | .group _ a, marks => a.run places marks
  | .repeated a least most _, marks =>
      let enough := places.length
      let started := iterate (a.run places) (min least enough) marks
      let further :=
        match most with
        | none => enough
        | some most => min (most - least) enough
      iterateUpTo (a.run places) further started

/-- Some part of the text matches. -/
def isMatch (expression : Expression) (text : String) : Bool :=
  let all := places text
  (expression.run all (all.map fun _ => true)).any id

end Expression

end SpanAnnotation.Pattern
