import SpanAnnotation.Text.SentenceBreakTables

/-!
Sentence boundaries by the default rules of Unicode Standard Annex 29. A position is a boundary
or not by what the text before it ends with, the class of the next character, and for a full
stop the first letter that follows.
-/

set_option autoImplicit false

namespace SpanAnnotation.Text

/-- The values of the Unicode property Sentence_Break. -/
inductive BreakClass where
  | carriageReturn | lineFeed | separator | extend | format | space | lower | upper
  | otherLetter | number | fullStop | sentenceContinue | sentenceTerminal | close | other
  deriving DecidableEq, Repr

def BreakClass.of (c : Char) : BreakClass :=
  let code := c.toNat
  if code == 0xD then .carriageReturn
  else if code == 0xA then .lineFeed
  else if code == 0x85 || code == 0x2028 || code == 0x2029 then .separator
  else if code == 0x9 || code == 0xB || code == 0xC || code == 0x20 || code == 0xA0 ||
    code == 0x1680 || (0x2000 ≤ code && code ≤ 0x200A) || code == 0x202F || code == 0x205F ||
    code == 0x3000 then .space
  else if code == 0x2E || code == 0x2024 || code == 0xFE52 || code == 0xFF0E then .fullStop
  else if Strides.contains lowerStrides code then .lower
  else if Strides.contains upperStrides code then .upper
  else if Ranges.contains numberRanges code then .number
  else if Ranges.contains otherLetterRanges code then .otherLetter
  else if Ranges.contains extendRanges code then .extend
  else if Ranges.contains formatRanges code then .format
  else if Ranges.contains sentenceContinueRanges code then .sentenceContinue
  else if Ranges.contains sentenceTerminalRanges code then .sentenceTerminal
  else if Ranges.contains closeRanges code then .close
  else .other

inductive Terminator where
  -- A full stop, and whether a capital or small letter stands right before it.
  | fullStop (afterLetter : Bool)
  | definite
  deriving DecidableEq, Repr

inductive Trail where
  | bare | closed | spaced
  deriving DecidableEq, Repr

-- What the text so far ends with, where characters that extend others do not count.
inductive Ending where
  | start
  | carriageReturn
  | paragraph
  | letter
  | terminated (mark : Terminator) (trail : Trail)
  | other
  deriving DecidableEq, Repr

def Ending.next : Ending → BreakClass → Ending
  | _, .carriageReturn => .carriageReturn
  | _, .lineFeed => .paragraph
  | _, .separator => .paragraph
  | _, .lower => .letter
  | _, .upper => .letter
  | .letter, .fullStop => .terminated (.fullStop true) .bare
  | _, .fullStop => .terminated (.fullStop false) .bare
  | _, .sentenceTerminal => .terminated .definite .bare
  | .terminated mark .bare, .close => .terminated mark .closed
  | .terminated mark .closed, .close => .terminated mark .closed
  | .terminated mark _, .space => .terminated mark .spaced
  | .start, .extend => .other
  | .start, .format => .other
  | .carriageReturn, .extend => .other
  | .carriageReturn, .format => .other
  | .paragraph, .extend => .other
  | .paragraph, .format => .other
  | ending, .extend => ending
  | ending, .format => ending
  | _, _ => .other

/-- The first letter, paragraph end or terminator ahead is a small letter. -/
def lowerAhead : List (Char × BreakClass) → Bool
  | [] => false
  | (_, .lower) :: _ => true
  | (_, .otherLetter) :: _ => false
  | (_, .upper) :: _ => false
  | (_, .separator) :: _ => false
  | (_, .carriageReturn) :: _ => false
  | (_, .lineFeed) :: _ => false
  | (_, .sentenceTerminal) :: _ => false
  | (_, .fullStop) :: _ => false
  | _ :: rest => lowerAhead rest

def BreakClass.endsParagraph : BreakClass → Bool
  | .separator | .carriageReturn | .lineFeed => true
  | _ => false

/-- Whether a boundary lies between the ending and the next class, which comes first in what is
ahead. -/
def isBoundary (ending : Ending) (next : BreakClass) (ahead : List (Char × BreakClass)) : Bool :=
  match ending with
  | .start => true
  | .carriageReturn => next != .lineFeed
  | .paragraph => true
  | .letter => false
  | .other => false
  | .terminated mark trail =>
      if next == .extend || next == .format then false
      else if mark != .definite && trail == .bare && next == .number then false
      else if mark == .fullStop true && trail == .bare && next == .upper then false
      else if mark != .definite && lowerAhead ahead then false
      else if next == .sentenceContinue || next == .sentenceTerminal || next == .fullStop then false
      else if next == .close then trail == .spaced
      else !(next == .space || next.endsParagraph)

-- The current sentence is held in reverse order.
def cutSentences (ending : Ending) (current : List Char) :
    List (Char × BreakClass) → List (List Char)
  | [] => if current.isEmpty then [] else [current.reverse]
  | (c, kind) :: rest =>
      let following := ending.next kind
      if !current.isEmpty && isBoundary ending kind ((c, kind) :: rest) then
        current.reverse :: cutSentences following [c] rest
      else cutSentences following (c :: current) rest

def sentences (cs : List Char) : List (List Char) :=
  cutSentences .start [] (cs.map fun c => (c, BreakClass.of c))

theorem cutSentences_flatten (ending : Ending) (current : List Char)
    (marked : List (Char × BreakClass)) :
    (cutSentences ending current marked).flatten =
      current.reverse ++ marked.map Prod.fst := by
  induction marked generalizing ending current with
  | nil =>
    simp only [cutSentences]
    split
    next empty => simp [List.isEmpty_iff.mp empty]
    next => simp
  | cons head rest ih =>
    simp only [cutSentences]
    split <;> simp [ih]

theorem sentences_flatten (cs : List Char) : (sentences cs).flatten = cs := by
  simp [sentences, cutSentences_flatten, Function.comp_def]

end SpanAnnotation.Text
