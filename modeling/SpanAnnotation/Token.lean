import SpanAnnotation.Text.Alphanumeric
import SpanAnnotation.Text.Blank
import SpanAnnotation.Text.SentenceBreak

/-!
Tokens of a text: words, and every other character that is not blank as a token of its own. A
full stop stays in the word before it when that word is a known abbreviation, or when the word is
numeric and a numeric character follows. Offsets count UTF-8 bytes.
-/

set_option autoImplicit false

namespace SpanAnnotation

structure Token where
  orth : String
  start : Nat
  stop : Nat
  index : Nat
  deriving DecidableEq, Repr

-- A token that was not cut out of a text.
def Token.ofOrth (orth : String) (index : Nat) : Token := ⟨orth, 0, 0, index⟩

namespace Token

def abbreviations : List String :=
  ["Dr", "Dra", "Sr", "Sra", "Prof", "Profa", "prof", "dr", "np", "tzn", "ul", "al",
   "im", "św", "gen", "mgr", "inż", "km", "cm", "kg", "etc", "art", "pág", "tel", "av"]

def byteSize (cs : List Char) : Nat := cs.foldr (fun c size => c.utf8Size + size) 0

@[simp] theorem byteSize_nil : byteSize [] = 0 := rfl

@[simp] theorem byteSize_cons (c : Char) (rest : List Char) :
    byteSize (c :: rest) = c.utf8Size + byteSize rest := rfl

theorem byteSize_append (cs others : List Char) :
    byteSize (cs ++ others) = byteSize cs + byteSize others := by
  induction cs with
  | nil => simp
  | cons c rest ih => simp [ih, Nat.add_assoc]

theorem utf8ByteSize_ofList (cs : List Char) : (String.ofList cs).utf8ByteSize = byteSize cs := by
  induction cs with
  | nil => simp
  | cons c rest ih =>
    have single : String.ofList (c :: rest) = String.singleton c ++ String.ofList rest := by
      rw [String.singleton_eq_ofList, ← String.ofList_append, List.singleton_append]
    rw [single, String.utf8ByteSize_append, String.utf8ByteSize_singleton, ih, byteSize_cons]

-- A piece of the text with its byte range, before tokens are numbered.
structure Piece where
  text : List Char
  start : Nat
  stop : Nat
  deriving DecidableEq, Repr

def Piece.shift (offset : Nat) (piece : Piece) : Piece :=
  { piece with start := piece.start + offset, stop := piece.stop + offset }

def Piece.toToken (piece : Piece) (index : Nat) : Token :=
  ⟨String.ofList piece.text, piece.start, piece.stop, index⟩

def startsNumeric : List Char → Bool
  | [] => false
  | c :: _ => Text.isNumeric c

/-- A full stop after this word belongs to it, given the text that follows the stop. -/
def keepsStop (word after : List Char) : Bool :=
  abbreviations.contains (String.ofList word) ||
    (word.all Text.isNumeric && startsNumeric after)

def continues (word : List Char) (c : Char) : Bool :=
  Text.isAlphanumeric c || (c == '-' && !word.isEmpty)

def closeWord (word : List Char) (start stop : Nat) : List Piece :=
  if word.isEmpty then [] else [⟨word, start, stop⟩]

/-- Scans from a byte position, inside a word that began at `start` unless the word is empty. -/
def scan (position start : Nat) (word : List Char) : List Char → List Piece
  | [] => closeWord word start position
  | c :: rest =>
      let following := position + c.utf8Size
      if continues word c then
        scan following (if word.isEmpty then position else start) (word ++ [c]) rest
      else if c == '.' && !word.isEmpty && keepsStop word rest then
        scan following start (word ++ [c]) rest
      else if Text.isBlank c then
        closeWord word start position ++ scan following following [] rest
      else
        closeWord word start position ++
          ⟨[c], position, following⟩ :: scan following following [] rest

def pieces (cs : List Char) : List Piece := scan 0 0 [] cs

def number (found : List Piece) : List Token := found.mapIdx fun index piece => piece.toToken index

end Token

/-- The tokens of a text taken as one stretch. -/
def tokenize (text : String) : List Token := Token.number (Token.pieces text.toList)

/-- The tokens of consecutive segments, numbered anew in each; segments without tokens go. -/
def tokenizeSegments (offset : Nat) : List (List Char) → List (List Token)
  | [] => []
  | segment :: rest =>
      let tokens := Token.number ((Token.pieces segment).map (Token.Piece.shift offset))
      let remaining := tokenizeSegments (offset + Token.byteSize segment) rest
      if tokens.isEmpty then remaining else tokens :: remaining

/-- The tokens of each sentence of a text. -/
def splitSentences (text : String) : List (List Token) :=
  tokenizeSegments 0 (Text.sentences text.toList)

end SpanAnnotation
