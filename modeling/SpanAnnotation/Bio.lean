import SpanAnnotation.Document

/-!
Spans of one category as one tag per token: begin, inside or outside. A tag depends only on
whether its token and the one before are covered, so spans that touch come back as one. Reading
tags never fails: an inside tag after an outside one opens a span.
-/

set_option autoImplicit false

namespace SpanAnnotation

inductive Tag where
  | opening | inside | outside
  deriving DecidableEq, Repr

namespace Tag

def label : Tag → String
  | .opening => "B"
  | .inside => "I"
  | .outside => "O"

def ofLabelStart : List Char → Option Tag
  | ['B'] => some .opening
  | ['I'] => some .inside
  | ['O'] => some .outside
  | _ => none

/-- Reads a label up to its first hyphen. -/
def ofLabel? (text : String) : Option Tag := ofLabelStart (text.toList.takeWhile (· != '-'))

/-- Strict tagging does not let a span continue where none is open. -/
def mayFollow (before after : Tag) : Bool := !(before == .outside && after == .inside)

end Tag

namespace Bio

def tagsAfter (before : Bool) : List Bool → List Tag
  | [] => []
  | covered :: rest =>
      (if !covered then .outside else if before then .inside else .opening) ::
        tagsAfter covered rest

/-- The tags of tokens of which it is known whether they are covered. -/
def ofCoverage (covered : List Bool) : List Tag := tagsAfter false covered

/-- Flags the tokens of a span. Its end counts no further than the largest index. -/
def mark (flags : List Bool) (span : Nat × Nat) : List Bool :=
  flags.mapIdx fun token flag => flag || (span.1 ≤ token && token < min (span.2 + 1) maxIndex)

def encodeSpans (spans : List (Nat × Nat)) (size : Nat) : List Tag :=
  ofCoverage (spans.foldl mark (List.replicate size false))

/-- The tags of a category in a sentence; none for a sentence that does not exist. -/
def encode (document : Document) (sentence : Nat) (category : String) : List Tag :=
  let size := ((document.sentence? sentence).map Sentence.size).getD 0
  ofCoverage ((List.range size).map fun token => document.isCovered sentence token category)

/-- How many tags are read, where the open span starts, and the spans that are closed. -/
structure Reading where
  position : Nat
  start : Option Nat
  spans : List (Nat × Nat)
  deriving DecidableEq, Repr

namespace Reading

def initial : Reading := ⟨0, none, []⟩

-- The open span ends with the token before.
def close (reading : Reading) : Reading :=
  match reading.start with
  | none => reading
  | some first =>
      { reading with start := none, spans := reading.spans ++ [(first, reading.position - 1)] }

def openHere (reading : Reading) : Reading := { reading with start := some reading.position }

def advance (reading : Reading) : Reading := { reading with position := reading.position + 1 }

def step (reading : Reading) : Tag → Reading
  | .opening => reading.close.openHere.advance
  | .inside => (if reading.start.isNone then reading.openHere else reading).advance
  | .outside => reading.close.advance

def after (tags : List Tag) : Reading := tags.foldl step initial

end Reading

def decode (tags : List Tag) : List (Nat × Nat) := (Reading.after tags).close.spans

/-- Unknown labels count as outside. -/
def decodeLabels (labels : List String) : List (Nat × Nat) :=
  decode (labels.map fun label => (Tag.ofLabel? label).getD .outside)

def afterHyphen : List Char → Option (List Char)
  | [] => none
  | c :: rest => if c == '-' then some rest else afterHyphen rest

/-- The tag of a label such as `B-PER` for one category; labels of others are outside. -/
def tagFor (category label : String) : Tag :=
  match afterHyphen label.toList with
  | none => .outside
  | some rest =>
      if String.ofList rest == category then (Tag.ofLabel? label).getD .outside else .outside

def decodeLabelsFor (labels : List String) (category : String) : List (Nat × Nat) :=
  decode (labels.map (tagFor category))

/-- Writes the labels of consecutive tokens, up to the first token that is refused. -/
def writeTags (table : AttributeTable) (index token : Nat) :
    List Tag → AttributeTable × Except Error Unit
  | [] => (table, .ok ())
  | tag :: rest =>
      match table.set token (.index index) tag.label with
      | (written, .ok _) => writeTags written index (token + 1) rest
      | (partway, .error e) => (partway, .error e)

/-- Stores the tags of a category as an attribute of each token and returns its index. -/
def writeAttribute (document : Document) (sentence : Nat) (category name : String) :
    Document × Except Error Nat :=
  match document.sentence? sentence with
  | none => (document, .error (.invalidDocument (.noSentence sentence)))
  | some target =>
      let (table, index) := target.attributes.register name
      let (written, outcome) := writeTags table index 0 (encode document sentence category)
      (document.withTable sentence written, outcome.map fun _ => index)

theorem tagsAfter_length (before : Bool) (covered : List Bool) :
    (tagsAfter before covered).length = covered.length := by
  induction covered generalizing before with
  | nil => rfl
  | cons head rest ih => simp [tagsAfter, ih]

end Bio

end SpanAnnotation
