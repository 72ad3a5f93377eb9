import SpanAnnotation.Document

/-!
Comparison of annotated documents with a reference, sentence by sentence. Two annotations agree
when first token, last token and category are the same; repeated annotations count once each.
-/

set_option autoImplicit false

namespace SpanAnnotation

structure Counts where
  truePositives : Nat
  falsePositives : Nat
  falseNegatives : Nat
  deriving DecidableEq, Repr

namespace Counts

def zero : Counts := ⟨0, 0, 0⟩

def reference (counts : Counts) : Nat := counts.truePositives + counts.falseNegatives

def evaluated (counts : Counts) : Nat := counts.truePositives + counts.falsePositives

def ratio (part whole : Nat) : Float := if whole = 0 then 0.0 else part.toFloat / whole.toFloat

def precision (counts : Counts) : Float := ratio counts.truePositives counts.evaluated

/-- The share of the reference that was found, also known as recall. -/
def sensitivity (counts : Counts) : Float := ratio counts.truePositives counts.reference

/-- The harmonic mean of precision and sensitivity, and zero when both are. -/
def f1 (counts : Counts) : Float :=
  let p := counts.precision
  let s := counts.sensitivity
  if p + s == 0.0 then 0.0 else 2.0 * p * s / (p + s)

def add (a b : Counts) : Counts :=
  ⟨a.truePositives + b.truePositives, a.falsePositives + b.falsePositives,
    a.falseNegatives + b.falseNegatives⟩

end Counts

-- Counts with the figures derived from them.
structure Score where
  counts : Counts
  reference : Nat
  evaluated : Nat
  precision : Float
  sensitivity : Float
  f1 : Float
  deriving BEq, Repr

def Score.ofCounts (counts : Counts) : Score :=
  ⟨counts, counts.reference, counts.evaluated, counts.precision, counts.sensitivity, counts.f1⟩

structure EvaluationReport where
  documentsCompared : Nat
  onlyInReference : Nat
  onlyInEvaluated : Nat
  differentSentenceCount : Nat
  categories : List (String × Score)
  total : Score
  deriving BEq, Repr

-- Counts by category, with the categories in increasing order.
abbrev Tally := List (String × Counts)

namespace Tally

def get (tally : Tally) (category : String) : Counts := (tally.lookup category).getD Counts.zero

def add (tally : Tally) (category : String) (counts : Counts) : Tally :=
  match tally with
  | [] => [(category, counts)]
  | (c, old) :: rest =>
      if category == c then (c, old.add counts) :: rest
      else if category < c then (category, counts) :: (c, old) :: rest
      else (c, old) :: Tally.add rest category counts

def total (tally : Tally) : Counts :=
  tally.foldl (fun sum entry => sum.add entry.2) Counts.zero

end Tally

structure SpanKey where
  first : Nat
  last : Nat
  category : String
  deriving DecidableEq, Repr

def SpanKey.of (a : Annotation) : SpanKey := ⟨a.first, a.last, a.category⟩

structure Evaluation where
  tally : Tally
  documentsCompared : Nat
  onlyInReference : Nat
  onlyInEvaluated : Nat
  differentSentenceCount : Nat
  deriving DecidableEq, Repr

namespace Evaluation

def empty : Evaluation := ⟨[], 0, 0, 0, 0⟩

/-- Counts evaluated spans against the reference spans that are still unmatched; what is left
over at the end was missed. -/
def matchSpans (tally : Tally) (pending : List SpanKey) : List SpanKey → Tally
  | [] => pending.foldl (fun sum key => sum.add key.category ⟨0, 0, 1⟩) tally
  | key :: rest =>
      if pending.contains key then
        matchSpans (tally.add key.category ⟨1, 0, 0⟩) (pending.erase key) rest
      else matchSpans (tally.add key.category ⟨0, 1, 0⟩) pending rest

def compareSentence (tally : Tally) (reference evaluated : Document) (sentence : Nat) : Tally :=
  matchSpans tally ((reference.annotationsIn sentence).map SpanKey.of)
    ((evaluated.annotationsIn sentence).map SpanKey.of)

/-- Compares two documents; those with different numbers of sentences are only counted. -/
def compareDocuments (evaluation : Evaluation) (reference evaluated : Document) :
    Evaluation × Bool :=
  let sentences := reference.sentences.length
  if sentences = evaluated.sentences.length then
    let tally := (List.range sentences).foldl
      (fun tally sentence => compareSentence tally reference evaluated sentence) evaluation.tally
    let compared := evaluation.documentsCompared + 1
    ({ evaluation with tally := tally, documentsCompared := compared }, true)
  else
    ({ evaluation with differentSentenceCount := evaluation.differentSentenceCount + 1 }, false)

def insertName (name : String) : List String → List String
  | [] => [name]
  | n :: rest =>
      if name == n then n :: rest
      else if name < n then name :: n :: rest
      else n :: insertName name rest

-- Of documents with the same name the last one counts.
def named? (documents : List Document) (name : String) : Option Document :=
  documents.reverse.find? fun document => document.id == name

def compareNamed (reference evaluated : List Document) (evaluation : Evaluation) (name : String) :
    Evaluation :=
  match named? reference name, named? evaluated name with
  | some r, some e => (evaluation.compareDocuments r e).1
  | some _, none => { evaluation with onlyInReference := evaluation.onlyInReference + 1 }
  | none, some _ => { evaluation with onlyInEvaluated := evaluation.onlyInEvaluated + 1 }
  | none, none => evaluation

/-- Pairs documents by name, in order of names, and compares each pair. -/
def compareSets (evaluation : Evaluation) (reference evaluated : List Document) : Evaluation :=
  let names := ((reference ++ evaluated).map Document.id).foldr insertName []
  names.foldl (compareNamed reference evaluated) evaluation

def counts (evaluation : Evaluation) (category : String) : Counts := evaluation.tally.get category

def report (evaluation : Evaluation) : EvaluationReport :=
  { documentsCompared := evaluation.documentsCompared
    onlyInReference := evaluation.onlyInReference
    onlyInEvaluated := evaluation.onlyInEvaluated
    differentSentenceCount := evaluation.differentSentenceCount
    categories := evaluation.tally.map fun entry => (entry.1, Score.ofCounts entry.2)
    total := Score.ofCounts evaluation.tally.total }

end Evaluation

end SpanAnnotation
