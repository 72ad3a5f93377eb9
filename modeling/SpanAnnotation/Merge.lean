import SpanAnnotation.Document
import SpanAnnotation.Repetition

/-!
Merging: among overlapping annotations whose categories compete, the longer one wins, and of two
equally long ones that whose category stands earlier in the priority list. All pairs are compared
before any loser is removed; equals tie and both stay.
-/

set_option autoImplicit false

namespace SpanAnnotation

structure Merger where
  priority : List String
  -- The place of each category in the list.
  ranks : List (String × Nat)
  inStep : ranks = priority.zipIdx
  deriving DecidableEq, Repr

namespace Merger

def ranking (priority : List String) : Merger := ⟨priority, priority.zipIdx, rfl⟩

/-- A merger needs at least one category and each only once. -/
def ofPriority (priority : List String) : Except Error Merger :=
  if priority.isEmpty then .error (.config .emptyPriority)
  else
    match firstRepeated priority with
    | some category => .error (.config (.repeatedPriority category))
    | none => .ok (ranking priority)

/-- The place of a category in the list; none for one that does not compete. -/
def rank? (merger : Merger) (category : String) : Option Nat :=
  merger.ranks.lookup category

-- Categories that do not compete rank after all others.
def rank (merger : Merger) (category : String) : Nat := (merger.rank? category).getD maxIndex

/-- Compares two annotations; the lesser wins. -/
def compare (merger : Merger) (a b : Annotation) : Ordering :=
  if a.id == b.id || !a.overlaps b then .eq
  else if a.size == b.size then Ord.compare (merger.rank a.category) (merger.rank b.category)
  else Ord.compare b.size a.size

def competes (merger : Merger) (a : Annotation) : Bool := (merger.rank? a.category).isSome

def losesAmong (merger : Merger) (group : List Annotation) (b : Annotation) : Bool :=
  group.any fun a => merger.compare a b == .lt

def insertSorted (n : Nat) : List Nat → List Nat
  | [] => [n]
  | m :: rest =>
      if n < m then n :: m :: rest else if n = m then m :: rest else m :: insertSorted n rest

def sorted (ids : List Nat) : List Nat := ids.foldr insertSorted []

/-- The identities of the candidates that lose some comparison, in increasing order. -/
def losers (merger : Merger) (candidates : List Annotation) : List Nat :=
  let group := candidates.filter merger.competes
  sorted ((group.filter (merger.losesAmong group)).map Annotation.id)

def mergeSentence (merger : Merger) (document : Document) (sentence : Nat) :
    Document × List Annotation :=
  document.removeAll (merger.losers (document.annotationsIn sentence))

def mergeSentences (merger : Merger) (document : Document) :
    List Nat → Document × List Annotation
  | [] => (document, [])
  | sentence :: rest =>
      let (smaller, removed) := merger.mergeSentence document sentence
      let (final, others) := merger.mergeSentences smaller rest
      (final, removed ++ others)

/-- Merges every sentence and returns what was removed. -/
def mergeDocument (merger : Merger) (document : Document) : Document × List Annotation :=
  merger.mergeSentences document (List.range document.sentences.length)

end Merger

end SpanAnnotation
