import SpanAnnotation.Error

/-!
Labelled spans of tokens: proposals without an identity, annotations with one, and typed relations
between annotations. A span names its first and its last token, both included.
-/

set_option autoImplicit false

namespace SpanAnnotation

-- The largest number that positions and lengths can take.
def maxIndex : Nat := 0xFFFFFFFFFFFFFFFF

/-- The number of tokens of a span; none for an inverted span, and never above the largest
index. -/
def spanLength (first last : Nat) : Nat := min (last + 1) maxIndex - first

structure Proposal where
  first : Nat
  last : Nat
  category : String
  head : Option Nat
  channel : Nat
  deriving DecidableEq, Repr

namespace Proposal

def plain (first last : Nat) (category : String) : Proposal := ⟨first, last, category, none, 0⟩

def size (proposal : Proposal) : Nat := spanLength proposal.first proposal.last

def isInverted (proposal : Proposal) : Bool := proposal.last < proposal.first

end Proposal

structure Annotation where
  id : Nat
  sentence : Nat
  first : Nat
  last : Nat
  category : String
  head : Option Nat
  channel : Nat
  source : String
  deriving DecidableEq, Repr

namespace Annotation

def ofProposal (id : Nat) (sentence : Nat) (source : String) (proposal : Proposal) :
    Annotation :=
  ⟨id, sentence, proposal.first, proposal.last, proposal.category, proposal.head,
    proposal.channel, source⟩

def size (a : Annotation) : Nat := spanLength a.first a.last

def isInverted (a : Annotation) : Bool := a.last < a.first

def covers (a : Annotation) (token : Nat) : Bool := a.first ≤ token && token ≤ a.last

def tokens (a : Annotation) : List Nat := List.range' a.first (a.last + 1 - a.first)

/-- The designated head, or else the first token. -/
def headToken (a : Annotation) : Nat := a.head.getD a.first

def overlaps (a b : Annotation) : Bool :=
  a.sentence == b.sentence && a.first ≤ b.last && b.first ≤ a.last

/-- Text order: by sentence, then first token, then last token, then identity. -/
def precedes (a b : Annotation) : Bool :=
  a.sentence < b.sentence ||
    (a.sentence == b.sentence &&
      (a.first < b.first ||
        (a.first == b.first &&
          (a.last < b.last || (a.last == b.last && a.id < b.id)))))

def insertInOrder (a : Annotation) : List Annotation → List Annotation
  | [] => [a]
  | b :: rest => if b.precedes a then b :: insertInOrder a rest else a :: b :: rest

/-- The annotations in text order. -/
def inOrder : List Annotation → List Annotation
  | [] => []
  | a :: rest => insertInOrder a (inOrder rest)

/-- The last of the annotations in text order. -/
def latest? : List Annotation → Option Annotation
  | [] => none
  | a :: rest =>
      match latest? rest with
      | none => some a
      | some b => if b.precedes a then some a else some b

theorem precedes_irrefl (a : Annotation) : a.precedes a = false := by simp [precedes]

theorem mem_insertInOrder (x a : Annotation) (list : List Annotation) :
    x ∈ insertInOrder a list ↔ x = a ∨ x ∈ list := by
  induction list with
  | nil => simp [insertInOrder]
  | cons b rest ih =>
    simp only [insertInOrder]
    split <;> simp [ih, or_left_comm]

theorem mem_inOrder (x : Annotation) (list : List Annotation) : x ∈ inOrder list ↔ x ∈ list := by
  induction list with
  | nil => simp [inOrder]
  | cons a rest ih => simp [inOrder, mem_insertInOrder, ih]

end Annotation

structure Relation where
  source : Nat
  target : Nat
  kind : String
  set : String
  deriving DecidableEq, Repr

namespace Relation

def coreferenceKind : String := "coreference"

-- A relation belongs to the set named like its kind unless told otherwise.
def ofKind (source target : Nat) (kind : String) : Relation :=
  ⟨source, target, kind, kind⟩

def coreference (source target : Nat) : Relation := ofKind source target coreferenceKind

def isCoreference (relation : Relation) : Bool := relation.kind == coreferenceKind

def touches (relation : Relation) (id : Nat) : Bool :=
  relation.source == id || relation.target == id

end Relation

end SpanAnnotation
