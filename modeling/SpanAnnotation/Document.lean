import SpanAnnotation.Arena
import SpanAnnotation.Sentence

/-!
Documents: sentences, annotations over their tokens, and relations between annotations. Identities
are given out in increasing order and never twice; when they run out, so does the program.
-/

set_option autoImplicit false

namespace SpanAnnotation

-- The number of tokens before each sentence, when so many stand before the first.
def Document.offsetsFrom (before : Nat) : List Sentence → List Nat
  | [] => []
  | sentence :: rest => before :: offsetsFrom (before + sentence.size) rest

structure Document where
  id : String
  sentences : List Sentence
  annotations : Arena
  relations : List Relation
  nextId : Nat
  -- Counted once, when the sentences are put together.
  offsets : List Nat
  placed : offsets = Document.offsetsFrom 0 sentences
  deriving DecidableEq, Repr

namespace Document

def totalSize (sentences : List Sentence) : Nat :=
  sentences.foldr (fun sentence size => sentence.size + size) 0

@[simp] theorem totalSize_nil : totalSize [] = 0 := rfl

@[simp] theorem totalSize_cons (sentence : Sentence) (rest : List Sentence) :
    totalSize (sentence :: rest) = sentence.size + totalSize rest := rfl

/-- A document is told by its parts without the offsets, which are those of its sentences. -/
theorem eq_of_parts {one other : Document} (id : one.id = other.id)
    (sentences : one.sentences = other.sentences)
    (annotations : one.annotations = other.annotations)
    (relations : one.relations = other.relations) (nextId : one.nextId = other.nextId) :
    one = other := by
  have offsets : one.offsets = other.offsets := by rw [one.placed, other.placed, sentences]
  cases one
  cases other
  simp_all

def ofSentences (id : String) (sentences : List Sentence) : Document :=
  ⟨id, sentences, .empty, [], 0, offsetsFrom 0 sentences, rfl⟩

/-- A document of tokenised sentences, named `s1`, `s2` and so on. -/
def ofTokens (id : String) (sentences : List (List Token)) : Document :=
  ofSentences id (sentences.mapIdx fun index tokens =>
    Sentence.ofTokens ("s" ++ toString (index + 1)) tokens)

def ofText (id text : String) : Document := ofTokens id (splitSentences text)

def sentence? (document : Document) (index : Nat) : Option Sentence := document.sentences[index]?

def tokenCount (document : Document) : Nat := totalSize document.sentences

/-- The number of tokens before a sentence, none for a sentence that does not exist. -/
def offset (document : Document) (sentence : Nat) : Nat :=
  (document.offsets[sentence]?).getD 0

theorem offsetsFrom_getElem? (before : Nat) (sentences : List Sentence) (index : Nat) :
    (offsetsFrom before sentences)[index]? =
      if index < sentences.length then some (before + totalSize (sentences.take index)) else none := by
  induction sentences generalizing before index with
  | nil => simp [offsetsFrom]
  | cons sentence rest ih =>
    cases index with
    | zero => simp [offsetsFrom]
    | succ index => simp [offsetsFrom, ih, Nat.add_assoc]

theorem offsetsFrom_modify (before : Nat) (sentences : List Sentence) (index : Nat)
    (change : Sentence → Sentence) (same : ∀ sentence, (change sentence).size = sentence.size) :
    offsetsFrom before (sentences.modify index change) = offsetsFrom before sentences := by
  induction sentences generalizing before index with
  | nil => simp
  | cons sentence rest ih =>
    cases index with
    | zero => simp [offsetsFrom, same]
    | succ index => simp [offsetsFrom, ih]

theorem offset_eq (document : Document) (sentence : Nat) :
    document.offset sentence =
      if sentence < document.sentences.length then
        totalSize (document.sentences.take sentence)
      else 0 := by
  rw [offset, document.placed, offsetsFrom_getElem?]
  split <;> simp

/-- The position of a token counted from the start of the document. -/
def position (document : Document) (sentence token : Nat) : Nat :=
  document.offset sentence + token

/-- How many tokens lie from the end of one span to the start of the other, the last included;
nothing when the spans share a token. -/
def distance (document : Document) (a b : Annotation) : Nat :=
  let aFirst := document.position a.sentence a.first
  let aLast := document.position a.sentence a.last
  let bFirst := document.position b.sentence b.first
  let bLast := document.position b.sentence b.last
  if aLast < bFirst then bFirst - aLast
  else if bLast < aFirst then aFirst - bLast
  else 0

-- Reading annotations.

def find? (document : Document) (id : Nat) : Option Annotation :=
  document.annotations.find? id

def annotationCount (document : Document) : Nat := document.annotations.size

/-- The annotations of one sentence in text order. -/
def annotationsIn (document : Document) (sentence : Nat) : List Annotation :=
  Annotation.inOrder (document.annotations.entries.filter fun a => a.sentence == sentence)

/-- All annotations in text order. -/
def annotationsInOrder (document : Document) : List Annotation :=
  Annotation.inOrder document.annotations.entries

/-- The written forms of the tokens of a span, one space apart. -/
def spanText (document : Document) (a : Annotation) : String :=
  match document.sentence? a.sentence with
  | none => ""
  | some sentence =>
      let covered := (sentence.tokens.drop a.first).take (a.last + 1 - a.first)
      " ".intercalate (covered.map Token.orth)

/-- A token lies in an annotation of the category. -/
def isCovered (document : Document) (sentence token : Nat) (category : String) : Bool :=
  document.annotations.entries.any fun a =>
    a.sentence == sentence && a.category == category && a.covers token

def relationsOfKind (document : Document) (kind : String) : List Relation :=
  document.relations.filter fun relation => relation.kind == kind

-- The rules of the span model.

def checkAnnotation (sentences : List Sentence) (a : Annotation) : Except DocumentFault Unit :=
  match sentences[a.sentence]? with
  | none => .error (.missingSentence a.id a.sentence)
  | some sentence =>
      if a.last < a.first || sentence.size ≤ a.last then
        .error (.spanOutside a.id a.first a.last sentence.id sentence.size)
      else
        match a.head.filter fun head => !a.covers head with
        | some head => .error (.headOutside head a.id)
        | none => if a.category.isEmpty then .error (.noCategory a.id) else .ok ()

def checkTable (sentence : Sentence) : Except DocumentFault Unit :=
  if sentence.attributes.tokenCount = sentence.size then .ok ()
  else .error (.tableSize sentence.id sentence.attributes.tokenCount sentence.size)

def checkIdentity (document : Document) (a : Annotation) : Except DocumentFault Unit :=
  if a.id < document.nextId then checkAnnotation document.sentences a
  else .error (.idBeyondNext a.id)

def checkRelation (annotations : Arena) (relation : Relation) : Except DocumentFault Unit :=
  if !annotations.contains relation.source then
    .error (.danglingRelation relation.kind relation.source)
  else if !annotations.contains relation.target then
    .error (.danglingRelation relation.kind relation.target)
  else .ok ()

/-- The first broken rule: tables, then annotations by identity, then relations. -/
def check (document : Document) : Except DocumentFault Unit := do
  document.sentences.forM checkTable
  document.annotations.entries.forM document.checkIdentity
  document.relations.forM (checkRelation document.annotations)

def validate (document : Document) : Except Error Unit :=
  match document.check with
  | .ok () => .ok ()
  | .error fault => .error (.invalidDocument fault)

-- Changing a document.

-- Identities are 64 bits wide; after the last one there is none.
def successor? (id : Nat) : Option Nat := if id < maxIndex then some (id + 1) else none

@[simp] theorem successor?_eq_some_iff (id next : Nat) :
    successor? id = some next ↔ id < maxIndex ∧ next = id + 1 := by
  unfold successor?
  by_cases room : id < maxIndex <;> simp [room, eq_comm]

@[simp] theorem successor?_eq_none_iff (id : Nat) : successor? id = none ↔ maxIndex ≤ id := by
  unfold successor?
  by_cases room : id < maxIndex <;> simp [room, Nat.le_of_not_lt]

/-- Adds a proposal under the next identity. -/
def add (document : Document) (sentence : Nat) (proposal : Proposal) (source : String) :
    Except Error (Document × Nat) :=
  let id := document.nextId
  let a := Annotation.ofProposal id sentence source proposal
  match checkAnnotation document.sentences a with
  | .error fault => .error (.invalidDocument fault)
  | .ok () =>
      match successor? id with
      | none => .error (.panic .overflow)
      | some next =>
          .ok ({ document with annotations := document.annotations.insert a, nextId := next }, id)

/-- Removes an annotation together with the relations that touch it. -/
def remove (document : Document) (id : Nat) : Document × Option Annotation :=
  match document.find? id with
  | none => (document, none)
  | some a =>
      ({ document with
         annotations := document.annotations.erase id
         relations := document.relations.filter fun relation => !relation.touches id }, some a)

/-- Removes several annotations and returns those that were there. -/
def removeAll (document : Document) : List Nat → Document × List Annotation
  | [] => (document, [])
  | id :: rest =>
      let (smaller, removed) := document.remove id
      let (final, others) := smaller.removeAll rest
      (final, removed.toList ++ others)

def addRelation (document : Document) (relation : Relation) : Except Error Document :=
  match checkRelation document.annotations relation with
  | .error fault => .error (.invalidDocument fault)
  | .ok () => .ok { document with relations := document.relations ++ [relation] }

/-- Adds relations in turn and stops at the first that is refused, keeping those before it. -/
def addRelations (document : Document) : List Relation → Document × Except Error Unit
  | [] => (document, .ok ())
  | relation :: rest =>
      match document.addRelation relation with
      | .error e => (document, .error e)
      | .ok longer => longer.addRelations rest

/-- Replaces the attribute table of a sentence. -/
def withTable (document : Document) (sentence : Nat) (table : AttributeTable) : Document :=
  { document with
    sentences := document.sentences.modify sentence fun s => { s with attributes := table }
    placed := by
      have same := offsetsFrom_modify 0 document.sentences sentence
        (fun s => { s with attributes := table }) fun _ => rfl
      exact document.placed.trans same.symm }

end Document

end SpanAnnotation
