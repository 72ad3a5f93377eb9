import SpanAnnotation.AttributeStore
import SpanAnnotation.Bio
import SpanAnnotation.Cluster
import SpanAnnotation.Wire.Value

/-!
Documents and their parts as structured data. A document that is read is checked against the span
model before anyone sees it.
-/

set_option autoImplicit false

namespace SpanAnnotation

open Wire

-- Tokens and attributes.

namespace Token

def ofValue (v : Value) : Except Misfit Token := do
  let fields ← record ["orth", "start", "end", "index"] v
  return {
    orth := ← fields.required "orth" readText
    start := ← fields.withDefault "start" readNat 0
    stop := ← fields.withDefault "end" readNat 0
    index := ← fields.withDefault "index" readNat 0 }

def toValue (token : Token) : Value :=
  .object [("orth", .text token.orth), ("start", ofNat token.start), ("end", ofNat token.stop),
    ("index", ofNat token.index)]

end Token

namespace AttributeTable

def ofValue (v : Value) : Except Misfit AttributeTable := do
  let fields ← record ["names", "token_count", "columns"] v
  let names ← fields.required "names" (readList readText)
  let tokenCount ← fields.required "token_count" readNat
  let columns ← fields.withDefault "columns" (readList (readList (readOption readText))) []
  return (empty tokenCount).fill names columns

def toValue (table : AttributeTable) : Value :=
  .object [("names", ofList .text table.names), ("token_count", ofNat table.tokenCount),
    ("columns", ofList (fun column => ofList (ofOption .text) column.values) table.columns)]

end AttributeTable

namespace AttributeStore

def ofValue (v : Value) : Except Misfit AttributeStore := do
  let fields ← record ["names", "token_count", "columns"] v
  let names ← fields.required "names" (readList readText)
  let tokenCount ← fields.required "token_count" readNat
  let columns ← fields.withDefault "columns" (readList (readList (readOption readText))) []
  ((empty tokenCount).fill names columns).mapError Misfit.panic

def toValue (store : AttributeStore) : Value :=
  .object [("names", ofList .text store.names), ("token_count", ofNat store.tokenCount),
    ("columns", ofList (ofList (ofOption .text)) store.columns)]

end AttributeStore

namespace Sentence

def ofValue (v : Value) : Except Misfit Sentence := do
  let fields ← record ["id", "tokens", "attributes"] v
  let id ← fields.withDefault "id" readText ""
  let tokens ← fields.required "tokens" (readList Token.ofValue)
  let attributes ← fields.optional "attributes" AttributeTable.ofValue
  return match attributes with
    | none => ofTokens id tokens
    | some table => withTable id tokens table

def toValue (sentence : Sentence) : Value :=
  .object [("id", .text sentence.id), ("tokens", ofList Token.toValue sentence.tokens),
    ("attributes", sentence.attributes.toValue)]

end Sentence

-- Spans and relations.

namespace Proposal

def ofValue (v : Value) : Except Misfit Proposal := do
  let fields ← record ["begin", "end", "category", "head", "channel"] v
  return {
    first := ← fields.required "begin" readNat
    last := ← fields.required "end" readNat
    category := ← fields.required "category" readText
    head := ← fields.optional "head" readNat
    channel := ← fields.withDefault "channel" readNat 0 }

def toValue (proposal : Proposal) : Value :=
  .object [("begin", ofNat proposal.first), ("end", ofNat proposal.last),
    ("category", .text proposal.category), ("head", ofOption ofNat proposal.head),
    ("channel", ofNat proposal.channel)]

end Proposal

namespace Annotation

def ofValue (v : Value) : Except Misfit Annotation := do
  let fields ← record
    ["id", "sentence", "begin", "end", "category", "head", "channel", "source"] v
  return {
    id := ← fields.required "id" readNat
    sentence := ← fields.required "sentence" readNat
    first := ← fields.required "begin" readNat
    last := ← fields.required "end" readNat
    category := ← fields.required "category" readText
    head := ← fields.optional "head" readNat
    channel := ← fields.withDefault "channel" readNat 0
    source := ← fields.withDefault "source" readText "" }

def toValue (a : Annotation) : Value :=
  .object [("id", ofNat a.id), ("sentence", ofNat a.sentence), ("begin", ofNat a.first),
    ("end", ofNat a.last), ("category", .text a.category), ("head", ofOption ofNat a.head),
    ("channel", ofNat a.channel), ("source", .text a.source)]

end Annotation

namespace Relation

def ofValue (v : Value) : Except Misfit Relation := do
  let fields ← record ["from", "to", "kind", "set"] v
  return {
    source := ← fields.required "from" readNat
    target := ← fields.required "to" readNat
    kind := ← fields.required "kind" readText
    set := ← fields.withDefault "set" readText "" }

def toValue (relation : Relation) : Value :=
  .object [("from", ofNat relation.source), ("to", ofNat relation.target),
    ("kind", .text relation.kind), ("set", .text relation.set)]

end Relation

namespace Cluster

def ofValue (v : Value) : Except Misfit Cluster := do
  let fields ← record ["head", "mentions"] v
  return {
    head := ← fields.required "head" readNat
    mentions := ← fields.required "mentions" (readList readNat) }

def toValue (cluster : Cluster) : Value :=
  .object [("head", ofNat cluster.head), ("mentions", ofList ofNat cluster.mentions)]

end Cluster

-- Documents.

namespace Document

/-- Adds annotations under the identities they come with; none may come twice. -/
def insertAll (arena : Arena) : List Annotation → Except DocumentFault Arena
  | [] => .ok arena
  | a :: rest => if arena.contains a.id then .error .repeatedId else insertAll (arena.insert a) rest

-- One more than the largest identity, if there is such a number.
def freshAfter (annotations : List Annotation) : Option Nat := do
  let nexts ← annotations.mapM fun a => successor? a.id
  return nexts.foldl max 0

/-- Puts a document together from its parts and checks it. -/
def compose (id : String) (sentences : List Sentence) (annotations : List Annotation)
    (relations : List Relation) (nextId : Nat) : Except DocumentFault Document := do
  let arena ← insertAll .empty annotations
  let document : Document :=
    { ofSentences id sentences with annotations := arena, relations := relations, nextId := nextId }
  document.check
  return document

/-- Puts a document together so that no identity is given out again. -/
def assemble (id : String) (sentences : List Sentence) (annotations : List Annotation)
    (relations : List Relation) (nextId : Nat) : Except Misfit Document :=
  match freshAfter annotations with
  | none => .error (.panic .overflow)
  | some fresh =>
      match compose id sentences annotations relations (max nextId fresh) with
      | .ok document => .ok document
      | .error fault => .error (.document fault)

def ofValue (v : Value) : Except Misfit Document := do
  let fields ← record ["id", "sentences", "annotations", "relations", "next_id"] v
  let id ← fields.withDefault "id" readText ""
  let sentences ← fields.required "sentences" (readList Sentence.ofValue)
  let annotations ← fields.withDefault "annotations" (readList Annotation.ofValue) []
  let relations ← fields.withDefault "relations" (readList Relation.ofValue) []
  let nextId ← fields.withDefault "next_id" readNat 0
  assemble id sentences annotations relations nextId

def toValue (document : Document) : Value :=
  .object [("id", .text document.id), ("sentences", ofList Sentence.toValue document.sentences),
    ("annotations", ofList Annotation.toValue document.annotations.entries),
    ("relations", ofList Relation.toValue document.relations),
    ("next_id", ofNat document.nextId)]

end Document

-- Tags.

namespace Tag

def name : Tag → String
  | .opening => "Begin"
  | .inside => "Inside"
  | .outside => "Outside"

def ofName? : String → Option Tag
  | "Begin" => some .opening
  | "Inside" => some .inside
  | "Outside" => some .outside
  | _ => none

def ofValue (v : Value) : Except Misfit Tag := do
  match ofName? (← readChoice v) with
  | some tag => return tag
  | none => .error .shape

def toValue (tag : Tag) : Value := .text tag.name

end Tag

end SpanAnnotation
