import SpanAnnotation.Document

/-!
Clusters: mentions taken to mean the same entity, in the order in which they joined, with the
mention that stands for all of them.
-/

set_option autoImplicit false

namespace SpanAnnotation

structure Cluster where
  head : Nat
  mentions : List Nat
  deriving DecidableEq, Repr

namespace Cluster

def single (head : Nat) : Cluster := ⟨head, [head]⟩

def contains (cluster : Cluster) (id : Nat) : Bool := cluster.mentions.contains id

def push (cluster : Cluster) (id : Nat) : Cluster :=
  if cluster.contains id then cluster else { cluster with mentions := cluster.mentions ++ [id] }

/-- The mentions that exist in a document. -/
def members (cluster : Cluster) (document : Document) : List Annotation :=
  cluster.mentions.filterMap document.find?

/-- The last mention in text order that stands before the given one. -/
def closestPreceding? (cluster : Cluster) (document : Document) (mention : Annotation) :
    Option Annotation :=
  Annotation.latest? ((cluster.members document).filter fun a => a.precedes mention)

def joinRelation (clusters : List Cluster) (relation : Relation) : List Cluster :=
  match clusters with
  | [] => [(single relation.target).push relation.source]
  | cluster :: rest =>
      if cluster.head == relation.target then cluster.push relation.source :: rest
      else cluster :: joinRelation rest relation

/-- One cluster per target of a coreference relation, in order of first appearance. -/
def ofRelations (document : Document) : List Cluster :=
  (document.relationsOfKind Relation.coreferenceKind).foldl joinRelation []

end Cluster

end SpanAnnotation
