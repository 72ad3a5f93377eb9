import SpanAnnotation.Cluster
import SpanAnnotation.Feature.Value

/-!
Features: named functions from an annotation, an ordered pair of annotations, or a mention and a
cluster, to one typed value. What a feature leaves open, or gives outside its type, becomes the
default of the type.
-/

set_option autoImplicit false

namespace SpanAnnotation

inductive FeatureInput where
  | single (a : Annotation)
  | pair (a b : Annotation)
  | clusterMention (mention : Annotation) (cluster : Cluster)
  deriving DecidableEq, Repr

def FeatureInput.kind : FeatureInput → InputKind
  | .single _ => .single
  | .pair _ _ => .pair
  | .clusterMention _ _ => .clusterMention

inductive Computation where
  | single (compute : Document → Annotation → Option FeatureValue)
  | pair (compute : Document → Annotation → Annotation → Option FeatureValue)
  | clusterMention (compute : Document → Annotation → Cluster → Option FeatureValue)

def Computation.kind : Computation → InputKind
  | .single _ => .single
  | .pair _ => .pair
  | .clusterMention _ => .clusterMention

structure Feature where
  name : String
  output : ValueKind
  computation : Computation

namespace Feature

def inputKind (feature : Feature) : InputKind := feature.computation.kind

/-- The computed value when it is defined and of the declared type, and the default otherwise. -/
def settle (output : ValueKind) (computed : Option FeatureValue) : FeatureValue :=
  match computed with
  | some value => if output.accepts value then value else output.defaultValue
  | none => output.defaultValue

def evaluate (feature : Feature) (document : Document) (input : FeatureInput) :
    Except Error FeatureValue :=
  match feature.computation, input with
  | .single compute, .single a => .ok (settle feature.output (compute document a))
  | .pair compute, .pair a b => .ok (settle feature.output (compute document a b))
  | .clusterMention compute, .clusterMention mention cluster =>
      .ok (settle feature.output (compute document mention cluster))
  | _, _ => .error (.config (.wrongInput feature.name feature.inputKind input.kind))

end Feature

-- Weights by column; a column without an entry weighs nothing.
abbrev Weights := List (String × Float)

/-- One value with the name and the type of its column. -/
structure FeatureCell where
  name : String
  kind : ValueKind
  value : FeatureValue
  deriving BEq, Repr

/-- The numeric columns of a cell: a number or truth value as it is, and for an enumeration one
column per value, of which the present one is 1. -/
def FeatureCell.numeric (cell : FeatureCell) : List (String × Float) :=
  match cell.kind, cell.value with
  | .enumeration values _, .enumerated present =>
      values.map fun legal => (cell.name ++ "=" ++ legal, if legal == present then 1.0 else 0.0)
  | _, value => [(cell.name, value.number?.getD 0.0)]

structure FeatureVector where
  cells : List FeatureCell
  deriving BEq, Repr

namespace FeatureVector

def names (vector : FeatureVector) : List String := vector.cells.map FeatureCell.name

def values (vector : FeatureVector) : List FeatureValue := vector.cells.map FeatureCell.value

def get? (vector : FeatureVector) (name : String) : Option FeatureValue :=
  (vector.cells.find? fun cell => cell.name == name).map FeatureCell.value

def toNumeric (vector : FeatureVector) : List (String × Float) :=
  vector.cells.flatMap FeatureCell.numeric

/-- The weighted sum of the numeric columns, added from left to right. -/
def dot (vector : FeatureVector) (weights : Weights) : Float :=
  vector.toNumeric.foldl (fun sum column => sum + column.2 * (weights.lookup column.1).getD 0.0) 0.0

end FeatureVector

/-- Features of one input kind with their columns in a fixed order. -/
structure FeatureSet where
  input : InputKind
  features : List Feature
  uniform : ∀ feature ∈ features, feature.inputKind = input

namespace FeatureSet

def names (set : FeatureSet) : List String := set.features.map Feature.name

def cellsOf (document : Document) (input : FeatureInput) :
    List Feature → Except Error (List FeatureCell)
  | [] => .ok []
  | feature :: rest => do
      let value ← feature.evaluate document input
      let cells ← cellsOf document input rest
      return ⟨feature.name, feature.output, value⟩ :: cells

def extract (set : FeatureSet) (document : Document) (input : FeatureInput) :
    Except Error FeatureVector := do
  return ⟨← cellsOf document input set.features⟩

/-- One vector per input, in the same order. -/
def extractAll (set : FeatureSet) (document : Document) :
    List FeatureInput → Except Error (List FeatureVector)
  | [] => .ok []
  | input :: rest => do
      let vector ← set.extract document input
      let vectors ← set.extractAll document rest
      return vector :: vectors

end FeatureSet

end SpanAnnotation
