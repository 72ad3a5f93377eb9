import SpanAnnotation.Feature.Basic

/-!
Features by name, in the order in which they were registered.
-/

set_option autoImplicit false

namespace SpanAnnotation

structure FeatureRegistry where
  features : List Feature
  -- The place of each feature by its name.
  index : List (String × Nat)

namespace FeatureRegistry

def empty : FeatureRegistry := ⟨[], []⟩

def names (registry : FeatureRegistry) : List String := registry.features.map Feature.name

def find? (registry : FeatureRegistry) (name : String) : Option Feature :=
  (registry.index.lookup name).bind fun place => registry.features[place]?

def contains (registry : FeatureRegistry) (name : String) : Bool :=
  (registry.index.lookup name).isSome

def get (registry : FeatureRegistry) (name : String) : Except Error Feature :=
  match registry.find? name with
  | some feature => .ok feature
  | none => .error (.unknownFeature name)

def push (registry : FeatureRegistry) (feature : Feature) : FeatureRegistry :=
  ⟨registry.features ++ [feature], (feature.name, registry.features.length) :: registry.index⟩

/-- Refuses a name that is taken and an enumeration without its default; then nothing changes. -/
def register (registry : FeatureRegistry) (feature : Feature) :
    FeatureRegistry × Except Error Unit :=
  if registry.contains feature.name then
    (registry, .error (.config (.repeatedFeature feature.name)))
  else
    match feature.output with
    | .enumeration values default =>
        if values.contains default then (registry.push feature, .ok ())
        else (registry, .error (.config (.defaultOutsideValues feature.name default)))
    | _ => (registry.push feature, .ok ())

/-- Registers features in turn and goes on after one that is refused. -/
def registerAll (registry : FeatureRegistry) : List Feature → FeatureRegistry
  | [] => registry
  | feature :: rest => (registry.register feature).1.registerAll rest

def legalValues (registry : FeatureRegistry) (name : String) :
    Except Error (List FeatureValue) := do
  let feature ← registry.get name
  return feature.output.legalValues

/-- The named features, all of which must take the given input. -/
def collect (registry : FeatureRegistry) (input : InputKind) :
    List String → Except Error { features : List Feature // ∀ f ∈ features, f.inputKind = input }
  | [] => .ok ⟨[], by simp⟩
  | name :: names => do
      let feature ← registry.get name
      if same : feature.inputKind = input then
        let ⟨features, uniform⟩ ← registry.collect input names
        return ⟨feature :: features, by simpa [same] using uniform⟩
      else .error (.config (.mixedInputs feature.name feature.inputKind input))

/-- A set of features in the given order; the first one decides on the input. -/
def select (registry : FeatureRegistry) (names : List String) : Except Error FeatureSet :=
  match names with
  | [] => .error (.config .noFeatures)
  | first :: _ => do
      let leader ← registry.get first
      let ⟨features, uniform⟩ ← registry.collect leader.inputKind names
      return ⟨leader.inputKind, features, uniform⟩

end FeatureRegistry

end SpanAnnotation
