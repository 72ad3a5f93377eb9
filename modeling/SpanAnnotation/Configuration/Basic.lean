import SpanAnnotation.Chunker
import SpanAnnotation.Feature.Basic

/-!
Configurations of a pipeline: the categories, how chunkers are composed, the priority of the merge,
and the parts of the resolver.
-/

set_option autoImplicit false

namespace SpanAnnotation

inductive ChunkerKind where
  -- Phrases by category, and a file of further entries.
  | dictionary (entries : List (String × List String)) (path : Option String)
      (caseSensitive : Bool)
  | union (members : List String)
  | fix (base : String) (fixes : List Fix)
  deriving DecidableEq, Repr

structure ChunkerConfig where
  name : String
  kind : ChunkerKind
  deriving DecidableEq, Repr

/-- The chunkers that have to be built first. -/
def ChunkerConfig.dependencies (chunker : ChunkerConfig) : List String :=
  match chunker.kind with
  | .dictionary _ _ _ => []
  | .union members => members
  | .fix base _ => [base]

-- A model in a file, or else the weights given here.
structure ClassifierConfig where
  modelPath : Option String
  weights : Weights
  bias : Float
  deriving BEq, Repr

def ClassifierConfig.zero : ClassifierConfig := ⟨none, [], 0.0⟩

structure CoreferenceConfig where
  patterns : List String
  features : List String
  classifier : ClassifierConfig
  timeoutMs : Option Nat
  deriving BEq, Repr

structure Configuration where
  categories : List String
  chunkers : List ChunkerConfig
  -- The chunker whose proposals are used; by default the last one.
  chunker : Option String
  mergePriority : Option (List String)
  coreference : Option CoreferenceConfig
  deriving BEq, Repr

namespace Configuration

def standardCategories : List String := ["PERSON", "PLACE", "ORGANIZATION"]

def standardCoreference : CoreferenceConfig where
  patterns := ["PERSON"]
  features := ["clustermention_number_match", "clustermention_head_base_match",
    "clustermention_closest_preceding_distance"]
  classifier :=
    { modelPath := none
      weights := [("clustermention_number_match", 0.5), ("clustermention_head_base_match", 1.0),
        ("clustermention_closest_preceding_distance", -0.02)]
      bias := -0.25 }
  timeoutMs := none

/-- The configuration that is used where none is given. -/
def standard : Configuration where
  categories := standardCategories
  chunkers := []
  chunker := none
  mergePriority := some standardCategories
  coreference := some standardCoreference

def find? (config : Configuration) (name : String) : Option ChunkerConfig :=
  config.chunkers.find? fun chunker => chunker.name == name

/-- The name of the chunker whose proposals are used. -/
def target? (config : Configuration) : Option String :=
  config.chunker <|> (config.chunkers.getLast?.map ChunkerConfig.name)

end Configuration

end SpanAnnotation
