import SpanAnnotation.Configuration.Basic
import SpanAnnotation.Feature.Builtin
import SpanAnnotation.Pattern
import SpanAnnotation.Repetition

/-!
The rules of configurations. Categories and chunkers are declared once and before use, chunkers do
not depend on themselves, and the resolver names features of the right kind and weights of columns
that exist.
-/

set_option autoImplicit false

namespace SpanAnnotation.Configuration

def refuse {α : Type} (fault : ConfigFault) : Except Error α := .error (.config fault)

def checkCategory (config : Configuration) (place : CategoryUse) (category : String) :
    Except Error Unit :=
  if config.categories.contains category then .ok ()
  else refuse (.unknownCategory place category)

def checkCategories (config : Configuration) : Except Error Unit :=
  if config.categories.isEmpty then refuse .noCategories
  else
    match firstRepeated config.categories with
    | some category => refuse (.repeatedCategory category)
    | none => .ok ()

def checkNames (config : Configuration) : Except Error Unit :=
  match firstRepeated (config.chunkers.map ChunkerConfig.name) with
  | some name => refuse (.repeatedChunker name)
  | none => .ok ()

def isDeclared (config : Configuration) (name : String) : Bool := (config.find? name).isSome

def checkFix (config : Configuration) (place : CategoryUse) : Fix → Except Error Unit
  | .followedBy categories _ => categories.forM (config.checkCategory place)
  | .categoryFilter keep => keep.forM (config.checkCategory place)
  | .minLength _ => .ok ()

def checkChunker (config : Configuration) (chunker : ChunkerConfig) : Except Error Unit :=
  let place := CategoryUse.chunker chunker.name
  match chunker.kind with
  | .dictionary entries _ _ => (entries.map Prod.fst).forM (config.checkCategory place)
  | .union members =>
      match members.find? fun member => !config.isDeclared member with
      | some member => refuse (.unknownMember chunker.name member)
      | none => .ok ()
  | .fix base fixes =>
      if config.isDeclared base then fixes.forM (config.checkFix place)
      else refuse (.unknownBase chunker.name base)

/-- Adds a chunker to an order, after those it depends on, given the chunkers that wait for it. As a
chunker that waits for itself is refused, the fuel need not exceed their number. -/
def visit (config : Configuration) :
    Nat → List String → List String → String → Except Error (List String)
  | 0, waiting, _, name => refuse (.cycle waiting name)
  | fuel + 1, waiting, order, name =>
      if waiting.contains name then refuse (.cycle waiting name)
      else
        match config.find? name with
        | none => refuse (.undeclaredChunker name)
        | some chunker =>
            if order.contains name then .ok order
            else do
              let before ← chunker.dependencies.foldlM
                (fun done dependency => config.visit fuel (waiting ++ [name]) done dependency) order
              return before ++ [name]

/-- The chunkers needed for one of them, each after those it depends on. -/
def dependencyOrder (config : Configuration) (name : String) : Except Error (List String) :=
  config.visit (config.chunkers.length + 1) [] [] name

def checkCycles (config : Configuration) : Except Error Unit :=
  config.chunkers.forM fun chunker => do
    let _ ← config.dependencyOrder chunker.name
    return ()

def checkTarget (config : Configuration) : Except Error Unit :=
  match config.chunker with
  | none => .ok ()
  | some name => if config.isDeclared name then .ok () else refuse (.undeclaredChunker name)

def checkMerge (config : Configuration) : Except Error Unit :=
  match config.mergePriority with
  | none => .ok ()
  | some priority =>
      if priority.isEmpty then refuse .emptyPriority
      else priority.forM (config.checkCategory .merge)

-- A column is named after its feature, and has the value after an equals sign.
def featureOfColumn (column : String) : String :=
  String.ofList (column.toList.takeWhile (· != '='))

def checkWeights (coreference : CoreferenceConfig) : Except Error Unit :=
  if coreference.classifier.modelPath.isSome then .ok ()
  else
    match (coreference.classifier.weights.map Prod.fst).find? fun column =>
        !coreference.features.contains (featureOfColumn column) with
    | some column => refuse (.unknownColumn column)
    | none => .ok ()

def checkResolver (config : Configuration) (coreference : CoreferenceConfig) :
    Except Error Unit := do
  if coreference.patterns.isEmpty then refuse .noPatterns
  coreference.patterns.forM fun pattern => do
    let _ ← Pattern.compile pattern
    return ()
  let set ← (FeatureRegistry.builtin config.categories).select coreference.features
  if set.input = .clusterMention then checkWeights coreference else refuse .coreferenceInput

def checkCoreference (config : Configuration) : Except Error Unit :=
  match config.coreference with
  | none => .ok ()
  | some coreference => config.checkResolver coreference

/-- The first broken rule. -/
def validate (config : Configuration) : Except Error Unit := do
  config.checkCategories
  config.checkNames
  config.chunkers.forM config.checkChunker
  config.checkCycles
  config.checkTarget
  config.checkMerge
  config.checkCoreference

end SpanAnnotation.Configuration
