import SpanAnnotation.Configuration.Basic
import SpanAnnotation.Wire.Value

/-!
Configurations as structured data. The kind of a chunker or of a correction stands beside its other
fields; it is a name, or in forms of data that allow positions also the place of the name. Those
forms also count the items of an array.
-/

set_option autoImplicit false

namespace SpanAnnotation

open Wire

namespace Fix

def kinds : List String := ["followed-by", "category-filter", "min-length"]

def ofValue (positions : Bool) (v : Value) : Except Misfit Fix := do
  let (kind, v) ← tagged "kind" (readChoiceOf positions kinds) v
  match kind with
  | "followed-by" => do
      let fields ← record ["categories", "words"] v
      let categories ← fields.withDefault "categories" (readList readText) []
      let words ← fields.required "words" (readList readText)
      return .followedBy categories words
  | "category-filter" => do
      let fields ← record ["keep"] v
      return .categoryFilter (← fields.required "keep" (readList readText))
  | "min-length" => do
      let fields ← record ["min"] v
      return .minLength (← fields.required "min" readNat)
  | _ => .error .shape

def toValue : Fix → Value
  | .followedBy categories words =>
      .object [("kind", .text "followed-by"), ("categories", ofList .text categories),
        ("words", ofList .text words)]
  | .categoryFilter keep =>
      .object [("kind", .text "category-filter"), ("keep", ofList .text keep)]
  | .minLength least => .object [("kind", .text "min-length"), ("min", ofNat least)]

end Fix

namespace ChunkerConfig

def kinds : List String := ["dictionary", "union", "fix"]

def kindOfValue (positions : Bool) (v : Value) : Except Misfit ChunkerKind := do
  let fields ← wholeRecord ["kind"] v
  match ← fields.required "kind" (readChoiceOf positions kinds) with
  | "dictionary" => do
      let fields ← objectRecord ["entries", "path", "case_sensitive"] v
      let entries ← fields.withDefault "entries" (readMap (readList readText)) []
      let path ← fields.optional "path" readText
      let caseSensitive ← fields.withDefault "case_sensitive" readBool false
      return .dictionary (sortEntries entries) path caseSensitive
  | "union" => do
      let fields ← objectRecord ["members"] v
      return .union (← fields.required "members" (readList readText))
  | "fix" => do
      let fields ← objectRecord ["base", "fixes"] v
      let base ← fields.required "base" readText
      let fixes ← fields.withDefault "fixes" (readList (Fix.ofValue positions)) []
      return .fix base fixes
  | _ => .error .shape

def ofValue (positions : Bool) (v : Value) : Except Misfit ChunkerConfig := do
  let fields ← objectRecord ["name"] v
  let name ← fields.required "name" readText
  let kind ← kindOfValue positions v
  return ⟨name, kind⟩

def kindFields : ChunkerKind → Fields
  | .dictionary entries path caseSensitive =>
      [("kind", .text "dictionary"), ("entries", ofMap (ofList .text) entries),
        ("path", ofOption .text path), ("case_sensitive", .bool caseSensitive)]
  | .union members => [("kind", .text "union"), ("members", ofList .text members)]
  | .fix base fixes =>
      [("kind", .text "fix"), ("base", .text base), ("fixes", ofList Fix.toValue fixes)]

def toValue (chunker : ChunkerConfig) : Value :=
  .object (("name", .text chunker.name) :: kindFields chunker.kind)

end ChunkerConfig

-- Numbers are written by a function of the caller, as not every form of data has all of them.

-- The fields of a record, which in TOML may have more items than fields.
def configRecord (positions : Bool) (names : List String) (v : Value) : Except Misfit Fields :=
  record names (if positions then v else cut names v)

namespace ClassifierConfig

def ofValue (positions : Bool) (v : Value) : Except Misfit ClassifierConfig := do
  let fields ← configRecord positions ["model_path", "weights", "bias"] v
  return {
    modelPath := ← fields.optional "model_path" readText
    weights := ← fields.withDefault "weights" (readMap readFloat) []
    bias := ← fields.withDefault "bias" readFloat 0.0 }

def toValueWith (number : Float → Value) (classifier : ClassifierConfig) : Value :=
  .object [("model_path", ofOption .text classifier.modelPath),
    ("weights", ofMap number classifier.weights), ("bias", number classifier.bias)]

end ClassifierConfig

namespace CoreferenceConfig

def ofValue (positions : Bool) (v : Value) : Except Misfit CoreferenceConfig := do
  let fields ←
    configRecord positions ["mention_patterns", "features", "classifier", "timeout_ms"] v
  return {
    patterns := ← fields.required "mention_patterns" (readList readText)
    features := ← fields.required "features" (readList readText)
    classifier := ← fields.withDefault "classifier" (ClassifierConfig.ofValue positions) .zero
    timeoutMs := ← fields.optional "timeout_ms" readNat }

def toValueWith (number : Float → Value) (coreference : CoreferenceConfig) : Value :=
  .object [("mention_patterns", ofList .text coreference.patterns),
    ("features", ofList .text coreference.features),
    ("classifier", coreference.classifier.toValueWith number),
    ("timeout_ms", ofOption ofNat coreference.timeoutMs)]

end CoreferenceConfig

namespace Configuration

def readPriority (positions : Bool) (v : Value) : Except Misfit (List String) := do
  let fields ← configRecord positions ["priority"] v
  fields.required "priority" (readList readText)

def ofValue (positions : Bool) (v : Value) : Except Misfit Configuration := do
  let fields ←
    configRecord positions ["categories", "chunkers", "chunker", "merge", "coreference"] v
  return {
    categories := ← fields.required "categories" (readList readText)
    chunkers := ← fields.withDefault "chunkers" (readList (ChunkerConfig.ofValue positions)) []
    chunker := ← fields.optional "chunker" readText
    mergePriority := ← fields.optional "merge" (readPriority positions)
    coreference := ← fields.optional "coreference" (CoreferenceConfig.ofValue positions) }

def toValueWith (number : Float → Value) (config : Configuration) : Value :=
  .object [("categories", ofList .text config.categories),
    ("chunkers", ofList ChunkerConfig.toValue config.chunkers),
    ("chunker", ofOption .text config.chunker),
    ("merge", ofOption (fun priority => .object [("priority", ofList .text priority)])
      config.mergePriority),
    ("coreference", ofOption (CoreferenceConfig.toValueWith number) config.coreference)]

def toValue (config : Configuration) : Value := config.toValueWith ofFloat

-- TOML has all doubles, but no whole numbers of more than 63 bits.

def wholeNumbers (config : Configuration) : List Nat :=
  let limits := (config.coreference.bind CoreferenceConfig.timeoutMs).toList
  let lengths (fix : Fix) : List Nat :=
    match fix with
    | .minLength least => [least]
    | _ => []
  let chunkerLengths (chunker : ChunkerConfig) : List Nat :=
    match chunker.kind with
    | .fix _ fixes => fixes.flatMap lengths
    | _ => []
  limits ++ config.chunkers.flatMap chunkerLengths

def isTomlWritable (config : Configuration) : Bool :=
  config.wholeNumbers.all fun n => Int.ofNat n < intLimit

/-- The configuration is the same after a way through TOML. A number that is not one never is. -/
def survivesToml (config : Configuration) : Bool :=
  match ofValue false (config.toValueWith .float) with
  | .ok back => back == config
  | .error _ => false

end Configuration

end SpanAnnotation
