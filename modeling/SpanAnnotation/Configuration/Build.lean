import SpanAnnotation.Configuration.Validation
import SpanAnnotation.Wire.Model

/-!
Chunkers and classifiers as configured.
-/

set_option autoImplicit false

namespace SpanAnnotation

def ClassifierConfig.build (classifier : ClassifierConfig) (files : Files) :
    Except Error LinearModel :=
  match classifier.modelPath with
  | none => .ok ⟨classifier.weights, classifier.bias⟩
  | some path =>
      match LinearModel.load files path with
      | .ok model => .ok model
      | .error e => .error (.config (.unusableModel path e.message))

namespace Configuration

-- The chunkers built so far, by name.
abbrev Built := List (String × Chunker)

def builtChunker (built : Built) (name : String) : Except Error Chunker :=
  match built.lookup name with
  | some chunker => .ok chunker
  | none => refuse (.unbuiltChunker name)

/-- The entries of a file come before those of the configuration. -/
def buildDictionary (config : Configuration) (files : Files) (name : String)
    (entries : List (String × List String)) (path : Option String) (caseSensitive : Bool) :
    Except Error Dictionary := do
  let empty := (Dictionary.empty name).withCase caseSensitive
  let started ←
    match path with
    | none => pure empty
    | some path => empty.withFile files path
  let phrases := entries.flatMap fun entry => entry.2.map fun phrase => (phrase, entry.1)
  let dictionary := phrases.foldl (fun grown entry => grown.add entry.1 entry.2) started
  dictionary.categories.forM (config.checkCategory (.dictionary name))
  return dictionary

def buildOne (config : Configuration) (files : Files) (built : Built) (name : String) :
    Except Error Built :=
  match config.find? name with
  | none => .ok built
  | some chunker => do
      let made ←
        match chunker.kind with
        | .dictionary entries path caseSensitive =>
            Chunker.ofDictionary <$> config.buildDictionary files name entries path caseSensitive
        | .union members => Chunker.union name <$> members.mapM (builtChunker built)
        | .fix base fixes =>
            (fun below => Chunker.corrected name below (fixes.map Fix.stage)) <$>
              builtChunker built base
      return (name, made) :: built

/-- The chunker whose proposals are used; none without chunkers. -/
def buildChunker (config : Configuration) (files : Files) : Except Error (Option Chunker) :=
  match config.target? with
  | none => .ok none
  | some target => do
      let order ← config.dependencyOrder target
      let built ← order.foldlM (config.buildOne files) []
      return built.lookup target

end Configuration

end SpanAnnotation
