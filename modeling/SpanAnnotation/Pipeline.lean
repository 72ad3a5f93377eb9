import SpanAnnotation.Configuration.Build
import SpanAnnotation.Coreference
import SpanAnnotation.Merge

/-!
Pipelines: chunker, merge and resolver in turn, each of them optional. The stages work on a copy of
the document, which takes its place only when all of them succeed. What a run does is told by its
events.
-/

set_option autoImplicit false

namespace SpanAnnotation

/-- Figures of a processed document. -/
structure ProcessSummary where
  document : String
  proposed : Nat
  removed : Nat
  kept : Nat
  mentions : Nat
  relations : Nat
  unresolved : Nat
  recoveredErrors : Nat
  processingMs : Nat
  deriving DecidableEq, Repr

def ProcessSummary.initial (document : String) : ProcessSummary :=
  ⟨document, 0, 0, 0, 0, 0, 0, 0, 0⟩

inductive PipelineEvent where
  -- The annotations that the chunker added to a sentence.
  | chunksProposed (sentence : Nat) (annotations : List Annotation)
  | chunkRemoved (removed : Annotation) (text : String)
  | mentionResolved (link : Link) (mentionText headText : String)
  | done (summary : ProcessSummary)
  | failed (message : String)
  deriving DecidableEq, Repr

structure Pipeline where
  chunker : Option Chunker
  merger : Option Merger
  resolver : Option Resolver

namespace Pipeline

def empty : Pipeline := ⟨none, none, none⟩

def buildResolver (config : Configuration) (files : Files) (coreference : CoreferenceConfig) :
    Except Error Resolver := do
  let selector ← MentionSelector.ofPatterns coreference.patterns
  let features ← (FeatureRegistry.builtin config.categories).select coreference.features
  let model ← coreference.classifier.build files
  let resolver ← Resolver.ofParts selector features model.classifier
  return match coreference.timeoutMs with
    | some limitMs => resolver.withLimit (limitMs * nanosPerMs)
    | none => resolver

/-- All stages of a configuration, which is checked first. -/
def ofConfiguration (config : Configuration) (files : Files) : Except Error Pipeline := do
  config.validate
  let chunker ← config.buildChunker files
  let merger ← config.mergePriority.mapM Merger.ofPriority
  let resolver ← config.coreference.mapM (buildResolver config files)
  return ⟨chunker, merger, resolver⟩

-- Stages. Each gives the document, its events, and the summary with its figures.

abbrev Stage := Document × List PipelineEvent × Except Error ProcessSummary

/-- The added annotations by sentence, in order of identity; sentences without any are left out. -/
def proposedEvents (document : Document) (added : List Nat) : List PipelineEvent :=
  (List.range document.sentences.length).filterMap fun sentence =>
    let annotations :=
      (added.filterMap document.find?).filter fun a => a.sentence == sentence
    if annotations.isEmpty then none else some (.chunksProposed sentence annotations)

def runChunker (pipeline : Pipeline) (document : Document) (summary : ProcessSummary) : Stage :=
  match pipeline.chunker with
  | none => (document, [], .ok summary)
  | some chunker =>
      match document.applyChunker chunker with
      | (restored, .error e) => (restored, [], .error e)
      | (longer, .ok added) =>
          (longer, proposedEvents longer added, .ok { summary with proposed := added.length })

def runMerger (pipeline : Pipeline) (document : Document) (summary : ProcessSummary) : Stage :=
  match pipeline.merger with
  | none => (document, [], .ok summary)
  | some merger =>
      let (merged, removed) := merger.mergeDocument document
      (merged, removed.map fun a => .chunkRemoved a (merged.spanText a),
        .ok { summary with removed := removed.length })

def textOf (document : Document) (id : Nat) : String :=
  ((document.find? id).map document.spanText).getD ""

def resolvedEvent (document : Document) (link : Link) : PipelineEvent :=
  .mentionResolved link (textOf document link.mention) (textOf document link.head)

def runResolver (pipeline : Pipeline) (clock : Clock) (document : Document)
    (summary : ProcessSummary) : Stage :=
  match pipeline.resolver with
  | none => (document, [], .ok summary)
  | some resolver =>
      match resolver.resolve document clock with
      | (partway, .error e) => (partway, [], .error e)
      | (resolved, .ok report) =>
          (resolved, report.links.map (resolvedEvent resolved),
            .ok { summary with
              mentions := report.mentions
              relations := report.links.length
              unresolved := report.unresolved
              recoveredErrors := report.recoveredErrors })

/-- Runs a stage on what the stages before it left, unless they failed. -/
def andThen (before : Stage) (stage : Document → ProcessSummary → Stage) : Stage :=
  match before with
  | (document, events, .error e) => (document, events, .error e)
  | (document, events, .ok summary) =>
      let (final, more, outcome) := stage document summary
      (final, events ++ more, outcome)

-- The readings of the clock that a resolver makes, for a given number of mentions.
def readings (pipeline : Pipeline) (mentions : Nat) : Nat :=
  if pipeline.resolver.isSome then mentions + 2 else 0

def stages (pipeline : Pipeline) (clock : Clock) (document : Document) : Stage :=
  let started : Stage := (document, [], .ok (ProcessSummary.initial document.id))
  let chunked := andThen started pipeline.runChunker
  let merged := andThen chunked pipeline.runMerger
  andThen merged (pipeline.runResolver fun reading => clock (reading + 1))

/-- Processes a document; when a stage fails it stays as it was. The clock is read at the start and
at the end, and by the resolver in between. -/
def run (pipeline : Pipeline) (clock : Clock) (document : Document) : Stage :=
  match document.validate with
  | .error e => (document, [], .error e)
  | .ok () =>
      match pipeline.stages clock document with
      | (_, events, .error e) => (document, events, .error e)
      | (final, events, .ok summary) =>
          (final, events, .ok { summary with
            kept := final.annotationCount
            processingMs := clock.msSince (pipeline.readings summary.mentions + 1) })

def process (pipeline : Pipeline) (clock : Clock) (document : Document) :
    Document × Except Error ProcessSummary :=
  let (final, _, outcome) := pipeline.run clock document
  (final, outcome)

-- A run that ends in the middle is not told of.
def finalEvents : Except Error ProcessSummary → List PipelineEvent
  | .ok summary => [.done summary]
  | .error (.panic _) => []
  | .error e => [.failed e.message]

/-- Processes a document and tells its events; the last one says how the run ended. -/
def processStreaming (pipeline : Pipeline) (clock : Clock) (document : Document) : Stage :=
  let (final, events, outcome) := pipeline.run clock document
  (final, events ++ finalEvents outcome, outcome)

def processNew (pipeline : Pipeline) (clock : Clock) (document : Document) :
    Except Error (Document × ProcessSummary) :=
  match pipeline.process clock document with
  | (_, .error e) => .error e
  | (final, .ok summary) => .ok (final, summary)

/-- Processes a text as a new document. -/
def annotateText (pipeline : Pipeline) (clock : Clock) (id text : String) :
    Except Error (Document × ProcessSummary) :=
  pipeline.processNew clock (Document.ofText id text)

/-- Processes documents on their own, with one result each, unless one of the runs ends in the
middle. -/
def processBatch (pipeline : Pipeline) (clock : Clock) (documents : List Document) :
    Except Error (List (Except Error (Document × ProcessSummary))) :=
  documents.mapM fun document =>
    match pipeline.processNew clock document with
    | .error (.panic cause) => .error (.panic cause)
    | result => .ok result

end Pipeline

end SpanAnnotation
