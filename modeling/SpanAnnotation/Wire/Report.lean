import SpanAnnotation.Evaluation
import SpanAnnotation.Pipeline
import SpanAnnotation.Wire.Document

/-!
Reports, summaries and events as structured data.
-/

set_option autoImplicit false

namespace SpanAnnotation

open Wire

-- Coreference.

namespace Link

def ofValue (v : Value) : Except Misfit Link := do
  let fields ← record ["mention", "head", "cluster", "distance"] v
  return {
    mention := ← fields.required "mention" readNat
    head := ← fields.required "head" readNat
    cluster := ← fields.required "cluster" readNat
    distance := ← fields.required "distance" readNat }

def toValue (link : Link) : Value :=
  .object [("mention", ofNat link.mention), ("head", ofNat link.head),
    ("cluster", ofNat link.cluster), ("distance", ofNat link.distance)]

end Link

namespace ResolutionReport

def ofValue (v : Value) : Except Misfit ResolutionReport := do
  let fields ← record
    ["mentions", "links", "unresolved", "recovered_errors", "clusters", "elapsed_ms"] v
  return {
    mentions := ← fields.required "mentions" readNat
    links := ← fields.required "links" (readList Link.ofValue)
    unresolved := ← fields.required "unresolved" readNat
    recoveredErrors := ← fields.required "recovered_errors" readNat
    clusters := ← fields.required "clusters" (readList Cluster.ofValue)
    elapsedMs := ← fields.required "elapsed_ms" readNat }

def toValue (report : ResolutionReport) : Value :=
  .object [("mentions", ofNat report.mentions), ("links", ofList Link.toValue report.links),
    ("unresolved", ofNat report.unresolved), ("recovered_errors", ofNat report.recoveredErrors),
    ("clusters", ofList Cluster.toValue report.clusters), ("elapsed_ms", ofNat report.elapsedMs)]

end ResolutionReport

-- Evaluation.

namespace Counts

def ofFields (fields : Fields) : Except Misfit Counts := do
  return {
    truePositives := ← fields.required "true_positives" readNat
    falsePositives := ← fields.required "false_positives" readNat
    falseNegatives := ← fields.required "false_negatives" readNat }

def toFields (counts : Counts) : Fields :=
  [("true_positives", ofNat counts.truePositives), ("false_positives", ofNat counts.falsePositives),
    ("false_negatives", ofNat counts.falseNegatives)]

def toValue (counts : Counts) : Value := .object counts.toFields

end Counts

namespace Score

-- The counts stand beside the figures derived from them.
def ofValue (v : Value) : Except Misfit Score := do
  let fields ← wholeRecord
    ["true_positives", "false_positives", "false_negatives", "reference", "evaluated", "precision",
      "recall", "f1"] v
  return {
    counts := ← Counts.ofFields fields
    reference := ← fields.required "reference" readNat
    evaluated := ← fields.required "evaluated" readNat
    precision := ← fields.required "precision" readFloat
    sensitivity := ← fields.required "recall" readFloat
    f1 := ← fields.required "f1" readFloat }

def toValue (score : Score) : Value :=
  .object (score.counts.toFields ++
    [("reference", ofNat score.reference), ("evaluated", ofNat score.evaluated),
      ("precision", ofFloat score.precision), ("recall", ofFloat score.sensitivity),
      ("f1", ofFloat score.f1)])

end Score

namespace EvaluationReport

def ofValue (v : Value) : Except Misfit EvaluationReport := do
  let fields ← record
    ["documents_compared", "only_in_reference", "only_in_evaluated", "different_sentence_count",
      "categories", "total"] v
  return {
    documentsCompared := ← fields.required "documents_compared" readNat
    onlyInReference := ← fields.required "only_in_reference" readNat
    onlyInEvaluated := ← fields.required "only_in_evaluated" readNat
    differentSentenceCount := ← fields.required "different_sentence_count" readNat
    categories := sortEntries (← fields.required "categories" (readMap Score.ofValue))
    total := ← fields.required "total" Score.ofValue }

def toValue (report : EvaluationReport) : Value :=
  .object [("documents_compared", ofNat report.documentsCompared),
    ("only_in_reference", ofNat report.onlyInReference),
    ("only_in_evaluated", ofNat report.onlyInEvaluated),
    ("different_sentence_count", ofNat report.differentSentenceCount),
    ("categories", ofMap Score.toValue report.categories), ("total", report.total.toValue)]

end EvaluationReport

-- Pipelines.

namespace ProcessSummary

def ofValue (v : Value) : Except Misfit ProcessSummary := do
  let fields ← record
    ["document", "proposed", "removed", "kept", "mentions", "relations", "unresolved",
      "recovered_errors", "processing_ms"] v
  return {
    document := ← fields.required "document" readText
    proposed := ← fields.required "proposed" readNat
    removed := ← fields.required "removed" readNat
    kept := ← fields.required "kept" readNat
    mentions := ← fields.required "mentions" readNat
    relations := ← fields.required "relations" readNat
    unresolved := ← fields.required "unresolved" readNat
    recoveredErrors := ← fields.required "recovered_errors" readNat
    processingMs := ← fields.required "processing_ms" readNat }

def toValue (summary : ProcessSummary) : Value :=
  .object [("document", .text summary.document), ("proposed", ofNat summary.proposed),
    ("removed", ofNat summary.removed), ("kept", ofNat summary.kept),
    ("mentions", ofNat summary.mentions), ("relations", ofNat summary.relations),
    ("unresolved", ofNat summary.unresolved),
    ("recovered_errors", ofNat summary.recoveredErrors),
    ("processing_ms", ofNat summary.processingMs)]

end ProcessSummary

namespace PipelineEvent

def dataOfValue (kind : String) (v : Value) : Except Misfit PipelineEvent := do
  match kind with
  | "ChunksProposed" => do
      let fields ← objectRecord ["sentence", "annotations"] v
      let sentence ← fields.required "sentence" readNat
      let annotations ← fields.required "annotations" (readList Annotation.ofValue)
      return .chunksProposed sentence annotations
  | "ChunkRemoved" => do
      let fields ← objectRecord ["annotation", "text"] v
      let removed ← fields.required "annotation" Annotation.ofValue
      let text ← fields.required "text" readText
      return .chunkRemoved removed text
  | "MentionResolved" => do
      let fields ← objectRecord ["link", "mention_text", "head_text"] v
      let link ← fields.required "link" Link.ofValue
      let mentionText ← fields.required "mention_text" readText
      let headText ← fields.required "head_text" readText
      return .mentionResolved link mentionText headText
  | "Done" => do
      let fields ← objectRecord ["summary"] v
      return .done (← fields.required "summary" ProcessSummary.ofValue)
  | "Error" => do
      let fields ← objectRecord ["message"] v
      return .failed (← fields.required "message" readText)
  | _ => .error .shape

-- Data that comes before its kind is read as a whole first.
def isDataFirst : Fields → Bool
  | [] => false
  | (name, _) :: rest => if name == "type" then false else name == "data" || isDataFirst rest

def ofValue (v : Value) : Except Misfit PipelineEvent := do
  let fields ← record ["type", "data"] v
  let kind ← fields.required "type" readChoice
  let data ← fields.required "data" fun v =>
    if isDataFirst fields && !v.readable then .error .shape else .ok v
  dataOfValue kind data

def tagged (kind : String) (fields : Fields) : Value :=
  .object [("type", .text kind), ("data", .object fields)]

def toValue : PipelineEvent → Value
  | .chunksProposed sentence annotations =>
      tagged "ChunksProposed"
        [("sentence", ofNat sentence), ("annotations", ofList Annotation.toValue annotations)]
  | .chunkRemoved removed text =>
      tagged "ChunkRemoved" [("annotation", removed.toValue), ("text", .text text)]
  | .mentionResolved link mentionText headText =>
      tagged "MentionResolved"
        [("link", link.toValue), ("mention_text", .text mentionText), ("head_text", .text headText)]
  | .done summary => tagged "Done" [("summary", summary.toValue)]
  | .failed message => tagged "Error" [("message", .text message)]

end PipelineEvent

end SpanAnnotation
