import SpanAnnotation.Proofs.MemberOrder
import SpanAnnotation.Proofs.RoundTrip
import SpanAnnotation.Wire.Model
import SpanAnnotation.Wire.Report

/-!
Feature values, reports, summaries and events that come back as they were written, in whatever order
their members are listed. Values without a tag come back by what they look like, and data that
stands beside its tag, or before it, is read as a whole first.
-/

set_option autoImplicit false

namespace SpanAnnotation

open Wire

namespace Wire

@[simp] theorem readable_ofNat (n : Nat) : (ofNat n).readable = true := rfl

@[simp] theorem readable_ofFloat (x : Float) : (ofFloat x).readable = true := by
  unfold ofFloat
  split <;> rfl

@[simp] theorem readable_ofOption {α : Type} (write : α → Value) (option : Option α) :
    (ofOption write option).readable = true ↔ ∀ a ∈ option, (write a).readable = true := by
  cases option <;> simp [ofOption, Value.readable]

@[simp] theorem readable_ofList {α : Type} (write : α → Value) (items : List α) :
    (ofList write items).readable = true ↔ ∀ item ∈ items, (write item).readable = true := by
  simp [ofList, Value.readable, Value.allReadable_iff]

end Wire

variable {ordered : Bool}

-- Feature values and their types.

namespace FeatureValue

/-- Whole numbers fit 64 bits, and others are finite. -/
def Portable : FeatureValue → Prop
  | .int n => -intLimit ≤ n ∧ n < intLimit
  | .float x => x.isFinite = true
  | _ => True

theorem restores (value : FeatureValue) (portable : value.Portable) :
    Restores ordered ofValue toValue value := by
  intro v alike
  cases value with
  | bool b =>
    obtain rfl := alike
    rfl
  | int n =>
    obtain rfl := alike
    exact if_pos (by simp [portable.1, portable.2])
  | float x =>
    rw [toValue, ofFloat_of_finite portable] at alike
    obtain rfl := alike
    rfl
  | enumerated s =>
    obtain rfl := alike
    rfl

end FeatureValue

namespace ValueKind

-- A type without values is an object that holds nothing but its name.
theorem read_name (name : String) (v : Value)
    (alike : (Value.object [("type", .text name)]).Alike ordered v) :
    ∃ others, v = .object others ∧ tagged "type" readText v = .ok (name, .object others) := by
  obtain ⟨others, rfl, same⟩ := alike.rearranged (by simp)
  exact ⟨others, rfl, same.tagged "type" rfl (by simp) (restores_text name)⟩

theorem restores (kind : ValueKind) : Restores ordered ofValue toValue kind := by
  intro v alike
  cases kind with
  | bool =>
    obtain ⟨others, rfl, type⟩ := read_name "bool" v alike
    simp [ofValue, type, unit, bind, Except.bind]
  | int =>
    obtain ⟨others, rfl, type⟩ := read_name "int" v alike
    simp [ofValue, type, unit, bind, Except.bind]
  | float =>
    obtain ⟨others, rfl, type⟩ := read_name "float" v alike
    simp [ofValue, type, unit, bind, Except.bind]
  | enumeration values default =>
    obtain ⟨others, rfl, same⟩ := alike.rearranged (by simp)
    have readable : (enumeration values default).toValue.readable = true := by
      simp [toValue, Value.readable, Value.membersReadable]
    have type := same.tagged "type" readable (by simp) (restores_text "enumeration")
    have listed := same.required "values" (by simp) (restores_texts values)
    have fallback := same.required "default" (by simp) (restores_text default)
    simp [ofValue, same.record, type, listed, fallback, bind, Except.bind, pure, Except.pure]

end ValueKind

-- Parts of reports and events.

theorem Annotation.restores (a : Annotation) (small : a.Small) :
    Restores ordered ofValue toValue a := by
  intro v alike
  obtain ⟨others, rfl, same⟩ := alike.rearranged (by simp)
  have id := same.required "id" (by simp) (restores_nat small.id)
  have sentence := same.required "sentence" (by simp) (restores_nat small.sentence)
  have first := same.required "begin" (by simp) (restores_nat small.first)
  have last := same.required "end" (by simp) (restores_nat small.last)
  have category := same.required "category" (by simp) (restores_text a.category)
  have head := same.optional "head" (by simp) (restores_optionNat small.head)
  have channel := same.withDefault "channel" 0 (by simp) (restores_nat small.channel)
  have source := same.withDefault "source" "" (by simp) (restores_text a.source)
  simp [ofValue, same.record, id, sentence, first, last, category, head, channel, source, bind,
    Except.bind, pure, Except.pure]

namespace Link

def numbers (link : Link) : List Nat := [link.mention, link.head, link.cluster, link.distance]

theorem restores (link : Link) (small : ∀ n ∈ link.numbers, n < natLimit) :
    Restores ordered ofValue toValue link := by
  intro v alike
  obtain ⟨others, rfl, same⟩ := alike.rearranged (by simp)
  simp only [numbers, List.forall_mem_cons] at small
  obtain ⟨mention, head, cluster, distance, _⟩ := small
  have mention := same.required "mention" (by simp) (restores_nat mention)
  have head := same.required "head" (by simp) (restores_nat head)
  have cluster := same.required "cluster" (by simp) (restores_nat cluster)
  have distance := same.required "distance" (by simp) (restores_nat distance)
  simp [ofValue, same.record, mention, head, cluster, distance, bind, Except.bind, pure,
    Except.pure]

end Link

namespace Cluster

def numbers (cluster : Cluster) : List Nat := cluster.head :: cluster.mentions

theorem restores (cluster : Cluster) (small : ∀ n ∈ cluster.numbers, n < natLimit) :
    Restores ordered ofValue toValue cluster := by
  intro v alike
  obtain ⟨others, rfl, same⟩ := alike.rearranged (by simp)
  obtain ⟨head, mentions⟩ := List.forall_mem_cons.mp small
  have head := same.required "head" (by simp) (restores_nat head)
  have each : Restores ordered (readList readNat) (ofList ofNat) cluster.mentions :=
    restores_list fun mention there => restores_nat (mentions mention there)
  have mentions := same.required "mentions" (by simp) each
  simp [ofValue, same.record, head, mentions, bind, Except.bind, pure, Except.pure]

end Cluster

namespace ProcessSummary

def numbers (summary : ProcessSummary) : List Nat :=
  [summary.proposed, summary.removed, summary.kept, summary.mentions, summary.relations,
    summary.unresolved, summary.recoveredErrors, summary.processingMs]

theorem restores (summary : ProcessSummary) (small : ∀ n ∈ summary.numbers, n < natLimit) :
    Restores ordered ofValue toValue summary := by
  intro v alike
  obtain ⟨others, rfl, same⟩ := alike.rearranged (by simp)
  simp only [numbers, List.forall_mem_cons] at small
  obtain ⟨proposed, removed, kept, mentions, relations, unresolved, recovered, elapsed, _⟩ := small
  have document := same.required "document" (by simp) (restores_text summary.document)
  have proposed := same.required "proposed" (by simp) (restores_nat proposed)
  have removed := same.required "removed" (by simp) (restores_nat removed)
  have kept := same.required "kept" (by simp) (restores_nat kept)
  have mentions := same.required "mentions" (by simp) (restores_nat mentions)
  have relations := same.required "relations" (by simp) (restores_nat relations)
  have unresolved := same.required "unresolved" (by simp) (restores_nat unresolved)
  have recovered := same.required "recovered_errors" (by simp) (restores_nat recovered)
  have elapsed := same.required "processing_ms" (by simp) (restores_nat elapsed)
  simp [ofValue, same.record, document, proposed, removed, kept, mentions, relations, unresolved,
    recovered, elapsed, bind, Except.bind, pure, Except.pure]

end ProcessSummary

-- Reports.

namespace ResolutionReport

def numbers (report : ResolutionReport) : List Nat :=
  [report.mentions, report.unresolved, report.recoveredErrors, report.elapsedMs] ++
    report.links.flatMap Link.numbers ++ report.clusters.flatMap Cluster.numbers

theorem restores (report : ResolutionReport) (small : ∀ n ∈ report.numbers, n < natLimit) :
    Restores ordered ofValue toValue report := by
  intro v alike
  obtain ⟨others, rfl, same⟩ := alike.rearranged (by simp)
  simp only [numbers, List.forall_mem_append, List.forall_mem_cons, List.mem_flatMap] at small
  obtain ⟨⟨⟨mentions, unresolved, recovered, elapsed, _⟩, links⟩, clusters⟩ := small
  have mentions := same.required "mentions" (by simp) (restores_nat mentions)
  have unresolved := same.required "unresolved" (by simp) (restores_nat unresolved)
  have recovered := same.required "recovered_errors" (by simp) (restores_nat recovered)
  have elapsed := same.required "elapsed_ms" (by simp) (restores_nat elapsed)
  have eachLink : Restores ordered (readList Link.ofValue) (ofList Link.toValue) report.links :=
    restores_list fun link there => link.restores fun n counted => links n ⟨link, there, counted⟩
  have eachCluster :
      Restores ordered (readList Cluster.ofValue) (ofList Cluster.toValue) report.clusters :=
    restores_list fun cluster there =>
      cluster.restores fun n counted => clusters n ⟨cluster, there, counted⟩
  have links := same.required "links" (by simp) eachLink
  have clusters := same.required "clusters" (by simp) eachCluster
  simp [ofValue, same.record, mentions, unresolved, recovered, elapsed, links, clusters, bind,
    Except.bind, pure, Except.pure]

end ResolutionReport

namespace Score

def numbers (score : Score) : List Nat :=
  [score.counts.truePositives, score.counts.falsePositives, score.counts.falseNegatives,
    score.reference, score.evaluated]

structure Portable (score : Score) : Prop where
  small : ∀ n ∈ score.numbers, n < natLimit
  finite : ∀ x ∈ [score.precision, score.sensitivity, score.f1], x.isFinite = true

theorem toValue_readable (score : Score) : score.toValue.readable = true := by
  simp [toValue, Counts.toFields, Value.readable, Value.membersReadable]

theorem restores (score : Score) (portable : score.Portable) :
    Restores ordered ofValue toValue score := by
  intro v alike
  obtain ⟨others, rfl, same⟩ := alike.rearranged (by simp [Counts.toFields])
  obtain ⟨small, finite⟩ := portable
  simp only [numbers, List.forall_mem_cons] at small finite
  obtain ⟨hits, spurious, missed, reference, evaluated, _⟩ := small
  obtain ⟨precision, sensitivity, f1, _⟩ := finite
  have whole := same.wholeRecord score.toValue_readable
  have hits := same.required "true_positives" (by simp [Counts.toFields]) (restores_nat hits)
  have spurious := same.required "false_positives" (by simp [Counts.toFields])
    (restores_nat spurious)
  have missed := same.required "false_negatives" (by simp [Counts.toFields]) (restores_nat missed)
  have reference := same.required "reference" (by simp) (restores_nat reference)
  have evaluated := same.required "evaluated" (by simp) (restores_nat evaluated)
  have precision := same.required "precision" (by simp) (restores_float precision)
  have sensitivity := same.required "recall" (by simp) (restores_float sensitivity)
  have f1 := same.required "f1" (by simp) (restores_float f1)
  simp [ofValue, Counts.ofFields, whole, hits, spurious, missed, reference, evaluated, precision,
    sensitivity, f1, bind, Except.bind, pure, Except.pure]

end Score

namespace EvaluationReport

structure Portable (report : EvaluationReport) : Prop where
  small : ∀ n ∈ [report.documentsCompared, report.onlyInReference, report.onlyInEvaluated,
    report.differentSentenceCount], n < natLimit
  increasing : report.categories.Pairwise fun a b => a.1 < b.1
  scores : ∀ entry ∈ report.categories, entry.2.Portable
  total : report.total.Portable

theorem restores (report : EvaluationReport) (portable : report.Portable) :
    Restores ordered ofValue toValue report := by
  intro v alike
  obtain ⟨others, rfl, same⟩ := alike.rearranged (by simp)
  have small := portable.small
  simp only [List.forall_mem_cons] at small
  obtain ⟨compared, reference, evaluated, different, _⟩ := small
  have compared := same.required "documents_compared" (by simp) (restores_nat compared)
  have reference := same.required "only_in_reference" (by simp) (restores_nat reference)
  have evaluated := same.required "only_in_evaluated" (by simp) (restores_nat evaluated)
  have different := same.required "different_sentence_count" (by simp) (restores_nat different)
  have total := same.required "total" (by simp) (report.total.restores portable.total)
  obtain ⟨w, found, alike⟩ := same.finds "categories" (ofMap Score.toValue report.categories)
    (by simp)
  obtain ⟨entries, read, sorted⟩ := readMap_sorted portable.increasing
    (fun entry there => entry.2.restores (portable.scores entry there)) w alike
  have categories :
      Fields.required others "categories" (readMap Score.ofValue) = .ok entries := by
    rw [Fields.required, found]
    exact read
  simp [ofValue, same.record, compared, reference, evaluated, different, total, categories, sorted,
    bind, Except.bind, pure, Except.pure]

end EvaluationReport

-- Events.

namespace PipelineEvent

def Portable : PipelineEvent → Prop
  | .chunksProposed sentence annotations => sentence < natLimit ∧ ∀ a ∈ annotations, a.Small
  | .chunkRemoved removed _ => removed.Small
  | .mentionResolved link _ _ => ∀ n ∈ link.numbers, n < natLimit
  | .done summary => ∀ n ∈ summary.numbers, n < natLimit
  | .failed _ => True

/-- The data of an event is read alike before and after its kind. -/
theorem ofValue_tagged (kind : String) (fields : Fields)
    (readable : (Value.object fields).readable = true) (v : Value)
    (alike : (tagged kind fields).Alike ordered v) :
    ∃ w, (Value.object fields).Alike ordered w ∧ ofValue v = dataOfValue kind w := by
  obtain ⟨others, rfl, same⟩ := alike.rearranged (by simp)
  have chosen : Restores ordered readChoice .text kind := by
    rintro _ rfl
    rfl
  have type := same.required "type" (by simp) chosen
  obtain ⟨w, found, alike⟩ := same.finds "data" (.object fields) (by simp)
  have data : (Fields.required others "data" fun v =>
      if isDataFirst others && !v.readable then .error .shape else .ok v) = .ok w := by
    simp [Fields.required, found, alike.readable readable]
  refine ⟨w, alike, ?_⟩
  simp only [ofValue, record_object, same.record, type, data, bind, Except.bind]

theorem restores (event : PipelineEvent) (portable : event.Portable) :
    Restores ordered ofValue toValue event := by
  intro v alike
  cases event with
  | chunksProposed sentence annotations =>
    obtain ⟨w, alike, back⟩ := ofValue_tagged _ _ (by
      simp [Value.readable, Value.membersReadable, Annotation.toValue]) v alike
    obtain ⟨others, rfl, same⟩ := alike.rearranged (by simp)
    have each : Restores ordered (readList Annotation.ofValue) (ofList Annotation.toValue)
        annotations := restores_list fun a there => a.restores (portable.2 a there)
    have sentence := same.required "sentence" (by simp) (restores_nat portable.1)
    have annotations := same.required "annotations" (by simp) each
    rw [back]
    simp [dataOfValue, same.record, sentence, annotations, bind, Except.bind, pure, Except.pure]
  | chunkRemoved removed text =>
    obtain ⟨w, alike, back⟩ := ofValue_tagged _ _ (by
      simp [Value.readable, Value.membersReadable, Annotation.toValue]) v alike
    obtain ⟨others, rfl, same⟩ := alike.rearranged (by simp)
    have removed := same.required "annotation" (by simp) (removed.restores portable)
    have text := same.required "text" (by simp) (restores_text text)
    rw [back]
    simp [dataOfValue, same.record, removed, text, bind, Except.bind, pure, Except.pure]
  | mentionResolved link mentionText headText =>
    obtain ⟨w, alike, back⟩ := ofValue_tagged _ _ (by
      simp [Value.readable, Value.membersReadable, Link.toValue]) v alike
    obtain ⟨others, rfl, same⟩ := alike.rearranged (by simp)
    have link := same.required "link" (by simp) (link.restores portable)
    have mention := same.required "mention_text" (by simp) (restores_text mentionText)
    have head := same.required "head_text" (by simp) (restores_text headText)
    rw [back]
    simp [dataOfValue, same.record, link, mention, head, bind, Except.bind, pure, Except.pure]
  | done summary =>
    obtain ⟨w, alike, back⟩ := ofValue_tagged _ _ (by
      simp [Value.readable, Value.membersReadable, ProcessSummary.toValue]) v alike
    obtain ⟨others, rfl, same⟩ := alike.rearranged (by simp)
    have summary := same.required "summary" (by simp) (summary.restores portable)
    rw [back]
    simp [dataOfValue, same.record, summary, bind, Except.bind, pure, Except.pure]
  | failed message =>
    obtain ⟨w, alike, back⟩ := ofValue_tagged _ _ (by
      simp [Value.readable, Value.membersReadable]) v alike
    obtain ⟨others, rfl, same⟩ := alike.rearranged (by simp)
    have message := same.required "message" (by simp) (restores_text message)
    rw [back]
    simp [dataOfValue, same.record, message, bind, Except.bind, pure, Except.pure]

end PipelineEvent

end SpanAnnotation
