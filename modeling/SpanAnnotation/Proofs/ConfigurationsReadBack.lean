import SpanAnnotation.Proofs.ReportsReadBack
import SpanAnnotation.Proofs.WeightColumns
import SpanAnnotation.Wire.Configuration

/-!
Models and configurations that come back as they were written. A chunker stands beside its kind, and
both are read from one object. Weights have no order of their own, and come back in the order in
which they are found; no rule depends on it.
-/

set_option autoImplicit false

namespace SpanAnnotation

open Wire

variable {ordered : Bool}

-- Chunkers.

namespace Wire

theorem restores_choice (positions : Bool) (names : List String) (s : String) :
    Restores ordered (readChoiceOf positions names) .text s := by
  rintro _ rfl
  rfl

@[simp] theorem configRecord_object (positions : Bool) (names : List String) (fields : Fields) :
    configRecord positions names (.object fields) = objectRecord names (.object fields) := by
  cases positions <;> rfl

@[simp] theorem readable_ofMap {α : Type} (write : α → Value) (entries : List (String × α)) :
    (ofMap write entries).readable = true ↔
      ∀ entry ∈ entries, (write entry.2).readable = true := by
  simp only [ofMap, Value.readable, Value.membersReadable_iff, List.forall_mem_map]

end Wire

namespace Fix

def Portable : Fix → Prop
  | .minLength least => least < natLimit
  | _ => True

@[simp] theorem toValue_readable (fix : Fix) : fix.toValue.readable = true := by
  cases fix <;> simp [toValue, Value.readable, Value.membersReadable]

theorem restores (positions : Bool) (fix : Fix) (portable : fix.Portable) :
    Restores ordered (ofValue positions) toValue fix := by
  intro v alike
  cases fix with
  | followedBy categories words =>
    obtain ⟨others, rfl, same⟩ := alike.rearranged (by simp)
    have kind := same.tagged "kind" (followedBy categories words).toValue_readable (by simp)
      (restores_choice positions kinds "followed-by")
    have categories := same.withDefault "categories" [] (by simp) (restores_texts categories)
    have words := same.required "words" (by simp) (restores_texts words)
    simp [ofValue, same.record, kind, categories, words, bind, Except.bind, pure, Except.pure]
  | categoryFilter keep =>
    obtain ⟨others, rfl, same⟩ := alike.rearranged (by simp)
    have kind := same.tagged "kind" (categoryFilter keep).toValue_readable (by simp)
      (restores_choice positions kinds "category-filter")
    have keep := same.required "keep" (by simp) (restores_texts keep)
    simp [ofValue, same.record, kind, keep, bind, Except.bind, pure, Except.pure]
  | minLength least =>
    obtain ⟨others, rfl, same⟩ := alike.rearranged (by simp)
    have kind := same.tagged "kind" (minLength least).toValue_readable (by simp)
      (restores_choice positions kinds "min-length")
    have least := same.required "min" (by simp) (restores_nat portable)
    simp [ofValue, same.record, kind, least, bind, Except.bind, pure, Except.pure]

end Fix

namespace ChunkerConfig

structure Portable (chunker : ChunkerConfig) : Prop where
  tabled : ∀ entries path caseSensitive, chunker.kind = .dictionary entries path caseSensitive →
    entries.Pairwise fun a b => a.1 < b.1
  fixes : ∀ base fixes, chunker.kind = .fix base fixes → ∀ fix ∈ fixes, fix.Portable

@[simp] theorem toValue_readable (chunker : ChunkerConfig) : chunker.toValue.readable = true := by
  obtain ⟨name, kind⟩ := chunker
  cases kind <;> simp [toValue, kindFields, Value.readable, Value.membersReadable]

theorem restores_kind (positions : Bool) (chunker : ChunkerConfig) (portable : chunker.Portable)
    (v : Value) (alike : chunker.toValue.Alike ordered v) :
    kindOfValue positions v = .ok chunker.kind := by
  obtain ⟨name, kind⟩ := chunker
  have readable := toValue_readable ⟨name, kind⟩
  cases kind with
  | dictionary entries path caseSensitive =>
    obtain ⟨others, rfl, same⟩ := alike.rearranged (by simp [kindFields])
    have whole := same.wholeRecord readable ["kind"]
    have kind := same.required "kind" (by simp [kindFields])
      (restores_choice positions kinds "dictionary")
    obtain ⟨w, found, alike⟩ := same.finds "entries" (ofMap (ofList .text) entries)
      (by simp [kindFields])
    obtain ⟨listed, read, sorted⟩ := readMap_sorted (portable.tabled _ _ _ rfl)
      (fun entry _ => restores_texts entry.2) w alike
    have entries : Fields.withDefault others "entries" (readMap (readList readText)) [] =
        .ok listed := by
      rw [Fields.withDefault, found]
      exact read
    have path := same.optional "path" (by simp [kindFields]) (restores_optionText path)
    have caseSensitive := same.withDefault "case_sensitive" false (by simp [kindFields])
      (restores_bool caseSensitive)
    simp [kindOfValue, whole, same.record, kind, entries, sorted, path, caseSensitive, bind,
      Except.bind, pure, Except.pure]
  | union members =>
    obtain ⟨others, rfl, same⟩ := alike.rearranged (by simp [kindFields])
    have whole := same.wholeRecord readable ["kind"]
    have kind := same.required "kind" (by simp [kindFields])
      (restores_choice positions kinds "union")
    have members := same.required "members" (by simp [kindFields]) (restores_texts members)
    simp [kindOfValue, whole, same.record, kind, members, bind, Except.bind, pure, Except.pure]
  | fix base fixes =>
    obtain ⟨others, rfl, same⟩ := alike.rearranged (by simp [kindFields])
    have whole := same.wholeRecord readable ["kind"]
    have each : Restores ordered (readList (Fix.ofValue positions)) (ofList Fix.toValue) fixes :=
      restores_list fun fix there => fix.restores positions (portable.fixes _ _ rfl fix there)
    have kind := same.required "kind" (by simp [kindFields])
      (restores_choice positions kinds "fix")
    have base := same.required "base" (by simp [kindFields]) (restores_text base)
    have fixes := same.withDefault "fixes" [] (by simp [kindFields]) each
    simp [kindOfValue, whole, same.record, kind, base, fixes, bind, Except.bind, pure, Except.pure]

theorem restores (positions : Bool) (chunker : ChunkerConfig) (portable : chunker.Portable) :
    Restores ordered (ofValue positions) toValue chunker := by
  intro v alike
  have kind := chunker.restores_kind positions portable v alike
  have named : ((("name", .text chunker.name) :: kindFields chunker.kind).map Prod.fst).Nodup := by
    cases chunker.kind <;> simp [kindFields]
  obtain ⟨others, rfl, same⟩ := alike.rearranged named
  have name := same.required "name" (by simp) (restores_text chunker.name)
  simp [ofValue, same.record, name, kind, bind, Except.bind, pure, Except.pure]

end ChunkerConfig

-- Weights.

namespace LinearModel

structure Portable (model : LinearModel) : Prop where
  distinct : (model.weights.map Prod.fst).Nodup
  finite : model.isFinite = true

variable {model : LinearModel} {members others : Fields}

theorem Portable.restores_bias (portable : model.Portable)
    (same : Rearranged ordered members others)
    (there : ("bias", ofFloat model.bias) ∈ members) :
    others.withDefault "bias" readFloat 0.0 = .ok model.bias := by
  have finite := portable.finite
  simp only [isFinite, Bool.and_eq_true] at finite
  exact same.withDefault "bias" _ there (restores_float finite.1)

theorem Portable.reads_weights (portable : model.Portable)
    (same : Rearranged ordered members others)
    (there : ("weights", ofMap ofFloat model.weights) ∈ members) :
    ∃ weights, Listed ordered weights model.weights ∧
      others.withDefault "weights" (readMap readFloat) [] = .ok weights := by
  have finite := portable.finite
  simp only [isFinite, Bool.and_eq_true, List.all_eq_true] at finite
  obtain ⟨w, found, alike⟩ := same.finds _ _ there
  obtain ⟨weights, listed, read⟩ := readMap_listed portable.distinct
    (fun entry there => restores_float (finite.2 entry there)) w alike
  refine ⟨weights, listed, ?_⟩
  rw [Fields.withDefault, found]
  exact read

theorem Portable.reads (portable : model.Portable) (v : Value)
    (alike : model.toValue.Alike ordered v) :
    ∃ weights, Listed ordered weights model.weights ∧
      ofValue v = .ok { model with weights := weights } := by
  obtain ⟨others, rfl, same⟩ := alike.rearranged (by simp)
  obtain ⟨weights, listed, read⟩ := portable.reads_weights same (by simp)
  have bias := portable.restores_bias same (by simp)
  refine ⟨weights, listed, ?_⟩
  simp [ofValue, same.record, read, bias, bind, Except.bind, pure, Except.pure]

end LinearModel

-- Resolvers.

namespace CoreferenceConfig

def model (coreference : CoreferenceConfig) : LinearModel :=
  ⟨coreference.classifier.weights, coreference.classifier.bias⟩

structure Portable (coreference : CoreferenceConfig) : Prop where
  timeout : ∀ limit ∈ coreference.timeoutMs, limit < natLimit
  model : coreference.model.Portable

theorem reads_classifier (positions : Bool) (classifier : ClassifierConfig)
    (portable : (LinearModel.mk classifier.weights classifier.bias).Portable) (v : Value)
    (alike : (classifier.toValueWith ofFloat).Alike ordered v) :
    ∃ weights, Listed ordered weights classifier.weights ∧
      ClassifierConfig.ofValue positions v = .ok { classifier with weights := weights } := by
  obtain ⟨others, rfl, same⟩ := alike.rearranged (by simp)
  obtain ⟨weights, listed, read⟩ := portable.reads_weights same (by simp)
  have bias := portable.restores_bias same (by simp)
  have path := same.optional "model_path" (by simp) (restores_optionText classifier.modelPath)
  refine ⟨weights, listed, ?_⟩
  simp [ClassifierConfig.ofValue, same.record, read, bias, path, bind, Except.bind, pure,
    Except.pure]

theorem reads (positions : Bool) (coreference : CoreferenceConfig)
    (portable : coreference.Portable) (v : Value)
    (alike : (coreference.toValueWith ofFloat).Alike ordered v) :
    ∃ weights, Listed ordered weights coreference.classifier.weights ∧
      ofValue positions v = .ok (coreference.weighing weights) := by
  obtain ⟨others, rfl, same⟩ := alike.rearranged (by simp)
  obtain ⟨w, found, alike⟩ := same.finds "classifier"
    (coreference.classifier.toValueWith ofFloat) (by simp)
  obtain ⟨weights, listed, read⟩ := reads_classifier positions _ portable.model w alike
  have classifier : Fields.withDefault others "classifier" (ClassifierConfig.ofValue positions) .zero =
      .ok { coreference.classifier with weights := weights } := by
    rw [Fields.withDefault, found]
    exact read
  have patterns := same.required "mention_patterns" (by simp) (restores_texts coreference.patterns)
  have features := same.required "features" (by simp) (restores_texts coreference.features)
  have timeout := same.optional "timeout_ms" (by simp) (restores_optionNat portable.timeout)
  refine ⟨weights, listed, ?_⟩
  simp [ofValue, same.record, classifier, patterns, features, timeout, weighing, bind, Except.bind,
    pure, Except.pure]

theorem reads_option (positions : Bool) (coreference : Option CoreferenceConfig)
    (portable : ∀ given ∈ coreference, given.Portable) (v : Value)
    (alike : (ofOption (toValueWith ofFloat) coreference).Alike ordered v) :
    ∃ weights,
      Listed ordered weights ((coreference.map fun given => given.classifier.weights).getD []) ∧
      readOption (ofValue positions) v = .ok (coreference.map fun given => given.weighing weights) := by
  cases coreference with
  | none =>
    obtain rfl := alike
    exact ⟨[], .refl ordered [], rfl⟩
  | some given =>
    obtain ⟨weights, listed, read⟩ := given.reads positions (portable given rfl) v alike
    obtain ⟨_, _, rfl, _⟩ := alike
    refine ⟨weights, listed, ?_⟩
    simp [readOption, read]

end CoreferenceConfig

-- Configurations.

namespace Configuration

/-- Whole numbers fit 64 bits, dictionaries are tables, and weights are finite and have a column
each. -/
structure Portable (config : Configuration) : Prop where
  numbers : ∀ n ∈ config.wholeNumbers, n < natLimit
  tabled : config.Tabled
  model : ∀ coreference ∈ config.coreference, coreference.model.Portable

def weights (config : Configuration) : Weights :=
  (config.coreference.map fun coreference => coreference.classifier.weights).getD []

variable {config : Configuration}

theorem Portable.chunker (portable : config.Portable) (chunker : ChunkerConfig)
    (there : chunker ∈ config.chunkers) : chunker.Portable := by
  refine ⟨portable.tabled chunker there, fun base fixes made fix listed => ?_⟩
  cases fix with
  | minLength least =>
    refine portable.numbers least ?_
    simp only [wholeNumbers, List.mem_append, List.mem_flatMap]
    refine .inr ⟨chunker, there, ?_⟩
    simp only [made, List.mem_flatMap]
    exact ⟨_, listed, by simp⟩
  | _ => trivial

theorem Portable.resolver (portable : config.Portable) (coreference : CoreferenceConfig)
    (given : config.coreference = some coreference) : coreference.Portable := by
  refine ⟨fun limit set => portable.numbers limit ?_, portable.model coreference given⟩
  simp [wholeNumbers, given, Option.mem_def.mp set]

theorem restores_priority (positions : Bool) (priority : List String) :
    Restores ordered (readPriority positions) (fun priority => .object [("priority", ofList .text priority)])
      priority := by
  intro v alike
  obtain ⟨others, rfl, same⟩ := alike.rearranged (by simp)
  have priority := same.required "priority" (by simp) (restores_texts priority)
  simp [readPriority, same.record, priority, bind, Except.bind]

theorem Portable.reads (portable : config.Portable) (positions : Bool) (v : Value)
    (alike : config.toValue.Alike ordered v) :
    ∃ weights, Listed ordered weights config.weights ∧
      ofValue positions v = .ok (config.weighing weights) := by
  obtain ⟨others, rfl, same⟩ := alike.rearranged (by simp)
  have each : Restores ordered (readList (ChunkerConfig.ofValue positions))
      (ofList ChunkerConfig.toValue) config.chunkers :=
    restores_list fun chunker there => chunker.restores positions (portable.chunker chunker there)
  have someMerge : Restores ordered (readOption (readPriority positions))
      (ofOption fun priority => .object [("priority", ofList .text priority)])
      config.mergePriority :=
    restores_option (fun _ _ => nofun) fun priority _ => restores_priority positions priority
  have categories := same.required "categories" (by simp) (restores_texts config.categories)
  have chunkers := same.withDefault "chunkers" [] (by simp) each
  have chunker := same.optional "chunker" (by simp) (restores_optionText config.chunker)
  have merge := same.optional "merge" (by simp) someMerge
  obtain ⟨w, found, alike⟩ := same.finds "coreference"
    (ofOption (CoreferenceConfig.toValueWith ofFloat) config.coreference) (by simp)
  obtain ⟨weights, listed, read⟩ := CoreferenceConfig.reads_option positions config.coreference
    portable.resolver w alike
  have coreference : Fields.optional others "coreference"
      (CoreferenceConfig.ofValue positions) =
      .ok (config.coreference.map fun given => given.weighing weights) := by
    rw [Fields.optional, found]
    exact read
  refine ⟨weights, listed, ?_⟩
  simp [ofValue, same.record, categories, chunkers, chunker, merge, coreference, weighing, bind,
    Except.bind, pure, Except.pure]

theorem weighing_weights (config : Configuration) : config.weighing config.weights = config := by
  obtain ⟨categories, chunkers, chunker, priority, coreference⟩ := config
  cases coreference <;> rfl

theorem Portable.written (portable : config.Portable) (positions : Bool) :
    ofValue positions config.toValue = .ok config := by
  obtain ⟨weights, rfl, read⟩ := portable.reads positions config.toValue (.refl true _)
  rwa [weighing_weights] at read

theorem weighing_weighing (weights others : Weights) :
    (config.weighing weights).weighing others = config.weighing others := by
  obtain ⟨categories, chunkers, chunker, priority, coreference⟩ := config
  cases coreference <;> rfl

theorem weights_weighing (weights : Weights) (same : weights.Perm config.weights) :
    (config.weighing weights).weights = weights := by
  obtain ⟨categories, chunkers, chunker, priority, coreference⟩ := config
  cases coreference with
  | none => exact same.eq_nil.symm
  | some coreference => rfl

theorem accepted_weighing (weights : Weights) (same : weights.Perm config.weights)
    (valid : config.validate = .ok ()) : (config.weighing weights).validate = .ok () := by
  cases given : config.coreference with
  | none =>
    have none : config.weights = [] := by rw [Configuration.weights, given]; rfl
    rw [none] at same
    rwa [same.eq_nil, ← none, weighing_weights]
  | some coreference =>
    have inline : config.weights = coreference.classifier.weights := by
      rw [Configuration.weights, given]
      rfl
    have resolves := (config.validate_eq_ok_iff.mp valid).coreference coreference given
    rw [config.validate_weighing coreference weights given valid, checkWeights_eq_ok_iff]
    intro unread column listed
    refine resolves.weights unread column ?_
    rw [← inline]
    exact (same.map Prod.fst).mem_iff.mp listed

/-- The rules do not depend on the order of the weights. -/
theorem accepted_weighing_iff (weights : Weights) (same : weights.Perm config.weights) :
    (config.weighing weights).validate = .ok () ↔ config.validate = .ok () := by
  refine ⟨fun valid => ?_, accepted_weighing weights same⟩
  have back : config.weights.Perm (config.weighing weights).weights := by
    rw [weights_weighing weights same]
    exact same.symm
  have again := accepted_weighing config.weights back valid
  rwa [weighing_weighing, weighing_weights] at again

end Configuration

-- All of them.

namespace Wire

/-- A value is read as it was written, and so is all that is like it. -/
def ReadsBack {α : Type} (read : Read α) (write : α → Value) (a : α) : Prop :=
  read (write a) = .ok a ∧ ∀ v, (write a).Alike false v → read v = .ok a

theorem readsBack {α : Type} {read : Read α} {write : α → Value} {a : α}
    (restores : Restores false read write a) : ReadsBack read write a :=
  ⟨restores _ (.refl false _), restores⟩

/-- Configurations, models, features, reports, summaries and events come back as they were written.
Where objects list their members in another order, weights are found in that order, and nothing else
is different: the configuration is accepted as before. -/
theorem written_reads_back :
    (∀ config : Configuration, config.Portable → ∀ positions,
      Configuration.ofValue positions config.toValue = .ok config ∧
      Configuration.validate <$> Configuration.ofValue positions config.toValue =
        .ok config.validate ∧
      ∀ v, config.toValue.Alike false v → ∃ weights, weights.Perm config.weights ∧
        Configuration.ofValue positions v = .ok (config.weighing weights) ∧
        ((config.weighing weights).validate = .ok () ↔ config.validate = .ok ())) ∧
    (∀ model : LinearModel, model.Portable →
      LinearModel.ofValue model.toValue = .ok model ∧
      ∀ v, model.toValue.Alike false v → ∃ weights, weights.Perm model.weights ∧
        LinearModel.ofValue v = .ok { model with weights := weights }) ∧
    (∀ event : PipelineEvent, event.Portable →
      ReadsBack PipelineEvent.ofValue PipelineEvent.toValue event) ∧
    (∀ report : ResolutionReport, (∀ n ∈ report.numbers, n < natLimit) →
      ReadsBack ResolutionReport.ofValue ResolutionReport.toValue report) ∧
    (∀ report : EvaluationReport, report.Portable →
      ReadsBack EvaluationReport.ofValue EvaluationReport.toValue report) ∧
    (∀ summary : ProcessSummary, (∀ n ∈ summary.numbers, n < natLimit) →
      ReadsBack ProcessSummary.ofValue ProcessSummary.toValue summary) ∧
    (∀ kind : ValueKind, ReadsBack ValueKind.ofValue ValueKind.toValue kind) ∧
    ∀ value : FeatureValue, value.Portable →
      ReadsBack FeatureValue.ofValue FeatureValue.toValue value := by
  refine ⟨fun config portable positions => ?_, fun model portable => ⟨?_, ?_⟩,
    fun event portable => readsBack (event.restores portable),
    fun report small => readsBack (report.restores small),
    fun report portable => readsBack (report.restores portable),
    fun summary small => readsBack (summary.restores small),
    fun kind => readsBack kind.restores,
    fun value portable => readsBack (value.restores portable)⟩
  · have back := portable.written positions
    refine ⟨back, by rw [back]; rfl, fun v alike => ?_⟩
    obtain ⟨weights, same, read⟩ := portable.reads positions v alike
    exact ⟨weights, same, read, Configuration.accepted_weighing_iff weights same⟩
  · obtain ⟨weights, rfl, read⟩ := portable.reads model.toValue (.refl true _)
    exact read
  · exact portable.reads

-- A chunker of every kind, a correction of every kind, and one weight below zero.
def threeChunkers : Configuration where
  categories := ["name", "place"]
  chunkers := [
    ⟨"names", .dictionary [("name", ["Jan Nowak"]), ("place", ["Braga", "Porto"])] none true⟩,
    ⟨"short", .fix "names" [.followedBy ["name"] ["em"], .categoryFilter ["name"], .minLength 1]⟩,
    ⟨"all", .union ["names", "short"]⟩]
  chunker := some "all"
  mergePriority := some ["place", "name"]
  coreference := some
    { patterns := ["name"]
      features := ["clustermention_cluster_size"]
      classifier :=
        { modelPath := none, weights := [("clustermention_cluster_size", -0.5)], bias := 1.0 }
      timeoutMs := some 250 }

-- The data of the event is listed before its type.
theorem threeChunkers_reads_back :
    let score : Score := ⟨⟨1, 0, 1⟩, 2, 1, 1.0, 0.5, 0.75⟩
    let report : EvaluationReport := ⟨1, 0, 0, 0, [("name", score)], score⟩
    let resolution : ResolutionReport := ⟨2, [⟨1, 0, 0, 3⟩], 0, 0, [⟨0, [0, 1]⟩], 12⟩
    Configuration.ofValue true threeChunkers.toValue = .ok threeChunkers ∧
      LinearModel.ofValue (LinearModel.mk [("b", 2.5), ("a", 0.5)] (-1.0)).toValue =
        .ok ⟨[("b", 2.5), ("a", 0.5)], -1.0⟩ ∧
      PipelineEvent.ofValue (.object [("data", .object [("message", .text "fim")]),
        ("type", .text "Error")]) = .ok (.failed "fim") ∧
      ResolutionReport.ofValue resolution.toValue = .ok resolution ∧
      EvaluationReport.ofValue report.toValue = .ok report ∧
      ProcessSummary.ofValue (ProcessSummary.initial "d").toValue = .ok (.initial "d") ∧
      FeatureValue.ofValue (FeatureValue.float 3.0).toValue = .ok (.float 3.0) := by
  intro score report resolution
  obtain ⟨configurations, models, events, resolutions, evaluations, summaries, _, values⟩ :=
    written_reads_back
  have config : threeChunkers.Portable := by
    constructor
    case numbers => decide
    case tabled =>
      have order : "name" < "place" := by decide
      simpa [Configuration.Tabled, threeChunkers] using order
    case model =>
      intro coreference given
      obtain rfl := Option.some.inj given
      exact ⟨by decide, by decide⟩
  have dataFirst : (PipelineEvent.failed "fim").toValue.Alike false
      (.object [("data", .object [("message", .text "fim")]), ("type", .text "Error")]) :=
    ⟨_, _, rfl, List.Perm.swap _ _ _, Value.membersAlike_refl false _⟩
  have figures : score.Portable := ⟨by decide, by decide⟩
  have scores : report.Portable :=
    ⟨by decide, List.pairwise_singleton _ _, List.forall_mem_singleton.mpr figures, figures⟩
  exact ⟨(configurations _ config true).1, (models _ ⟨by decide, by decide⟩).1,
    (events (.failed "fim") trivial).2 _ dataFirst, (resolutions resolution (by decide)).1,
    (evaluations report scores).1, (summaries _ (by decide)).1,
    (values (.float 3.0) (by decide : (3.0 : Float).isFinite = true)).1⟩

end Wire

end SpanAnnotation
