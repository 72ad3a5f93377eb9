import Mathlib.Data.List.Basic
import SpanAnnotation.Pipeline
import SpanAnnotation.Proofs.Proposals

/-!
From configurations to pipelines. The rules of configurations cover what the stages need, save for
two things: a priority list may name a category twice, and a pattern that can be read on its own may
be unreadable where it has to match a whole category. Without files these are all that can go wrong
once a configuration is accepted.
-/

set_option autoImplicit false

namespace SpanAnnotation

def Fix.categories : Fix → List String
  | .followedBy categories _ => categories
  | .categoryFilter keep => keep
  | .minLength _ => []

namespace Configuration

variable (config : Configuration) (files : Files)

-- The rules.

/-- The categories and the chunkers that a chunker names are declared. -/
def Declares : ChunkerKind → Prop
  | .dictionary entries _ _ => entries.map Prod.fst ⊆ config.categories
  | .union members => ∀ member ∈ members, ∃ part, config.find? member = some part
  | .fix base fixes =>
      (∃ below, config.find? base = some below) ∧ ∀ fix ∈ fixes, fix.categories ⊆ config.categories

structure Resolves (coreference : CoreferenceConfig) : Prop where
  patterns : coreference.patterns ≠ []
  readable : ∀ pattern ∈ coreference.patterns, ∃ compiled, Pattern.compile pattern = .ok compiled
  features : ∃ set,
    (FeatureRegistry.builtin config.categories).select coreference.features = .ok set ∧
      set.input = .clusterMention
  weights : coreference.classifier.modelPath = none →
    ∀ column ∈ coreference.classifier.weights.map Prod.fst,
      featureOfColumn column ∈ coreference.features

structure Accepted : Prop where
  nonempty : config.categories ≠ []
  categories : config.categories.Nodup
  names : (config.chunkers.map ChunkerConfig.name).Nodup
  chunkers : ∀ chunker ∈ config.chunkers, config.Declares chunker.kind
  orders : ∀ chunker ∈ config.chunkers, ∃ order, config.dependencyOrder chunker.name = .ok order
  target : ∀ name, config.chunker = some name → ∃ chunker, config.find? name = some chunker
  merge : ∀ priority, config.mergePriority = some priority →
    priority ≠ [] ∧ priority ⊆ config.categories
  coreference : ∀ coreference, config.coreference = some coreference → config.Resolves coreference

theorem forM_checkCategory_eq_ok_iff (place : CategoryUse) (names : List String) :
    names.forM (config.checkCategory place) = .ok () ↔ names ⊆ config.categories := by
  simp only [forM_eq_ok_iff, checkCategory_eq_ok_iff, List.subset_def]

theorem isDeclared_iff (name : String) :
    config.isDeclared name = true ↔ ∃ chunker, config.find? name = some chunker :=
  Option.isSome_iff_exists

theorem checkCategories_eq_ok_iff :
    config.checkCategories = .ok () ↔ config.categories ≠ [] ∧ config.categories.Nodup := by
  rw [← firstRepeated_eq_none_iff, checkCategories]
  split
  next empty => simp_all [refuse]
  next some => cases firstRepeated config.categories <;> simp_all [refuse]

theorem checkNames_eq_ok_iff :
    config.checkNames = .ok () ↔ (config.chunkers.map ChunkerConfig.name).Nodup := by
  rw [← firstRepeated_eq_none_iff, checkNames]
  cases firstRepeated (config.chunkers.map ChunkerConfig.name) <;> simp [refuse]

theorem checkFix_eq_ok_iff (place : CategoryUse) (fix : Fix) :
    config.checkFix place fix = .ok () ↔ fix.categories ⊆ config.categories := by
  cases fix with
  | followedBy categories words => exact config.forM_checkCategory_eq_ok_iff place categories
  | categoryFilter keep => exact config.forM_checkCategory_eq_ok_iff place keep
  | minLength least => simp [checkFix, Fix.categories]

theorem find?_not_eq_none_iff {α : Type} (holds : α → Bool) (list : List α) :
    (list.find? fun a => !holds a) = none ↔ ∀ a ∈ list, holds a = true := by
  simp

theorem checkChunker_eq_ok_iff (chunker : ChunkerConfig) :
    config.checkChunker chunker = .ok () ↔ config.Declares chunker.kind := by
  unfold checkChunker Declares
  cases chunker.kind with
  | dictionary entries path caseSensitive => exact config.forM_checkCategory_eq_ok_iff _ _
  | union members =>
    simp only [← isDeclared_iff, ← find?_not_eq_none_iff]
    cases members.find? fun member => !config.isDeclared member <;> simp [refuse]
  | fix base fixes =>
    simp only [← isDeclared_iff, ← config.checkFix_eq_ok_iff (.chunker chunker.name),
      ← forM_eq_ok_iff]
    cases config.isDeclared base <;> simp [refuse]

theorem checkCycles_eq_ok_iff :
    config.checkCycles = .ok () ↔
      ∀ chunker ∈ config.chunkers, ∃ order, config.dependencyOrder chunker.name = .ok order := by
  simp only [checkCycles, forM_eq_ok_iff, bind_eq_ok_iff, pure, Except.pure, and_true]

theorem checkTarget_eq_ok_iff :
    config.checkTarget = .ok () ↔
      ∀ name, config.chunker = some name → ∃ chunker, config.find? name = some chunker := by
  simp only [← isDeclared_iff]
  unfold checkTarget
  cases config.chunker with
  | none => simp
  | some name => cases config.isDeclared name <;> simp [refuse]

theorem checkMerge_eq_ok_iff :
    config.checkMerge = .ok () ↔ ∀ priority, config.mergePriority = some priority →
      priority ≠ [] ∧ priority ⊆ config.categories := by
  unfold checkMerge
  cases config.mergePriority with
  | none => simp
  | some priority =>
    simp only [Option.some.injEq, forall_eq', ← config.forM_checkCategory_eq_ok_iff .merge]
    cases priority <;> simp [refuse]

theorem checkWeights_eq_ok_iff (coreference : CoreferenceConfig) :
    checkWeights coreference = .ok () ↔ (coreference.classifier.modelPath = none →
      ∀ column ∈ coreference.classifier.weights.map Prod.fst,
        featureOfColumn column ∈ coreference.features) := by
  unfold checkWeights
  cases coreference.classifier.modelPath with
  | some path => simp
  | none =>
    have known := find?_not_eq_none_iff
      (fun column => coreference.features.contains (featureOfColumn column))
      (coreference.classifier.weights.map Prod.fst)
    simp only [List.contains_iff_mem] at known
    rw [forall_prop_of_true rfl, ← known]
    cases (coreference.classifier.weights.map Prod.fst).find? fun column =>
      !coreference.features.contains (featureOfColumn column) <;> simp [refuse]

theorem compile_eq_ok_iff (pattern : String) :
    (do
      let _ ← Pattern.compile pattern
      return ()) = Except.ok () ↔ ∃ compiled, Pattern.compile pattern = .ok compiled := by
  simp only [bind_eq_ok_iff, pure, Except.pure, and_true]

theorem checkResolver_eq_ok_iff (coreference : CoreferenceConfig) :
    config.checkResolver coreference = .ok () ↔ config.Resolves coreference := by
  have started : config.checkResolver coreference = .ok () ↔
      coreference.patterns ≠ [] ∧
        (∀ pattern ∈ coreference.patterns, ∃ compiled, Pattern.compile pattern = .ok compiled) ∧
        ∃ set, (FeatureRegistry.builtin config.categories).select coreference.features = .ok set ∧
          (if set.input = .clusterMention then checkWeights coreference
            else refuse .coreferenceInput) = .ok () := by
    unfold checkResolver
    simp only [← compile_eq_ok_iff, ← forM_eq_ok_iff]
    cases coreference.patterns with
    | nil => simp [refuse, bind, Except.bind]
    | cons first rest =>
      simp only [List.isEmpty_cons, Bool.false_eq_true, if_false, ne_eq, reduceCtorEq,
        not_false_eq_true, true_and]
      rw [check_bind_eq_ok_iff, bind_eq_ok_iff]
  rw [started]
  constructor
  · rintro ⟨some, readable, set, selected, kind⟩
    split at kind
    next suited =>
      exact ⟨some, readable, ⟨set, selected, suited⟩, (checkWeights_eq_ok_iff coreference).mp kind⟩
    next => simp [refuse] at kind
  · rintro ⟨some, readable, ⟨set, selected, suited⟩, weights⟩
    refine ⟨some, readable, set, selected, ?_⟩
    rw [if_pos suited]
    exact (checkWeights_eq_ok_iff coreference).mpr weights

theorem checkCoreference_eq_ok_iff :
    config.checkCoreference = .ok () ↔
      ∀ coreference, config.coreference = some coreference → config.Resolves coreference := by
  unfold checkCoreference
  cases config.coreference with
  | none => simp
  | some coreference => simp [checkResolver_eq_ok_iff]

theorem validate_eq_ok_iff : config.validate = .ok () ↔ config.Accepted := by
  simp only [validate, check_bind_eq_ok_iff, forM_eq_ok_iff, checkCategories_eq_ok_iff,
    checkNames_eq_ok_iff, checkChunker_eq_ok_iff, checkCycles_eq_ok_iff, checkTarget_eq_ok_iff,
    checkMerge_eq_ok_iff, checkCoreference_eq_ok_iff]
  constructor
  · rintro ⟨⟨nonempty, categories⟩, names, chunkers, orders, target, merge, coreference⟩
    exact ⟨nonempty, categories, names, chunkers, orders, target, merge, coreference⟩
  · rintro ⟨nonempty, categories, names, chunkers, orders, target, merge, coreference⟩
    exact ⟨⟨nonempty, categories⟩, names, chunkers, orders, target, merge, coreference⟩

-- What the stages need.

structure NamesNoFile : Prop where
  dictionaries : ∀ chunker ∈ config.chunkers, ∀ entries path caseSensitive,
    chunker.kind = .dictionary entries path caseSensitive → path = none
  model : ∀ coreference, config.coreference = some coreference →
    coreference.classifier.modelPath = none

namespace Accepted

variable {config} (accepted : config.Accepted)

include accepted

theorem readsInline (inline : ∀ chunker ∈ config.chunkers, ∀ entries path caseSensitive,
    chunker.kind = .dictionary entries path caseSensitive → path = none) :
    config.ReadsDictionaries files := by
  intro chunker declared entries path caseSensitive kind
  obtain rfl := inline chunker declared entries path caseSensitive kind
  have listed : entries.map Prod.fst ⊆ config.categories := by
    simpa only [kind, Declares] using accepted.chunkers chunker declared
  refine ⟨_, (config.buildDictionary_eq_ok_iff files _ _ _ _ _).mpr ⟨_, rfl, rfl, ?_⟩⟩
  exact Dictionary.addEntries_categories _ entries config.categories listed (List.nil_subset _)

theorem readsDictionaries (alone : config.NamesNoFile) : config.ReadsDictionaries files :=
  accepted.readsInline files alone.dictionaries

theorem targetOrder (target : String) (named : config.target? = some target) :
    ∃ order, config.dependencyOrder target = .ok order := by
  unfold target? at named
  cases chosen : config.chunker with
  | some name =>
    obtain rfl : name = target := by simpa [chosen] using named
    obtain ⟨chunker, found⟩ := accepted.target name chosen
    obtain ⟨declared, rfl⟩ := config.mem_chunkers_of_find? name chunker found
    exact accepted.orders chunker declared
  | none =>
    obtain ⟨chunker, last, rfl⟩ : ∃ chunker, config.chunkers.getLast? = some chunker ∧
        chunker.name = target := by
      simpa [chosen] using named
    exact accepted.orders chunker (List.mem_of_getLast? last)

end Accepted

end Configuration

theorem Merger.ofPriority_succeeds_iff (priority : List String) (nonempty : priority ≠ []) :
    (∃ merger, Merger.ofPriority priority = .ok merger) ↔ priority.Nodup := by
  rw [← firstRepeated_eq_none_iff]
  unfold Merger.ofPriority
  cases firstRepeated priority <;> simp [nonempty]

theorem MentionSelector.ofPatterns_succeeds_iff (patterns : List String) (nonempty : patterns ≠ []) :
    (∃ selector, MentionSelector.ofPatterns patterns = .ok selector) ↔
      ∀ pattern ∈ patterns, ∃ compiled, Pattern.compileWhole pattern = .ok compiled := by
  rw [← mapM_succeeds_iff]
  unfold MentionSelector.ofPatterns
  simp only [List.isEmpty_iff, nonempty, if_false]
  cases patterns.mapM Pattern.compileWhole <;> simp [bind, Except.bind, pure, Except.pure]

namespace Pipeline

variable (config : Configuration) (files : Files)

theorem buildResolver_succeeds_iff (coreference : CoreferenceConfig)
    (resolves : config.Resolves coreference) (alone : coreference.classifier.modelPath = none) :
    (∃ resolver, buildResolver config files coreference = .ok resolver) ↔
      ∀ pattern ∈ coreference.patterns, ∃ compiled, Pattern.compileWhole pattern = .ok compiled := by
  rw [← MentionSelector.ofPatterns_succeeds_iff coreference.patterns resolves.patterns]
  obtain ⟨set, selected, suited⟩ := resolves.features
  have joined (selector : MentionSelector) (classifier : Classifier) :
      Resolver.ofParts selector set classifier = .ok ⟨selector, set, classifier, none, suited⟩ :=
    dif_pos suited
  unfold buildResolver
  simp only [selected, ClassifierConfig.build, alone]
  cases MentionSelector.ofPatterns coreference.patterns <;>
    simp [bind, Except.bind, pure, Except.pure, joined]

theorem ofConfiguration_succeeds_iff :
    (∃ pipeline, ofConfiguration config files = .ok pipeline) ↔
      config.validate = .ok () ∧ (∃ chunker, config.buildChunker files = .ok chunker) ∧
        (∀ priority, config.mergePriority = some priority →
          ∃ merger, Merger.ofPriority priority = .ok merger) ∧
        ∀ coreference, config.coreference = some coreference →
          ∃ resolver, buildResolver config files coreference = .ok resolver := by
  simp only [← option_mapM_succeeds_iff, ofConfiguration, bind_eq_ok_iff, pure, Except.pure,
    Except.ok.injEq]
  constructor
  · rintro ⟨_, _, valid, chunker, chunked, merger, merged, resolver, resolved, _⟩
    exact ⟨valid, ⟨chunker, chunked⟩, ⟨merger, merged⟩, resolver, resolved⟩
  · rintro ⟨valid, ⟨chunker, chunked⟩, ⟨merger, merged⟩, resolver, resolved⟩
    exact ⟨_, (), valid, chunker, chunked, merger, merged, resolver, resolved, rfl⟩

/-- An accepted configuration without files can be built unless a category stands twice in the
priority list or a pattern cannot be read as one for whole categories. -/
theorem accepted_builds_iff (alone : config.NamesNoFile) (valid : config.validate = .ok ()) :
    (∃ pipeline, ofConfiguration config files = .ok pipeline) ↔
      (∀ priority, config.mergePriority = some priority → priority.Nodup) ∧
        ∀ coreference, config.coreference = some coreference →
          ∀ pattern ∈ coreference.patterns,
            ∃ compiled, Pattern.compileWhole pattern = .ok compiled := by
  have accepted := config.validate_eq_ok_iff.mp valid
  have chunked := config.buildChunker_succeeds files (accepted.readsDictionaries files alone)
    accepted.targetOrder
  rw [ofConfiguration_succeeds_iff, and_iff_right valid, and_iff_right chunked]
  refine and_congr ?_ ?_
  · refine forall₂_congr fun priority given => ?_
    exact Merger.ofPriority_succeeds_iff priority (accepted.merge priority given).1
  · refine forall₂_congr fun coreference given => ?_
    exact buildResolver_succeeds_iff config files coreference
      (accepted.coreference coreference given) (alone.model coreference given)

theorem standard_builds :
    ∃ pipeline, ofConfiguration .standard (fun _ => none) = .ok pipeline := by
  have alone : Configuration.standard.NamesNoFile := by
    constructor
    · intro chunker declared
      exact absurd declared List.not_mem_nil
    · rintro _ ⟨⟩
      rfl
  refine (accepted_builds_iff .standard _ alone (by decide +kernel)).mpr ⟨?_, ?_⟩
  · rintro _ ⟨⟩
    decide +kernel
  · rintro _ ⟨⟩ pattern listed
    obtain rfl := List.mem_singleton.mp listed
    have readable : (Pattern.compileWhole "PERSON").toBool = true := by decide +kernel
    cases compiled : Pattern.compileWhole "PERSON" with
    | ok pattern => exact ⟨pattern, rfl⟩
    | error e => simp [compiled, Except.toBool] at readable

/-- The rules let a repeated category of the priority list through, and the merger does not. -/
def doubledPriority : Configuration where
  categories := ["PERSON"]
  chunkers := []
  chunker := none
  mergePriority := some ["PERSON", "PERSON"]
  coreference := none

theorem doubledPriority_accepted_not_built :
    doubledPriority.NamesNoFile ∧ doubledPriority.validate = .ok () ∧
      ofConfiguration doubledPriority (fun _ => none) =
        .error (.config (.repeatedPriority "PERSON")) :=
  ⟨⟨by simp [doubledPriority], by simp [doubledPriority]⟩, by decide, rfl⟩

end Pipeline

end SpanAnnotation
