import SpanAnnotation.Proofs.Construction
import SpanAnnotation.Proofs.Dependencies
import SpanAnnotation.Proofs.FeatureSelection

/-!
Which configurations are accepted, said without the checks: what is named is declared, nothing is
declared twice, and no chunker is made of itself.
-/

set_option autoImplicit false

open Relation (ReflTransGen TransGen)

namespace SpanAnnotation

/-- The categories that a chunker names. -/
def ChunkerKind.categories : ChunkerKind → List String
  | .dictionary entries _ _ => entries.map Prod.fst
  | .union _ => []
  | .fix _ fixes => fixes.flatMap Fix.categories

structure CoreferenceConfig.WellFormed (coreference : CoreferenceConfig)
    (categories : List String) : Prop where
  patterns : coreference.patterns ≠ []
  readable : ∀ pattern ∈ coreference.patterns, ∃ compiled, Pattern.compile pattern = .ok compiled
  features : coreference.features ≠ []
  known : ∀ name ∈ coreference.features, ∃ feature ∈ Builtin.features categories,
    feature.name = name ∧ feature.inputKind = .clusterMention
  -- Weights of a model in a file are not looked at.
  weights : coreference.classifier.modelPath = none →
    ∀ column ∈ coreference.classifier.weights.map Prod.fst,
      Configuration.featureOfColumn column ∈ coreference.features

namespace Configuration

variable (config : Configuration)

def declaredNames : List String := config.chunkers.map ChunkerConfig.name

structure WellFormed : Prop where
  nonempty : config.categories ≠ []
  categories : config.categories.Nodup
  names : config.declaredNames.Nodup
  parts : ∀ chunker ∈ config.chunkers, chunker.dependencies ⊆ config.declaredNames
  target : ∀ name, config.chunker = some name → name ∈ config.declaredNames
  acyclic : ∀ name, ¬ TransGen config.Needs name name
  uses : ∀ chunker ∈ config.chunkers, chunker.kind.categories ⊆ config.categories
  merge : ∀ priority, config.mergePriority = some priority →
    priority ≠ [] ∧ priority ⊆ config.categories
  coreference : ∀ coreference, config.coreference = some coreference →
    coreference.WellFormed config.categories

theorem exists_find?_iff (name : String) :
    (∃ chunker, config.find? name = some chunker) ↔ name ∈ config.declaredNames := by
  constructor
  next =>
    rintro ⟨chunker, found⟩
    obtain ⟨declared, rfl⟩ := config.mem_chunkers_of_find? name chunker found
    exact List.mem_map_of_mem declared
  next =>
    intro declared
    obtain ⟨chunker, listed, same⟩ := List.mem_map.mp declared
    rw [← Option.isSome_iff_exists, find?, List.find?_isSome]
    exact ⟨chunker, listed, by simpa using same⟩

theorem declares_iff (chunker : ChunkerConfig) :
    config.Declares chunker.kind ↔
      chunker.dependencies ⊆ config.declaredNames ∧ chunker.kind.categories ⊆ config.categories := by
  unfold Declares ChunkerConfig.dependencies
  simp only [exists_find?_iff]
  cases chunker.kind with
  | dictionary entries path caseSensitive => simp [ChunkerKind.categories]
  | union members => simp [ChunkerKind.categories, List.subset_def]
  | fix base fixes =>
    simp only [ChunkerKind.categories, List.subset_def, List.mem_flatMap, List.mem_singleton,
      forall_eq, forall_exists_index, and_imp]
    refine and_congr_right fun _ => ⟨?_, ?_⟩
    · exact fun all _ fix listed present => all fix listed present
    · exact fun all fix listed _ present => all fix listed present

theorem orders_iff_acyclic
    (parts : ∀ chunker ∈ config.chunkers, chunker.dependencies ⊆ config.declaredNames) :
    (∀ chunker ∈ config.chunkers, ∃ order, config.dependencyOrder chunker.name = .ok order) ↔
      ∀ name, ¬ TransGen config.Needs name name := by
  simp only [dependencyOrder_succeeds_iff, exists_find?_iff]
  constructor
  next =>
    intro orders name around
    obtain ⟨part, ⟨chunker, found, _⟩, _⟩ := TransGen.head'_iff.mp around
    obtain ⟨declared, rfl⟩ := config.mem_chunkers_of_find? name chunker found
    exact (orders chunker declared _ .refl).2 around
  next =>
    intro acyclic chunker declared other reached
    refine ⟨?_, acyclic other⟩
    cases reached with
    | refl => exact List.mem_map_of_mem declared
    | tail _ needs =>
      obtain ⟨whole, found, part⟩ := needs
      exact parts whole (config.mem_chunkers_of_find? _ whole found).1 part

theorem resolves_iff (coreference : CoreferenceConfig) :
    config.Resolves coreference ↔ coreference.WellFormed config.categories := by
  have found (name : String) (feature : Feature) :
      (FeatureRegistry.builtin config.categories).find? name = some feature ↔
        feature ∈ Builtin.features config.categories ∧ feature.name = name := by
    rw [← FeatureRegistry.builtin_features]
    exact (FeatureRegistry.builtin_inStep config.categories).find?_eq_some_iff name feature
  have selected := FeatureRegistry.select_succeeds_iff
    (FeatureRegistry.builtin config.categories) coreference.features .clusterMention
  simp only [found, and_assoc] at selected
  constructor
  next =>
    intro resolves
    obtain ⟨some, known⟩ := selected.mp resolves.features
    exact ⟨resolves.patterns, resolves.readable, some, known, resolves.weights⟩
  next =>
    intro wellFormed
    exact ⟨wellFormed.patterns, wellFormed.readable,
      selected.mpr ⟨wellFormed.features, wellFormed.known⟩, wellFormed.weights⟩

theorem accepted_iff_wellFormed : config.Accepted ↔ config.WellFormed := by
  constructor
  next =>
    intro accepted
    have declares := fun chunker declared =>
      (config.declares_iff chunker).mp (accepted.chunkers chunker declared)
    have parts := fun chunker declared => (declares chunker declared).1
    exact
      { nonempty := accepted.nonempty
        categories := accepted.categories
        names := accepted.names
        parts := parts
        target := fun name given => (config.exists_find?_iff name).mp (accepted.target name given)
        acyclic := (config.orders_iff_acyclic parts).mp accepted.orders
        uses := fun chunker declared => (declares chunker declared).2
        merge := accepted.merge
        coreference := fun coreference given =>
          (config.resolves_iff coreference).mp (accepted.coreference coreference given) }
  next =>
    intro wellFormed
    exact
      { nonempty := wellFormed.nonempty
        categories := wellFormed.categories
        names := wellFormed.names
        chunkers := fun chunker declared => (config.declares_iff chunker).mpr
          ⟨wellFormed.parts chunker declared, wellFormed.uses chunker declared⟩
        orders := (config.orders_iff_acyclic wellFormed.parts).mpr wellFormed.acyclic
        target := fun name given =>
          (config.exists_find?_iff name).mpr (wellFormed.target name given)
        merge := wellFormed.merge
        coreference := fun coreference given =>
          (config.resolves_iff coreference).mpr (wellFormed.coreference coreference given) }

/-- The rules accept exactly the well-formed configurations, and no configuration makes the search
for cycles go deeper than there are chunkers. -/
theorem validate_accepts_wellFormed :
    (config.validate = .ok () ↔ config.WellFormed) ∧
      ∀ fuel name, config.chunkers.length < fuel →
        config.visit fuel [] [] name = config.dependencyOrder name :=
  ⟨config.validate_eq_ok_iff.trans config.accepted_iff_wellFormed,
    config.visit_eq_dependencyOrder⟩

end Configuration

end SpanAnnotation
