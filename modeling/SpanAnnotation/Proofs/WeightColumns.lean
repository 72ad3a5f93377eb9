import Mathlib.Data.List.TakeWhile
import SpanAnnotation.Proofs.ChunkerMeaning
import SpanAnnotation.Proofs.Construction
import SpanAnnotation.Proofs.FeatureColumns

/-!
Weights and the columns that they are meant for. The rules look at a key up to its first equals sign
only, where a selected feature has to stand. Every column is named like that; what is named like that
and is no column weighs nothing.
-/

set_option autoImplicit false

namespace SpanAnnotation

-- Names of columns.

theorem takeWhile_ne_eq_iff (separator : Char) (cs start : List Char) :
    cs.takeWhile (· != separator) = start ↔
      separator ∉ start ∧ (cs = start ∨ ∃ rest, cs = start ++ separator :: rest) := by
  constructor
  next =>
    rintro rfl
    refine ⟨fun present => by simpa using List.mem_takeWhile_imp present, ?_⟩
    have parts := cs.takeWhile_append_dropWhile (p := (· != separator))
    have first := cs.head?_dropWhile_not (· != separator)
    cases after : cs.dropWhile (· != separator) with
    | nil => exact .inl (by simpa [after] using parts.symm)
    | cons c rest =>
      obtain rfl : c = separator := by simpa [after] using first
      exact .inr ⟨rest, (after ▸ parts).symm⟩
  next =>
    rintro ⟨free, parts⟩
    have others : ∀ c ∈ start, (c != separator) = true := fun c present => by
      simpa using fun same : c = separator => free (same ▸ present)
    rcases parts with rfl | ⟨rest, rfl⟩
    next => exact List.takeWhile_eq_self_iff.mpr others
    next => simp [List.takeWhile_append_of_pos others]

namespace Configuration

theorem featureOfColumn_eq_iff (key name : String) (plain : '=' ∉ name.toList) :
    featureOfColumn key = name ↔ key = name ∨ ∃ value, key = name ++ "=" ++ value := by
  rw [featureOfColumn, ← String.toList_inj, String.toList_ofList, takeWhile_ne_eq_iff,
    and_iff_right plain, String.toList_inj]
  refine or_congr_right ⟨fun ⟨rest, parts⟩ => ⟨String.ofList rest, ?_⟩, fun ⟨value, parts⟩ => ?_⟩
  next =>
    rw [← String.toList_inj, parts]
    simp
  next => exact ⟨value.toList, by simp [parts]⟩

end Configuration

-- Other weights.

def CoreferenceConfig.weighing (coreference : CoreferenceConfig) (weights : Weights) :
    CoreferenceConfig :=
  { coreference with classifier := { coreference.classifier with weights := weights } }

namespace Configuration

/-- The configuration with other weights. -/
def weighing (config : Configuration) (weights : Weights) : Configuration :=
  { config with coreference := config.coreference.map fun coreference =>
      coreference.weighing weights }

variable (config : Configuration) (coreference : CoreferenceConfig) (weights : Weights)

theorem dependencyOrder_weighing (name : String) :
    (config.weighing weights).dependencyOrder name = config.dependencyOrder name := by
  rw [dependencyOrder, dependencyOrder, config.visit_congr (config.weighing weights) rfl]
  rfl

theorem checkResolver_weighing (resolves : config.Resolves coreference) :
    (config.weighing weights).checkResolver (coreference.weighing weights) =
      checkWeights (coreference.weighing weights) := by
  obtain ⟨set, selected, suited⟩ := resolves.features
  have some : coreference.patterns.isEmpty = false := by simpa using resolves.patterns
  have readable := (forM_eq_ok_iff (fun pattern => do
    let _ ← Pattern.compile pattern
    return ()) coreference.patterns).mpr fun pattern listed =>
      (compile_eq_ok_iff pattern).mpr (resolves.readable pattern listed)
  have categories : (config.weighing weights).categories = config.categories := rfl
  have patterns : (coreference.weighing weights).patterns = coreference.patterns := rfl
  have features : (coreference.weighing weights).features = coreference.features := rfl
  simp only [checkResolver, categories, patterns, features, some, readable, selected]
  simp [suited, bind, Except.bind]

/-- An accepted configuration has nothing but its weights checked when these are replaced. -/
theorem validate_weighing (given : config.coreference = some coreference)
    (valid : config.validate = .ok ()) :
    (config.weighing weights).validate = checkWeights (coreference.weighing weights) := by
  have resolves := (config.validate_eq_ok_iff.mp valid).coreference coreference given
  rw [← config.checkResolver_weighing coreference weights resolves]
  simp only [validate, check_bind_eq_ok_iff] at valid
  obtain ⟨categories, names, chunkers, cycles, target, merge, _⟩ := valid
  have categories : (config.weighing weights).checkCategories = .ok () := categories
  have names : (config.weighing weights).checkNames = .ok () := names
  have chunkers : (config.weighing weights).chunkers.forM
    (config.weighing weights).checkChunker = .ok () := chunkers
  have cycles : (config.weighing weights).checkCycles = .ok () := by
    rw [checkCycles_eq_ok_iff] at cycles ⊢
    simp only [config.dependencyOrder_weighing weights]
    exact cycles
  have target : (config.weighing weights).checkTarget = .ok () := target
  have merge : (config.weighing weights).checkMerge = .ok () := merge
  simp only [validate, categories, names, chunkers, cycles, target, merge]
  simp [checkCoreference, weighing, given, bind, Except.bind]

theorem checkWeights_fails (e : Error) (refused : checkWeights coreference = .error e) :
    ∃ column ∈ coreference.classifier.weights.map Prod.fst,
      featureOfColumn column ∉ coreference.features ∧ e = .config (.unknownColumn column) := by
  unfold checkWeights at refused
  split at refused
  next => simp at refused
  next =>
    split at refused
    next column found =>
      cases refused
      have unknown := List.find?_some found
      exact ⟨column, List.mem_of_find?_eq_some found, by simpa using unknown, rfl⟩
    next => simp at refused

end Configuration

-- Columns of the built-in features.

namespace FeatureRegistry

theorem builtin_names_plain (categories : List String) :
    ∀ name ∈ (builtin categories).names, '=' ∉ name.toList := by
  have same : (builtin categories).names = (Builtin.features []).map Feature.name := by
    rw [names, builtin_features]
    rfl
  rw [same]
  decide +kernel

theorem builtin_defaults (categories : List String) :
    ∀ feature ∈ (builtin categories).features,
      feature.output.Has feature.output.defaultValue := by
  intro feature present
  rw [builtin_features] at present
  exact (ValueKind.accepts_iff _ _).mp (builtin_legal categories feature present)

end FeatureRegistry

theorem Feature.mem_columns_iff (feature : Feature) (key : String) :
    key ∈ feature.columns ↔
      match feature.output with
      | .enumeration values _ => ∃ value ∈ values, key = feature.name ++ "=" ++ value
      | _ => key = feature.name := by
  unfold columns
  cases feature.output <;> simp [eq_comm]

theorem Feature.featureOfColumn_of_mem (feature : Feature) (plain : '=' ∉ feature.name.toList)
    (key : String) (column : key ∈ feature.columns) :
    Configuration.featureOfColumn key = feature.name := by
  rw [Configuration.featureOfColumn_eq_iff key feature.name plain]
  rw [feature.mem_columns_iff] at column
  split at column
  next =>
    obtain ⟨value, _, named⟩ := column
    exact .inr ⟨value, named⟩
  next => exact .inl column

-- Weights of other keys.

theorem lookup_filter_key (weights : Weights) (keeps : String → Bool) (key : String)
    (kept : keeps key = true) :
    (weights.filter fun entry => keeps entry.1).lookup key = weights.lookup key := by
  induction weights with
  | nil => rfl
  | cons entry rest ih =>
    obtain ⟨name, weight⟩ := entry
    by_cases same : key = name
    next =>
      subst same
      simp [kept]
    next =>
      have other : (key == name) = false := by simpa using same
      cases here : keeps name <;> simp [List.lookup_cons, here, other, ih]

theorem FeatureVector.dot_filter (vector : FeatureVector) (weights : Weights)
    (columns : List String) (named : vector.toNumeric.map Prod.fst = columns) :
    vector.dot (weights.filter fun entry => columns.contains entry.1) = vector.dot weights := by
  apply List.foldl_ext
  intro sum column present
  have listed : columns.contains column.1 = true :=
    List.contains_iff_mem.mpr (named ▸ List.mem_map_of_mem present)
  rw [lookup_filter_key weights columns.contains column.1 listed]

namespace Configuration

variable (config : Configuration)

/-- The keys that the rules accept are the names of the selected features, by themselves or with
anything behind an equals sign. All columns are among them; the others weigh nothing, whatever is
compared. -/
theorem accepted_weights_name_features (coreference : CoreferenceConfig)
    (given : config.coreference = some coreference)
    (inline : coreference.classifier.modelPath = none) (valid : config.validate = .ok ()) :
    ∃ set, (FeatureRegistry.builtin config.categories).select coreference.features = .ok set ∧
      (∀ document mention cluster, ∃ vector,
        set.extract document (.clusterMention mention cluster) = .ok vector ∧
        vector.toNumeric.map Prod.fst = set.columns ∧
        ∀ weights : Weights, vector.dot weights =
          vector.dot (weights.filter fun entry => set.columns.contains entry.1)) ∧
      (∀ weights, (config.weighing weights).validate = .ok () ↔
        ∀ key ∈ weights.map Prod.fst, ∃ feature ∈ set.features,
          key = feature.name ∨ ∃ value, key = feature.name ++ "=" ++ value) ∧
      (∀ weights, (∀ key ∈ weights.map Prod.fst, key ∈ set.columns) →
        (config.weighing weights).validate = .ok ()) ∧
      (∀ weights e, (config.weighing weights).validate = .error e →
        ∃ key ∈ weights.map Prod.fst, key ∉ set.columns ∧ e = .config (.unknownColumn key)) ∧
      ∀ feature ∈ set.features, ∀ key,
        (key = feature.name ∨ ∃ value, key = feature.name ++ "=" ++ value) →
          (key ∈ set.columns ↔
            match feature.output with
            | .enumeration values _ => ∃ value ∈ values, key = feature.name ++ "=" ++ value
            | _ => key = feature.name) := by
  have resolves := (config.validate_eq_ok_iff.mp valid).coreference coreference given
  obtain ⟨set, selected, suited⟩ := resolves.features
  have finds := FeatureRegistry.select_finds _ _ set selected
  have inStep := FeatureRegistry.builtin_inStep config.categories
  have names := inStep.names_eq_of_finds set.features _ finds
  have known := inStep.subset_of_finds set.features _ finds
  have plain : ∀ feature ∈ set.features, '=' ∉ feature.name.toList := fun feature present =>
    FeatureRegistry.builtin_names_plain config.categories _ (List.mem_map_of_mem (known present))
  -- What the rules look for, said of the selected features.
  have named (key : String) : featureOfColumn key ∈ coreference.features ↔
      ∃ feature ∈ set.features, key = feature.name ∨ ∃ value, key = feature.name ++ "=" ++ value := by
    rw [← names, List.mem_map]
    refine exists_congr fun feature => and_congr_right fun present => ?_
    rw [eq_comm, featureOfColumn_eq_iff key feature.name (plain feature present)]
  have listed (key : String) (column : key ∈ set.columns) :
      featureOfColumn key ∈ coreference.features := by
    obtain ⟨feature, present, column⟩ := List.mem_flatMap.mp column
    rw [feature.featureOfColumn_of_mem (plain feature present) key column, ← names]
    exact List.mem_map_of_mem present
  have checked (weights : Weights) : (config.weighing weights).validate = .ok () ↔
      ∀ key ∈ weights.map Prod.fst, featureOfColumn key ∈ coreference.features := by
    rw [config.validate_weighing coreference weights given valid, checkWeights_eq_ok_iff]
    exact forall_prop_of_true inline
  refine ⟨set, selected, ?_, ?_, ?_, ?_, ?_⟩
  next =>
    intro document mention cluster
    obtain ⟨vector, extracted⟩ :=
      set.extract_succeeds document (.clusterMention mention cluster) suited
    have filled := set.extract_fills document _ vector (fun feature present =>
      FeatureRegistry.builtin_defaults config.categories feature (known present)) extracted
    have columns : vector.toNumeric.map Prod.fst = set.columns :=
      FeatureSet.toNumeric_columns set.features vector.cells filled
    exact ⟨vector, extracted, columns, fun weights => (vector.dot_filter weights _ columns).symm⟩
  next => exact fun weights => (checked weights).trans (forall₂_congr fun key _ => named key)
  next => exact fun weights all => (checked weights).mpr fun key there => listed key (all key there)
  next =>
    intro weights e refused
    rw [config.validate_weighing coreference weights given valid] at refused
    obtain ⟨key, there, unnamed, rfl⟩ := checkWeights_fails _ e refused
    exact ⟨key, there, fun column => unnamed (listed key column), rfl⟩
  next =>
    intro feature present key start
    rw [← feature.mem_columns_iff]
    refine ⟨fun column => ?_, fun column => List.mem_flatMap.mpr ⟨feature, present, column⟩⟩
    -- The column belongs to a feature of the same name, and names are given once.
    obtain ⟨other, there, column⟩ := List.mem_flatMap.mp column
    have same : other.name = feature.name := by
      rw [← other.featureOfColumn_of_mem (plain other there) key column]
      exact (featureOfColumn_eq_iff key feature.name (plain feature present)).mpr start
    rwa [← List.inj_on_of_nodup_map inStep.nodup (known there) (known present) same]

/-- A weight for a value of a feature that has no values to choose from. -/
def strayWeight : Configuration where
  categories := ["A"]
  chunkers := []
  chunker := none
  mergePriority := none
  coreference := some
    { patterns := ["A"]
      features := ["clustermention_cluster_size"]
      classifier := ⟨none, [("clustermention_cluster_size=x", 1.0)], 0.0⟩
      timeoutMs := none }

theorem strayWeight_names_feature :
    ∃ set, (FeatureRegistry.builtin ["A"]).select ["clustermention_cluster_size"] = .ok set ∧
      ∀ weights, (strayWeight.weighing weights).validate = .ok () ↔
        ∀ key ∈ weights.map Prod.fst, ∃ feature ∈ set.features,
          key = feature.name ∨ ∃ value, key = feature.name ++ "=" ++ value := by
  obtain ⟨set, selected, _, accepts, _⟩ :=
    accepted_weights_name_features strayWeight _ rfl rfl (by decide +kernel)
  exact ⟨set, selected, accepts⟩

theorem strayWeight_accepted_without_column :
    strayWeight.validate = .ok () ∧
      ∃ set, (FeatureRegistry.builtin ["A"]).select ["clustermention_cluster_size"] = .ok set ∧
        ∀ document mention cluster vector,
          set.extract document (.clusterMention mention cluster) = .ok vector →
            "clustermention_cluster_size=x" ∉ vector.toNumeric.map Prod.fst := by
  refine ⟨by decide +kernel, ⟨.clusterMention, [Builtin.clusterSize], by decide⟩, rfl, ?_⟩
  intro document mention cluster vector extracted
  cases extracted
  simp [FeatureVector.toNumeric, FeatureCell.numeric, Builtin.clusterSize]

end Configuration

end SpanAnnotation
