import SpanAnnotation.Feature.Builtin
import SpanAnnotation.Proofs.NameIndex
import SpanAnnotation.Proofs.Outcome

/-!
Registering features and selecting them by name. The index of a registry stays in step with its
features. Names make a set exactly when there is at least one, each of them is registered and all of
them take the same input; the set has the features that they find, in order.
-/

set_option autoImplicit false

namespace SpanAnnotation.FeatureRegistry

variable (registry : FeatureRegistry)

-- Registering.

/-- The index has every feature under its name, and nothing else. -/
def InStep : Prop := Indexes registry.index registry.names

theorem empty_inStep : empty.InStep := .nil

@[simp] theorem push_names (feature : Feature) :
    (registry.push feature).names = registry.names ++ [feature.name] := by
  simp [push, names]

/-- A feature is added at the end or changes nothing. -/
theorem register_eq (feature : Feature) :
    registry.register feature =
      if registry.contains feature.name then
        (registry, .error (.config (.repeatedFeature feature.name)))
      else if feature.output.accepts feature.output.defaultValue then
        (registry.push feature, .ok ())
      else
        (registry, .error (.config
          (.defaultOutsideValues feature.name feature.output.defaultValue.text))) := by
  unfold register
  cases feature.output <;> rfl

variable {registry}

theorem InStep.contains_iff (inStep : registry.InStep) (name : String) :
    registry.contains name = true ↔ name ∈ registry.names :=
  inStep.lookup_isSome_iff name

theorem InStep.push (inStep : registry.InStep) (feature : Feature)
    (new : feature.name ∉ registry.names) : (registry.push feature).InStep := by
  have indexes := Indexes.push inStep feature.name new
  rwa [names, List.length_map, ← names, ← push_names] at indexes

theorem InStep.register (inStep : registry.InStep) (feature : Feature) :
    (registry.register feature).1.InStep := by
  rw [register_eq]
  split
  next => exact inStep
  next unknown =>
    split
    next =>
      rw [inStep.contains_iff] at unknown
      exact inStep.push feature unknown
    next => exact inStep

theorem InStep.registerAll (inStep : registry.InStep) (offered : List Feature) :
    (registry.registerAll offered).InStep := by
  induction offered generalizing registry with
  | nil => exact inStep
  | cons feature rest ih => exact ih (inStep.register feature)

/-- Features of different names that have their defaults are all registered. -/
theorem InStep.registerAll_features (inStep : registry.InStep) (offered : List Feature)
    (distinct : (registry.names ++ offered.map Feature.name).Nodup)
    (legal : ∀ feature ∈ offered, feature.output.accepts feature.output.defaultValue = true) :
    (registry.registerAll offered).features = registry.features ++ offered := by
  induction offered generalizing registry with
  | nil => rw [FeatureRegistry.registerAll, List.append_nil]
  | cons feature rest ih =>
    have new : feature.name ∉ registry.names := fun known =>
      List.disjoint_of_nodup_append distinct known (by simp)
    have unknown : registry.contains feature.name = false := by
      rw [← Bool.not_eq_true, inStep.contains_iff]
      exact new
    have added : registry.register feature = (registry.push feature, .ok ()) := by
      simp [register_eq, unknown, legal feature (by simp)]
    have later := ih (inStep.push feature new) (by simpa using distinct)
      fun other present => legal other (List.mem_cons_of_mem feature present)
    rw [FeatureRegistry.registerAll, added, later, FeatureRegistry.push, List.append_assoc]
    rfl

theorem InStep.find?_eq_some_iff (inStep : registry.InStep) (name : String) (feature : Feature) :
    registry.find? name = some feature ↔ feature ∈ registry.features ∧ feature.name = name := by
  have places (place : Nat) : registry.index.lookup name = some place ↔
      ∃ there, registry.features[place]? = some there ∧ there.name = name := by
    rw [inStep name place, names, List.getElem?_map, Option.map_eq_some_iff]
  simp only [find?, Option.bind_eq_some_iff, places, List.mem_iff_getElem?]
  constructor
  next =>
    rintro ⟨place, ⟨there, here, named⟩, found⟩
    obtain rfl : there = feature := Option.some.inj (here.symm.trans found)
    exact ⟨⟨place, found⟩, named⟩
  next =>
    rintro ⟨⟨place, found⟩, named⟩
    exact ⟨place, ⟨feature, found, named⟩, found⟩

variable (registry)

theorem get_eq_ok_iff (name : String) (feature : Feature) :
    registry.get name = .ok feature ↔ registry.find? name = some feature := by
  unfold get
  cases registry.find? name <;> simp

-- Collecting.

theorem collect_finds (input : InputKind) (names : List String)
    (collected : { features : List Feature // ∀ f ∈ features, f.inputKind = input })
    (success : registry.collect input names = .ok collected) :
    collected.val.map some = names.map registry.find? := by
  induction names generalizing collected with
  | nil =>
    rw [collect] at success
    cases success
    rfl
  | cons name rest ih =>
    simp only [collect, bind_eq_ok_iff, get_eq_ok_iff] at success
    obtain ⟨feature, found, success⟩ := success
    by_cases same : feature.inputKind = input
    next =>
      rw [dif_pos same, bind_eq_ok_iff] at success
      obtain ⟨others, later, joined⟩ := success
      cases joined
      simp [found, ih others later]
    next =>
      rw [dif_neg same] at success
      cases success

theorem collect_succeeds (input : InputKind) (names : List String)
    (suited : ∀ name ∈ names, ∃ feature, registry.find? name = some feature ∧
      feature.inputKind = input) :
    ∃ collected, registry.collect input names = .ok collected := by
  induction names with
  | nil => exact ⟨_, rfl⟩
  | cons name rest ih =>
    obtain ⟨⟨feature, found, same⟩, others⟩ := List.forall_mem_cons.mp suited
    obtain ⟨collected, later⟩ := ih others
    refine ⟨⟨feature :: collected.val, by simpa [same] using collected.property⟩, ?_⟩
    have first : registry.get name = .ok feature := (registry.get_eq_ok_iff name feature).mpr found
    simp only [collect, first, later, bind, Except.bind, dif_pos same]
    rfl

-- Selecting.

theorem select_finds (names : List String) (set : FeatureSet)
    (success : registry.select names = .ok set) :
    set.features.map some = names.map registry.find? := by
  cases names with
  | nil => cases success
  | cons first rest =>
    simp only [select, bind_eq_ok_iff] at success
    obtain ⟨leader, _, collected, found, joined⟩ := success
    cases joined
    exact registry.collect_finds _ _ collected found

variable {registry}

theorem InStep.names_eq_of_finds (inStep : registry.InStep) (features : List Feature) (names : List String)
    (finds : features.map some = names.map registry.find?) :
    features.map Feature.name = names := by
  induction names generalizing features with
  | nil => simpa using finds
  | cons name rest ih =>
    cases features with
    | nil => cases finds
    | cons feature others =>
      obtain ⟨found, later⟩ := List.cons.inj finds
      have same : feature.name = name := ((inStep.find?_eq_some_iff name feature).mp found.symm).2
      rw [List.map_cons, same, ih others later]

theorem InStep.subset_of_finds (inStep : registry.InStep) (features : List Feature)
    (names : List String) (finds : features.map some = names.map registry.find?) :
    features ⊆ registry.features := by
  intro feature present
  have there : some feature ∈ names.map registry.find? := finds ▸ List.mem_map_of_mem present
  obtain ⟨name, _, found⟩ := List.mem_map.mp there
  exact ((inStep.find?_eq_some_iff name feature).mp found).1

variable (registry)

theorem select_succeeds_iff (names : List String) (input : InputKind) :
    (∃ set, registry.select names = .ok set ∧ set.input = input) ↔
      names ≠ [] ∧ ∀ name ∈ names, ∃ feature, registry.find? name = some feature ∧
        feature.inputKind = input := by
  constructor
  next =>
    rintro ⟨set, success, rfl⟩
    have finds := registry.select_finds names set success
    constructor
    next =>
      rintro rfl
      cases success
    next =>
      intro name listed
      have there : registry.find? name ∈ set.features.map some := finds ▸ List.mem_map_of_mem listed
      obtain ⟨feature, present, found⟩ := List.mem_map.mp there
      exact ⟨feature, found.symm, set.uniform feature present⟩
  next =>
    rintro ⟨some, suited⟩
    cases names with
    | nil => exact absurd rfl some
    | cons first rest =>
      obtain ⟨leader, found, rfl⟩ := suited first (by simp)
      obtain ⟨collected, all⟩ := registry.collect_succeeds leader.inputKind (first :: rest) suited
      have led : registry.get first = .ok leader := (registry.get_eq_ok_iff first leader).mpr found
      refine ⟨⟨leader.inputKind, collected.val, collected.property⟩, ?_, rfl⟩
      simp only [select, led, all, bind, Except.bind]
      rfl

-- The features that come with the library.

theorem builtin_inStep (categories : List String) : (builtin categories).InStep :=
  empty_inStep.registerAll _

/-- Every default is among the values of its feature; only the second feature depends on the
categories. -/
theorem builtin_legal (categories : List String) :
    ∀ feature ∈ Builtin.features categories,
      feature.output.accepts feature.output.defaultValue = true := by
  have category : (Builtin.annotationCategory categories).output.accepts
      (.enumerated Builtin.otherValue) = true :=
    List.contains_iff_mem.mpr (List.mem_append_right _ (List.mem_singleton_self _))
  have others : ∀ feature ∈ (Builtin.features []).drop 2,
      feature.output.accepts feature.output.defaultValue = true := by decide
  intro feature present
  obtain rfl | rfl | later : feature = Builtin.annotationLength ∨
      feature = Builtin.annotationCategory categories ∨ feature ∈ (Builtin.features []).drop 2 := by
    simpa [Builtin.features] using present
  next => rfl
  next => exact category
  next => exact others feature later

theorem builtin_features (categories : List String) :
    (builtin categories).features = Builtin.features categories := by
  have distinct : ((Builtin.features []).map Feature.name).Nodup := by decide
  exact empty_inStep.registerAll_features _ distinct (builtin_legal categories)

end SpanAnnotation.FeatureRegistry
