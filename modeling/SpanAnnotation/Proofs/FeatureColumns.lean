import Mathlib.Data.List.Forall2
import SpanAnnotation.Proofs.FeatureExtraction
import SpanAnnotation.Proofs.FeatureSelection

/-!
The layout of feature vectors. Whatever a feature computes, what stands in its cell is a value of
the declared type, because a registry only takes types that have their own default. The columns of
a set are therefore the same for all documents and inputs.
-/

set_option autoImplicit false

namespace SpanAnnotation

namespace ValueKind

def Has : ValueKind → FeatureValue → Prop
  | .bool, value => ∃ b, value = .bool b
  | .int, value => ∃ n, value = .int n
  | .float, value => ∃ x, value = .float x
  | .enumeration values _, value => ∃ s ∈ values, value = .enumerated s

theorem accepts_iff (kind : ValueKind) (value : FeatureValue) :
    kind.accepts value = true ↔ kind.Has value := by
  cases kind <;> cases value <;> simp [accepts, Has]

end ValueKind

namespace FeatureRegistry

-- Registries that come about by registering.

structure Consistent (registry : FeatureRegistry) : Prop where
  inStep : registry.InStep
  defaults : ∀ feature ∈ registry.features, feature.output.Has feature.output.defaultValue

section

variable {registry : FeatureRegistry} (feature : Feature)

theorem Consistent.register_accepted_iff (consistent : registry.Consistent) :
    (registry.register feature).2 = .ok () ↔
      feature.name ∉ registry.names ∧ feature.output.Has feature.output.defaultValue := by
  rw [register_eq, ← ValueKind.accepts_iff, ← consistent.inStep.contains_iff]
  by_cases known : registry.contains feature.name = true
  next => simp [known]
  next =>
    by_cases legal : feature.output.accepts feature.output.defaultValue = true <;>
      simp [known, legal]

theorem register_of_accepted (accepted : (registry.register feature).2 = .ok ()) :
    (registry.register feature).1 = registry.push feature := by
  rw [register_eq] at accepted ⊢
  split at accepted
  next => cases accepted
  next unknown =>
    split at accepted
    next legal => rw [if_neg unknown, if_pos legal]
    next => cases accepted

theorem register_of_refused (e : Error) (refused : (registry.register feature).2 = .error e) :
    (registry.register feature).1 = registry := by
  rw [register_eq] at refused ⊢
  split at refused
  next known => rw [if_pos known]
  next unknown =>
    split at refused
    next => cases refused
    next illegal => rw [if_neg unknown, if_neg illegal]

theorem Consistent.register (consistent : registry.Consistent) :
    (registry.register feature).1.Consistent := by
  cases outcome : (registry.register feature).2 with
  | ok =>
    have legal := ((consistent.register_accepted_iff feature).mp outcome).2
    constructor
    next => exact consistent.inStep.register feature
    next =>
      rw [register_of_accepted feature outcome]
      exact List.forall_mem_append.mpr ⟨consistent.defaults, by simpa using legal⟩
  | error e => rwa [register_of_refused feature e outcome]

theorem Consistent.registerAll (consistent : registry.Consistent) (offered : List Feature) :
    (registry.registerAll offered).Consistent := by
  induction offered generalizing registry with
  | nil => exact consistent
  | cons feature rest ih => exact ih (consistent.register feature)

theorem Consistent.mem_register_names_iff (consistent : registry.Consistent) (name : String) :
    name ∈ (registry.register feature).1.names ↔
      name ∈ registry.names ∨
        feature.name = name ∧ feature.output.Has feature.output.defaultValue := by
  cases outcome : (registry.register feature).2 with
  | ok =>
    have legal := ((consistent.register_accepted_iff feature).mp outcome).2
    simp [register_of_accepted feature outcome, legal, eq_comm]
  | error e =>
    rw [register_of_refused feature e outcome]
    constructor
    next => exact .inl
    next =>
      rintro (known | ⟨rfl, legal⟩)
      next => exact known
      next =>
        -- A legal feature is refused only because its name is taken.
        by_contra unknown
        have accepted := (consistent.register_accepted_iff feature).mpr ⟨unknown, legal⟩
        cases outcome.symm.trans accepted

end

theorem Consistent.mem_registerAll_names_iff {registry : FeatureRegistry}
    (consistent : registry.Consistent) (offered : List Feature) (name : String) :
    name ∈ (registry.registerAll offered).names ↔
      name ∈ registry.names ∨ ∃ feature ∈ offered,
        feature.name = name ∧ feature.output.Has feature.output.defaultValue := by
  induction offered generalizing registry with
  | nil => simp [FeatureRegistry.registerAll]
  | cons feature rest ih =>
    rw [FeatureRegistry.registerAll, ih (consistent.register feature),
      consistent.mem_register_names_iff]
    simp [or_assoc]

/-- What is registered when features are offered in turn; a refused one changes nothing. -/
def registered (offered : List Feature) : FeatureRegistry := empty.registerAll offered

theorem registered_consistent (offered : List Feature) : (registered offered).Consistent :=
  Consistent.registerAll ⟨empty_inStep, by simp [empty]⟩ offered

/-- Features stand under their names, and registering one more adds it at the end or changes
nothing. -/
structure IsCatalogue (registry : FeatureRegistry) : Prop where
  places : ∀ name place, registry.index.lookup name = some place ↔
    ∃ feature, registry.features[place]? = some feature ∧ feature.name = name
  found : ∀ name feature, registry.get name = .ok feature ↔
    feature ∈ registry.features ∧ feature.name = name
  accepted : ∀ feature, (registry.register feature).2 = .ok () ↔
    feature.name ∉ registry.names ∧ feature.output.Has feature.output.defaultValue
  added : ∀ feature, (registry.register feature).2 = .ok () →
    (registry.register feature).1.features = registry.features ++ [feature]
  kept : ∀ feature e, (registry.register feature).2 = .error e →
    (registry.register feature).1 = registry

theorem Consistent.isCatalogue {registry : FeatureRegistry} (consistent : registry.Consistent) :
    registry.IsCatalogue where
  places name place := by
    rw [consistent.inStep name place, names, List.getElem?_map, Option.map_eq_some_iff]
  found name feature := by rw [get_eq_ok_iff, consistent.inStep.find?_eq_some_iff]
  accepted := consistent.register_accepted_iff
  added feature accepted := by rw [register_of_accepted feature accepted, push]
  kept := register_of_refused

end FeatureRegistry

-- Cells.

namespace Feature

structure Fills (feature : Feature) (cell : FeatureCell) : Prop where
  name : cell.name = feature.name
  kind : cell.kind = feature.output
  value : feature.output.Has cell.value

theorem settle_has (output : ValueKind) (legal : output.Has output.defaultValue)
    (computed : Option FeatureValue) : output.Has (settle output computed) := by
  cases computed with
  | none => exact legal
  | some value =>
    simp only [settle]
    by_cases accepted : output.accepts value = true
    · rw [if_pos accepted]
      exact (output.accepts_iff value).mp accepted
    · rwa [if_neg accepted]

theorem evaluate_has (feature : Feature) (legal : feature.output.Has feature.output.defaultValue)
    (document : Document) (input : FeatureInput) (value : FeatureValue)
    (success : feature.evaluate document input = .ok value) : feature.output.Has value := by
  unfold evaluate at success
  split at success
  case h_4 => cases success
  all_goals
    cases success
    exact settle_has _ legal _

theorem evaluate_fails (feature : Feature) (document : Document) (input : FeatureInput)
    (unsuited : feature.inputKind ≠ input.kind) :
    feature.evaluate document input =
      .error (.config (.wrongInput feature.name feature.inputKind input.kind)) := by
  obtain ⟨name, output, computation⟩ := feature
  cases computation <;> cases input <;> first | rfl | exact absurd rfl unsuited

end Feature

namespace FeatureSet

theorem cellsOf_fills (document : Document) (input : FeatureInput) (features : List Feature)
    (cells : List FeatureCell)
    (legal : ∀ feature ∈ features, feature.output.Has feature.output.defaultValue)
    (success : cellsOf document input features = .ok cells) :
    List.Forall₂ Feature.Fills features cells := by
  induction features generalizing cells with
  | nil =>
    cases success
    exact .nil
  | cons feature rest ih =>
    obtain ⟨first, others⟩ := List.forall_mem_cons.mp legal
    simp only [cellsOf, bind_eq_ok_iff] at success
    obtain ⟨value, evaluated, tail, later, joined⟩ := success
    cases joined
    exact .cons ⟨rfl, rfl, feature.evaluate_has first document input value evaluated⟩
      (ih tail others later)

theorem extract_fills (set : FeatureSet) (document : Document) (input : FeatureInput)
    (vector : FeatureVector)
    (legal : ∀ feature ∈ set.features, feature.output.Has feature.output.defaultValue)
    (success : set.extract document input = .ok vector) :
    List.Forall₂ Feature.Fills set.features vector.cells := by
  obtain ⟨cells, found, joined⟩ := (bind_eq_ok_iff _ _ _).mp success
  cases joined
  exact cellsOf_fills document input set.features cells legal found

theorem extract_fails (set : FeatureSet) (document : Document) (input : FeatureInput)
    (feature : Feature) (rest : List Feature) (listed : set.features = feature :: rest)
    (unsuited : input.kind ≠ set.input) :
    set.extract document input =
      .error (.config (.wrongInput feature.name set.input input.kind)) := by
  have same : feature.inputKind = set.input := set.uniform feature (by simp [listed])
  have failed := feature.evaluate_fails document input (by rw [same]; exact unsuited.symm)
  simp only [extract, listed, cellsOf, failed, same, bind, Except.bind]

theorem cells_names (features : List Feature) (cells : List FeatureCell)
    (filled : List.Forall₂ Feature.Fills features cells) :
    cells.map FeatureCell.name = features.map Feature.name := by
  induction filled with
  | nil => rfl
  | cons fills _ ih => simp [fills.name, ih]

theorem cells_have (features : List Feature) (cells : List FeatureCell)
    (filled : List.Forall₂ Feature.Fills features cells) :
    ∀ cell ∈ cells, cell.kind.Has cell.value := by
  induction filled with
  | nil => simp
  | cons fills _ ih => exact List.forall_mem_cons.mpr ⟨fills.kind ▸ fills.value, ih⟩

end FeatureSet

-- Numeric columns.

def Feature.columns (feature : Feature) : List String :=
  match feature.output with
  | .enumeration values _ => values.map fun value => feature.name ++ "=" ++ value
  | _ => [feature.name]

def FeatureSet.columns (set : FeatureSet) : List String := set.features.flatMap Feature.columns

theorem Feature.Fills.numeric_columns {feature : Feature} {cell : FeatureCell}
    (fills : feature.Fills cell) : cell.numeric.map Prod.fst = feature.columns := by
  obtain ⟨name, kind, value⟩ := cell
  obtain ⟨sameName, sameKind, legal⟩ := fills
  dsimp only at sameName sameKind legal
  subst sameName sameKind
  unfold Feature.columns FeatureCell.numeric
  cases type : feature.output with
  | enumeration values default =>
    rw [type] at legal
    obtain ⟨s, _, rfl⟩ := legal
    simp
  | _ => rfl

theorem FeatureSet.toNumeric_columns (features : List Feature) (cells : List FeatureCell)
    (filled : List.Forall₂ Feature.Fills features cells) :
    (FeatureVector.mk cells).toNumeric.map Prod.fst = features.flatMap Feature.columns := by
  unfold FeatureVector.toNumeric
  induction filled with
  | nil => rfl
  | cons fills _ ih =>
    rw [List.flatMap_cons, List.map_append, fills.numeric_columns, ih, List.flatMap_cons]

/-- The column of one value holds 1 and those of the others 0. -/
def FeatureCell.OneHot (cell : FeatureCell) (values : List String) : Prop :=
  ∃ before value after, values = before ++ value :: after ∧ cell.value = .enumerated value ∧
    cell.numeric =
      before.map (fun other => (cell.name ++ "=" ++ other, 0.0)) ++
        (cell.name ++ "=" ++ value, 1.0) ::
          after.map (fun other => (cell.name ++ "=" ++ other, 0.0))

theorem FeatureCell.oneHot_of_has (cell : FeatureCell) (values : List String) (default : String)
    (type : cell.kind = .enumeration values default) (legal : cell.kind.Has cell.value)
    (distinct : values.Nodup) : cell.OneHot values := by
  rw [type] at legal
  obtain ⟨value, listed, present⟩ := legal
  obtain ⟨before, after, rfl⟩ := List.append_of_mem listed
  refine ⟨before, value, after, rfl, present, ?_⟩
  have others : ∀ other ∈ before ++ after, other ≠ value := by
    have once := List.nodup_middle.mp distinct
    exact fun other there same => (List.nodup_cons.mp once).1 (same ▸ there)
  obtain ⟨first, last⟩ := List.forall_mem_append.mp others
  have off (list : List String) (different : ∀ other ∈ list, other ≠ value) :
      list.map (fun legal => (cell.name ++ "=" ++ legal, if legal == value then (1.0 : Float) else 0.0)) =
        list.map fun other => (cell.name ++ "=" ++ other, 0.0) :=
    List.map_congr_left fun other there => by simp [different other there]
  simp only [FeatureCell.numeric, type, present, List.map_append, List.map_cons, off before first,
    off after last, beq_self_eq_true, if_true]

-- Sets that are selected from a registry.

namespace FeatureRegistry

theorem exists_registered_iff (registry : FeatureRegistry) (consistent : registry.Consistent)
    (names : List String) (input : InputKind) :
    (∀ name ∈ names, ∃ feature, registry.find? name = some feature ∧ feature.inputKind = input) ↔
      names ⊆ registry.names ∧
        ∀ feature ∈ registry.features, feature.name ∈ names → feature.inputKind = input := by
  simp only [consistent.inStep.find?_eq_some_iff]
  constructor
  next =>
    intro suited
    constructor
    next =>
      intro name listed
      obtain ⟨feature, ⟨present, rfl⟩, _⟩ := suited name listed
      exact List.mem_map_of_mem present
    next =>
      intro feature present listed
      obtain ⟨other, ⟨there, same⟩, kind⟩ := suited feature.name listed
      rwa [List.inj_on_of_nodup_map consistent.inStep.nodup present there same.symm]
  next =>
    rintro ⟨known, uniform⟩ name listed
    obtain ⟨feature, present, rfl⟩ := List.mem_map.mp (known listed)
    exact ⟨feature, ⟨present, rfl⟩, uniform feature present listed⟩

/-- Whatever features are offered, those with a legal default and a new name are registered. Sets can
be selected from them as far as names and inputs allow, and give vectors of one layout, whatever the
features compute. -/
theorem selected_sets_keep_layout (offered : List Feature) (names : List String) :
    (registered offered).IsCatalogue ∧
    (∀ name, name ∈ (registered offered).names ↔ ∃ feature ∈ offered,
      feature.name = name ∧ feature.output.Has feature.output.defaultValue) ∧
    ((∃ set, (registered offered).select names = .ok set) ↔
      names ≠ [] ∧ names ⊆ (registered offered).names ∧
        ∃ input, ∀ feature ∈ (registered offered).features, feature.name ∈ names →
          feature.inputKind = input) ∧
    ∀ set, (registered offered).select names = .ok set →
      set.names = names ∧ set.features ⊆ (registered offered).features ∧
      ∀ document input,
        (input.kind = set.input → ∃ vector, set.extract document input = .ok vector ∧
          vector.names = names ∧ List.Forall₂ Feature.Fills set.features vector.cells ∧
          vector.toNumeric.map Prod.fst = set.columns ∧
          ∀ cell ∈ vector.cells, ∀ values default, cell.kind = .enumeration values default →
            values.Nodup → cell.OneHot values) ∧
        (input.kind ≠ set.input → ∃ feature ∈ set.features, set.extract document input =
          .error (.config (.wrongInput feature.name set.input input.kind))) := by
  have consistent := registered_consistent offered
  have known (name : String) : name ∈ (registered offered).names ↔ ∃ feature ∈ offered,
      feature.name = name ∧ feature.output.Has feature.output.defaultValue := by
    have listed := Consistent.mem_registerAll_names_iff ⟨empty_inStep, by simp [empty]⟩ offered name
    simpa [registered, empty, FeatureRegistry.names] using listed
  refine ⟨consistent.isCatalogue, known, ?_⟩
  clear known
  generalize registered offered = registry at consistent ⊢
  have inStep := consistent.inStep
  constructor
  next =>
    have selects := registry.select_succeeds_iff names
    simp only [registry.exists_registered_iff consistent names] at selects
    constructor
    next =>
      rintro ⟨set, success⟩
      obtain ⟨some, known, uniform⟩ := (selects set.input).mp ⟨set, success, rfl⟩
      exact ⟨some, known, set.input, uniform⟩
    next =>
      rintro ⟨some, known, input, uniform⟩
      exact ((selects input).mpr ⟨some, known, uniform⟩).imp fun _ => And.left
  next =>
    intro set success
    have finds := registry.select_finds names set success
    have named := inStep.names_eq_of_finds set.features names finds
    have known := inStep.subset_of_finds set.features names finds
    refine ⟨named, known, fun document input => ⟨?_, ?_⟩⟩
    next =>
      intro suited
      obtain ⟨vector, extracted⟩ := set.extract_succeeds document input suited.symm
      have filled := set.extract_fills document input vector
        (fun feature present => consistent.defaults feature (known present)) extracted
      refine ⟨vector, extracted, ?_, filled, FeatureSet.toNumeric_columns _ _ filled, ?_⟩
      · exact (FeatureSet.cells_names _ _ filled).trans named
      · intro cell present values default type distinct
        exact cell.oneHot_of_has values default type (FeatureSet.cells_have _ _ filled cell present)
          distinct
    next =>
      intro unsuited
      cases listed : set.features with
      | nil =>
        obtain ⟨some, _⟩ := (registry.select_succeeds_iff names set.input).mp ⟨set, success, rfl⟩
        exact absurd (by simpa [listed] using named.symm) some
      | cons feature rest =>
        exact ⟨feature, by simp, set.extract_fails document input feature rest listed unsuited⟩

-- A type with a default outside its values, one whose values are never met, and a name twice.
def looseFeatures : List Feature :=
  [⟨"case", .enumeration ["nom", "acc"] "gen", .single fun _ _ => none⟩,
    ⟨"case", .enumeration ["nom", "acc"] "acc", .single fun _ _ => some (.int 3)⟩,
    ⟨"case", .bool, .pair fun _ _ _ => some (.bool true)⟩,
    ⟨"size", .int, .single fun _ a => some (.int a.size)⟩]

theorem looseFeatures_keep_layout :
    (registered looseFeatures).IsCatalogue ∧
      (registered looseFeatures).names = ["case", "size"] ∧
      ∃ set, (registered looseFeatures).select ["size", "case"] = .ok set ∧
        set.columns = ["size", "case=nom", "case=acc"] ∧
        ∀ document a, ∃ vector, set.extract document (.single a) = .ok vector ∧
          vector.names = ["size", "case"] ∧ vector.toNumeric.map Prod.fst = set.columns := by
  obtain ⟨catalogue, _, selects, keeps⟩ := selected_sets_keep_layout looseFeatures ["size", "case"]
  have names : (registered looseFeatures).names = ["case", "size"] := by decide
  have single : ∀ feature ∈ (registered looseFeatures).features, feature.inputKind = .single := by
    decide
  obtain ⟨set, success⟩ := selects.mpr ⟨by decide, by simp [names],
    .single, fun feature present _ => single feature present⟩
  refine ⟨catalogue, names, set, success, ?_, fun document a => ?_⟩
  next =>
    have computed : FeatureSet.columns <$> (registered looseFeatures).select ["size", "case"] =
        .ok ["size", "case=nom", "case=acc"] := by rfl
    rw [success] at computed
    exact Except.ok.inj computed
  next =>
    obtain ⟨_, known, vectors⟩ := keeps set success
    have input : set.input = .single := by
      have computed : FeatureSet.input <$> (registered looseFeatures).select ["size", "case"] =
          .ok .single := by rfl
      rw [success] at computed
      exact Except.ok.inj computed
    obtain ⟨vector, extracted, named, _, columns, _⟩ := (vectors document (.single a)).1 input.symm
    exact ⟨vector, extracted, named, columns⟩

end FeatureRegistry

end SpanAnnotation
