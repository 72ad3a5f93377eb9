import Mathlib.Data.List.Basic
import SpanAnnotation.Feature.Builtin

/-!
What the built-in features read of a document: the sentences, and of the annotations only those
that the input names. On two documents that are alike in that they give the same values.
-/

set_option autoImplicit false

namespace SpanAnnotation

/-- The same sentences, and the same annotations under the named identities. -/
structure Document.Alike (left right : Document) (ids : List Nat) : Prop where
  sentences : left.sentences = right.sentences
  found : ∀ id ∈ ids, left.find? id = right.find? id

namespace Document.Alike

variable {left right : Document} {ids : List Nat}

theorem mono (alike : left.Alike right ids) {fewer : List Nat} (within : fewer ⊆ ids) :
    left.Alike right fewer :=
  ⟨alike.sentences, fun id present => alike.found id (within present)⟩

theorem sentence? (alike : left.Alike right ids) : left.sentence? = right.sentence? := by
  funext index
  rw [Document.sentence?, Document.sentence?, alike.sentences]

theorem headAttribute? (alike : left.Alike right ids) :
    Builtin.headAttribute? left = Builtin.headAttribute? right := by
  funext a name
  rw [Builtin.headAttribute?, Builtin.headAttribute?, alike.sentence?]

theorem distance (alike : left.Alike right ids) : left.distance = right.distance := by
  have position : left.position = right.position := by
    funext sentence token
    rw [Document.position, Document.position, Document.offset_eq, Document.offset_eq, alike.sentences]
  funext a b
  rw [Document.distance, Document.distance, position]

theorem members (cluster : Cluster) (alike : left.Alike right cluster.mentions) :
    cluster.members left = cluster.members right :=
  List.filterMap_congr alike.found

theorem closestPreceding? (cluster : Cluster) (alike : left.Alike right cluster.mentions)
    (mention : Annotation) :
    cluster.closestPreceding? left mention = cluster.closestPreceding? right mention := by
  rw [Cluster.closestPreceding?, Cluster.closestPreceding?, members cluster alike]

end Document.Alike

def FeatureInput.named : FeatureInput → List Nat
  | .single _ => []
  | .pair _ _ => []
  | .clusterMention _ cluster => cluster.head :: cluster.mentions

/-- The feature reads no more of the annotations than its input names. -/
def Feature.Local (feature : Feature) : Prop :=
  ∀ (left right : Document) (input : FeatureInput), left.Alike right input.named →
    feature.evaluate left input = feature.evaluate right input

namespace Feature

variable (name : String) (output : ValueKind)

theorem local_single (compute : Document → Annotation → Option FeatureValue)
    (same : ∀ left right : Document, left.Alike right [] → compute left = compute right) :
    (Feature.mk name output (.single compute)).Local := by
  intro left right input alike
  have value := same left right (alike.mono (List.nil_subset _))
  cases input <;> simp [evaluate, value, inputKind]

theorem local_pair (compute : Document → Annotation → Annotation → Option FeatureValue)
    (same : ∀ left right : Document, left.Alike right [] → compute left = compute right) :
    (Feature.mk name output (.pair compute)).Local := by
  intro left right input alike
  have value := same left right (alike.mono (List.nil_subset _))
  cases input <;> simp [evaluate, value, inputKind]

theorem local_clusterMention (compute : Document → Annotation → Cluster → Option FeatureValue)
    (same : ∀ (left right : Document) (mention : Annotation) (cluster : Cluster),
      left.Alike right (cluster.head :: cluster.mentions) →
        compute left mention cluster = compute right mention cluster) :
    (Feature.mk name output (.clusterMention compute)).Local := by
  intro left right input alike
  cases input with
  | single a => rfl
  | pair a b => rfl
  | clusterMention mention cluster =>
    simp only [evaluate, same left right mention cluster alike]

end Feature

namespace Builtin

theorem precedingPronounCase_local : precedingPronounCase.Local := by
  refine Feature.local_single _ _ _ fun left right alike => ?_
  rw [alike.sentence?]

theorem headNumber_local : headNumber.Local := by
  refine Feature.local_single _ _ _ fun left right alike => ?_
  rw [alike.headAttribute?]

theorem pairTokenDistance_local : pairTokenDistance.Local := by
  refine Feature.local_pair _ _ _ fun left right alike => ?_
  rw [alike.distance]

theorem pairSameBase_local : pairSameBase.Local := by
  refine Feature.local_pair _ _ _ fun left right alike => ?_
  rw [alike.headAttribute?]

theorem numberMatch_local : numberMatch.Local := by
  refine Feature.local_clusterMention _ _ _ fun left right mention cluster alike => ?_
  have members := Document.Alike.members cluster (alike.mono (List.subset_cons_self _ _))
  rw [alike.headAttribute?, members]

theorem closestDistance_local : closestDistance.Local := by
  refine Feature.local_clusterMention _ _ _ fun left right mention cluster alike => ?_
  have closest := Document.Alike.closestPreceding? cluster (alike.mono (List.subset_cons_self _ _))
  rw [closest mention, alike.distance]

theorem closestAfterConjunction_local : closestAfterConjunction.Local := by
  refine Feature.local_clusterMention _ _ _ fun left right mention cluster alike => ?_
  have closest := Document.Alike.closestPreceding? cluster (alike.mono (List.subset_cons_self _ _))
  rw [closest mention, alike.sentence?]

theorem closestNumber_local : closestNumber.Local := by
  refine Feature.local_clusterMention _ _ _ fun left right mention cluster alike => ?_
  have closest := Document.Alike.closestPreceding? cluster (alike.mono (List.subset_cons_self _ _))
  rw [closest mention, alike.headAttribute?]

theorem headBaseMatch_local : headBaseMatch.Local := by
  refine Feature.local_clusterMention _ _ _ fun left right mention cluster alike => ?_
  rw [alike.found cluster.head List.mem_cons_self, alike.headAttribute?]

theorem local_of_mem (categories : List String) (feature : Feature)
    (builtin : feature ∈ features categories) : feature.Local := by
  -- These read only what they are given.
  have length : annotationLength.Local := Feature.local_single _ _ _ fun _ _ _ => rfl
  have category : (annotationCategory categories).Local :=
    Feature.local_single _ _ _ fun _ _ _ => rfl
  have firstLength : pairFirstLength.Local := Feature.local_pair _ _ _ fun _ _ _ => rfl
  have sameCategory : pairSameCategory.Local := Feature.local_pair _ _ _ fun _ _ _ => rfl
  have size : clusterSize.Local := Feature.local_clusterMention _ _ _ fun _ _ _ _ _ => rfl
  simp only [features, List.mem_cons, List.not_mem_nil, or_false] at builtin
  rcases builtin with rfl | rfl | rfl | rfl | rfl | rfl | rfl | rfl | rfl | rfl | rfl | rfl | rfl | rfl
  exacts [length, category, precedingPronounCase_local, headNumber_local, firstLength, sameCategory,
    pairTokenDistance_local, pairSameBase_local, numberMatch_local, closestDistance_local,
    closestAfterConjunction_local, closestNumber_local, size, headBaseMatch_local]

end Builtin

namespace FeatureSet

theorem cellsOf_congr (left right : Document) (input : FeatureInput) (features : List Feature)
    (each : ∀ feature ∈ features, feature.Local) (alike : left.Alike right input.named) :
    cellsOf left input features = cellsOf right input features := by
  induction features with
  | nil => rfl
  | cons feature rest ih =>
    have here := each feature (by simp) left right input alike
    have later := ih fun other present => each other (List.mem_cons_of_mem _ present)
    rw [cellsOf, cellsOf, here, later]

theorem extractAll_congr (set : FeatureSet) (left right : Document) (inputs : List FeatureInput)
    (each : ∀ feature ∈ set.features, feature.Local)
    (alike : ∀ input ∈ inputs, left.Alike right input.named) :
    set.extractAll left inputs = set.extractAll right inputs := by
  induction inputs with
  | nil => rfl
  | cons input rest ih =>
    have here := cellsOf_congr left right input set.features each (alike input (by simp))
    have later := ih fun other present => alike other (List.mem_cons_of_mem _ present)
    rw [extractAll, extractAll, extract, extract, here, later]

end FeatureSet

end SpanAnnotation
