import SpanAnnotation.Feature.Basic
import SpanAnnotation.Proofs.Outcome

/-!
Features of the kind that an input asks for always give a value, so that extraction fails only on
inputs of another kind.
-/

set_option autoImplicit false

namespace SpanAnnotation

theorem Feature.evaluate_succeeds (feature : Feature) (document : Document) (input : FeatureInput)
    (suited : feature.inputKind = input.kind) :
    ∃ value, feature.evaluate document input = .ok value := by
  obtain ⟨name, output, computation⟩ := feature
  cases computation <;> cases input <;>
    simp_all [Feature.inputKind, Computation.kind, FeatureInput.kind, Feature.evaluate]

namespace FeatureSet

theorem cellsOf_succeeds (document : Document) (input : FeatureInput) (features : List Feature)
    (suited : ∀ feature ∈ features, feature.inputKind = input.kind) :
    ∃ cells, cellsOf document input features = .ok cells := by
  induction features with
  | nil => exact ⟨[], rfl⟩
  | cons feature rest ih =>
    obtain ⟨value, evaluated⟩ :=
      feature.evaluate_succeeds document input (suited feature (by simp))
    obtain ⟨cells, rest⟩ := ih fun other present => suited other (List.mem_cons_of_mem _ present)
    exact ⟨_, by simp [cellsOf, evaluated, rest, bind, Except.bind, pure, Except.pure]; rfl⟩

variable (set : FeatureSet) (document : Document)

theorem extract_succeeds (input : FeatureInput) (suited : set.input = input.kind) :
    ∃ vector, set.extract document input = .ok vector := by
  obtain ⟨cells, found⟩ := cellsOf_succeeds document input set.features fun feature present =>
    (set.uniform feature present).trans suited
  exact ⟨⟨cells⟩, by simp [extract, found, bind, Except.bind, pure, Except.pure]⟩

theorem extractAll_succeeds (inputs : List FeatureInput)
    (suited : ∀ input ∈ inputs, set.input = input.kind) :
    ∃ vectors, set.extractAll document inputs = .ok vectors ∧
      vectors.length = inputs.length := by
  induction inputs with
  | nil => exact ⟨[], rfl, rfl⟩
  | cons input rest ih =>
    obtain ⟨vector, extracted⟩ := set.extract_succeeds document input (suited input (by simp))
    obtain ⟨vectors, others, sized⟩ := ih fun other present =>
      suited other (List.mem_cons_of_mem _ present)
    exact ⟨vector :: vectors,
      by simp [extractAll, extracted, others, bind, Except.bind, pure, Except.pure],
      by simp [sized]⟩

end FeatureSet

end SpanAnnotation
