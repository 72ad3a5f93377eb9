import SpanAnnotation.Feature.Basic

/-!
Classifiers give each instance a label; positive labels accept. The linear classifier accepts when
its weighted sum is positive, and is trained by the averaged perceptron: the result is the mean
of the weights after every step.
-/

set_option autoImplicit false

namespace SpanAnnotation

/-- Labels for a batch of instances. The answer may depend on the batches of earlier calls, the
latest first. -/
abbrev Classifier := List (List FeatureVector) → List FeatureVector → Except Error (List Int)

def isAccepted (label : Int) : Bool := 0 < label

structure LinearModel where
  weights : Weights
  bias : Float
  deriving BEq, Repr

namespace LinearModel

def zero : LinearModel := ⟨[], 0.0⟩

def score (model : LinearModel) (vector : FeatureVector) : Float :=
  vector.dot model.weights + model.bias

def label (model : LinearModel) (vector : FeatureVector) : Int :=
  if model.score vector > 0.0 then 1 else 0

def classifier (model : LinearModel) : Classifier := fun _ batch => .ok (batch.map model.label)

-- A column without an entry starts from zero.
def addWeight (weights : Weights) (column : String) (amount : Float) : Weights :=
  match weights with
  | [] => [(column, 0.0 + amount)]
  | (c, w) :: rest =>
      if c == column then (c, w + amount) :: rest else (c, w) :: addWeight rest column amount

def addWeights (weights : Weights) (amounts : List (String × Float)) : Weights :=
  amounts.foldl (fun sum entry => addWeight sum entry.1 entry.2) weights

/-- Moves the weights towards the wanted answer. -/
def correct (model : LinearModel) (vector : FeatureVector) (wanted : Bool) : LinearModel :=
  let step : Float := if wanted then 1.0 else -1.0
  ⟨addWeights model.weights (vector.toNumeric.map fun column => (column.1, step * column.2)),
    model.bias + step⟩

structure Training where
  current : LinearModel
  total : LinearModel
  steps : Nat
  mistakes : Nat
  deriving BEq, Repr

def Training.step (training : Training) (sample : FeatureVector × Bool) : Training :=
  let (vector, wanted) := sample
  let mistaken := (training.current.score vector > 0.0 : Bool) != wanted
  let current := if mistaken then training.current.correct vector wanted else training.current
  { current := current
    total := ⟨addWeights training.total.weights current.weights, training.total.bias + current.bias⟩
    steps := training.steps + 1
    mistakes := training.mistakes + if mistaken then 1 else 0 }

-- Stops after a pass without mistakes.
def Training.passes (examples : List (FeatureVector × Bool)) : Nat → Training → Training
  | 0, training => training
  | iterations + 1, training =>
      let after := examples.foldl Training.step { training with mistakes := 0 }
      if after.mistakes = 0 then after else Training.passes examples iterations after

def mean (model : LinearModel) (steps : Nat) : LinearModel :=
  if steps = 0 then model
  else
    ⟨model.weights.map fun entry => (entry.1, entry.2 / steps.toFloat), model.bias / steps.toFloat⟩

def train (examples : List (FeatureVector × Bool)) (iterations : Nat) : LinearModel :=
  let final := Training.passes examples iterations ⟨zero, zero, 0, 0⟩
  mean final.total final.steps

def isFinite (model : LinearModel) : Bool :=
  model.bias.isFinite && model.weights.all fun entry => entry.2.isFinite

end LinearModel

end SpanAnnotation
