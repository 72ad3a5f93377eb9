import SpanAnnotation.Classifier
import SpanAnnotation.Dictionary
import SpanAnnotation.Wire.JsonText

/-!
Feature values, their types and linear models as structured data, and models in files.
-/

set_option autoImplicit false

namespace SpanAnnotation

open Wire

namespace FeatureValue

-- The first of truth value, whole number, number and text that fits.
def ofValue : Value → Except Misfit FeatureValue
  | .bool b => .ok (.bool b)
  | .int n =>
      if -intLimit ≤ n && n < intLimit then .ok (.int n) else .ok (.float (Float.ofInt n))
  | .float x => .ok (.float x)
  | .text s => .ok (.enumerated s)
  | _ => .error .shape

def toValue : FeatureValue → Value
  | .bool b => .bool b
  | .int n => .int n
  | .float x => ofFloat x
  | .enumerated s => .text s

end FeatureValue

namespace ValueKind

-- A type without fields; an array must not have more items.
def unit (kind : ValueKind) : Value → Except Misfit ValueKind
  | .array (_ :: _) => .error .shape
  | _ => .ok kind

def ofValue (v : Value) : Except Misfit ValueKind := do
  let (name, v) ← tagged "type" readText v
  match name with
  | "bool" => unit .bool v
  | "int" => unit .int v
  | "float" => unit .float v
  | "enumeration" => do
      let fields ← record ["values", "default"] v
      let values ← fields.required "values" (readList readText)
      let default ← fields.required "default" readText
      return .enumeration values default
  | _ => .error .shape

def toValue : ValueKind → Value
  | .bool => .object [("type", .text "bool")]
  | .int => .object [("type", .text "int")]
  | .float => .object [("type", .text "float")]
  | .enumeration values default =>
      .object [("type", .text "enumeration"), ("values", ofList .text values),
        ("default", .text default)]

end ValueKind

def InputKind.toValue : InputKind → Value
  | .single => .text "annotation"
  | .pair => .text "pair"
  | .clusterMention => .text "cluster_mention"

def InputKind.ofValue (v : Value) : Except Misfit InputKind := do
  match ← readChoice v with
  | "annotation" => return .single
  | "pair" => return .pair
  | "cluster_mention" => return .clusterMention
  | _ => .error .shape

/-- The values of a vector by name; of equal names the last value counts. -/
def FeatureVector.toValue (vector : FeatureVector) : Value :=
  .object (vector.cells.foldl
    (fun members cell => putLast members cell.name cell.value.toValue) [])

namespace LinearModel

def ofValue (v : Value) : Except Misfit LinearModel := do
  let fields ← record ["weights", "bias"] v
  return {
    weights := ← fields.withDefault "weights" (readMap readFloat) []
    bias := ← fields.withDefault "bias" readFloat 0.0 }

def toValue (model : LinearModel) : Value :=
  .object [("weights", ofMap ofFloat model.weights), ("bias", ofFloat model.bias)]

def toJson (model : LinearModel) : String := Json.render model.toValue

/-- Reads a model from a file; its weights have to be finite. -/
def load (files : Files) (path : String) : Except Error LinearModel :=
  match files path with
  | none => .error (.io path)
  | some contents =>
      match Json.decode ofValue contents with
      | .error misfit => .error misfit.toError
      | .ok model =>
          if model.isFinite then .ok model
          else .error (.classifier s!"modelo {path} contém pesos não finitos")

end LinearModel

end SpanAnnotation
