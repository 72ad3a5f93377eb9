import SpanAnnotation.Decimal

/-!
Values of features and their declared types. An enumeration is closed and has a default of its
own; the other types default to zero.
-/

set_option autoImplicit false

namespace SpanAnnotation

inductive FeatureValue where
  | bool (b : Bool)
  | int (n : Int)
  | float (x : Float)
  | enumerated (s : String)
  deriving BEq, Repr

namespace FeatureValue

-- No number stands for a member of an enumeration.
def number? : FeatureValue → Option Float
  | .bool b => some (if b then 1.0 else 0.0)
  | .int n => some (Float.ofInt n)
  | .float x => some x
  | .enumerated _ => none

def text : FeatureValue → String
  | .bool b => if b then "true" else "false"
  | .int n => toString n
  | .float x => floatText x
  | .enumerated s => s

end FeatureValue

inductive ValueKind where
  | bool
  | int
  | float
  | enumeration (values : List String) (default : String)
  deriving DecidableEq, Repr

namespace ValueKind

/-- An enumeration whose default is its last value. -/
def enumerationOf (values : List String) : ValueKind :=
  .enumeration values (values.getLast?.getD "")

def defaultValue : ValueKind → FeatureValue
  | .bool => .bool false
  | .int => .int 0
  | .float => .float 0.0
  | .enumeration _ default => .enumerated default

def accepts : ValueKind → FeatureValue → Bool
  | .bool, .bool _ => true
  | .int, .int _ => true
  | .float, .float _ => true
  | .enumeration values _, .enumerated s => values.contains s
  | _, _ => false

/-- All values of the type; none are listed for numbers, whose range is open. -/
def legalValues : ValueKind → List FeatureValue
  | .bool => [.bool false, .bool true]
  | .int => []
  | .float => []
  | .enumeration values _ => values.map .enumerated

end ValueKind

end SpanAnnotation
