import SpanAnnotation.Decimal
import SpanAnnotation.Wire.Json

/-!
The JSON text of a value. A double is written with the fewest digits that read back, as a plain
decimal while its point stays near the digits and with an exponent otherwise.
-/

set_option autoImplicit false

namespace SpanAnnotation.Wire.Json

-- The point may stand at most sixteen digits right of the first digit and five left of it.
def decimalText (d : Decimal) : String :=
  let point := d.exponent + Int.ofNat (toString d.digits).length
  if d.digits = 0 then "0.0"
  else if 0 ≤ d.exponent && point ≤ 16 then d.positional ++ ".0"
  else if -5 < point && point ≤ 16 then d.positional
  else
    let text := (toString d.digits).toList
    let mantissa :=
      match text with
      | [] => "0"
      | [only] => String.ofList [only]
      | first :: rest => String.ofList (first :: '.' :: rest)
    mantissa ++ "e" ++ toString (point - 1)

def numberText (x : Float) : String :=
  if x.isFinite then (if isNegative x then "-" else "") ++ decimalText (Decimal.ofFloat x)
  else "null"

mutual

def render : Value → String
  | .null => "null"
  | .unreadable => "null"
  | .bool b => if b then "true" else "false"
  | .int n => toString n
  | .float x => numberText x
  | .text s => quoted s
  | .array items => "[" ++ ",".intercalate (renderItems items) ++ "]"
  | .object members => "\x7b" ++ ",".intercalate (renderMembers members) ++ "\x7d"

def renderItems : List Value → List String
  | [] => []
  | v :: rest => render v :: renderItems rest

def renderMembers : List (String × Value) → List String
  | [] => []
  | (key, v) :: rest => (quoted key ++ ":" ++ render v) :: renderMembers rest

end

end SpanAnnotation.Wire.Json
