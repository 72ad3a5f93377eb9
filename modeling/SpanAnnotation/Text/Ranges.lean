/-!
Sets of characters given by tables of code points. Tables are increasing, so a search ends at
the first entry that starts above the code point looked for.
-/

set_option autoImplicit false

namespace SpanAnnotation.Text

-- Closed ranges (first, last), increasing and disjoint.
abbrev Ranges := List (Nat × Nat)

def Ranges.contains : Ranges → Nat → Bool
  | [], _ => false
  | (first, last) :: rest, code =>
      decide (first ≤ code) && (decide (code ≤ last) || Ranges.contains rest code)

-- Every step-th code point of a closed range (first, last, step); scripts that alternate
-- capital and small letters take one entry with step 2.
abbrev Strides := List (Nat × Nat × Nat)

def Strides.contains : Strides → Nat → Bool
  | [], _ => false
  | (first, last, step) :: rest, code =>
      decide (first ≤ code) &&
        ((decide (code ≤ last) && (code - first) % step == 0) || Strides.contains rest code)

-- Entries (first, last, step, shift): every step-th code point of a closed range moves by the
-- shift. Entries are increasing and disjoint.
abbrev Shifts := List (Nat × Nat × Nat × Int)

/-- Where a code point moves; one without an entry stays. -/
def Shifts.apply : Shifts → Nat → Nat
  | [], code => code
  | (first, last, step, shift) :: rest, code =>
      if code < first then code
      else if code ≤ last && (code - first) % step == 0 then (Int.ofNat code + shift).toNat
      else Shifts.apply rest code

-- The code points that move.
def Shifts.domain (shifts : Shifts) : Strides :=
  shifts.map fun (first, last, step, _) => (first, last, step)

-- Every step-th code point from the first up to the last.
def codesBetween (first last step : Nat) : List Nat :=
  (List.range ((last - first) / step + 1)).map fun index => first + index * step

/-- The code points that move, each with its new place. -/
def Shifts.pairs (shifts : Shifts) : List (Nat × Nat) :=
  shifts.flatMap fun (first, last, step, shift) =>
    (codesBetween first last step).map fun code => (code, (Int.ofNat code + shift).toNat)

theorem Ranges.contains_cons (first last : Nat) (rest : Ranges) (code : Nat)
    (inside : first ≤ code ∧ code ≤ last) :
    Ranges.contains ((first, last) :: rest) code = true := by
  simp [Ranges.contains, inside.1, inside.2]

end SpanAnnotation.Text
