/-!
The shortest decimal that reads back as a given double, and its positional text. A double is an
integer times a power of two; the numbers that round to it form an interval, closed exactly when
the integer is even. The result has the fewest digits of all decimals in the interval and is the
nearest of those. The way back takes the double nearest to a decimal.
-/

set_option autoImplicit false

namespace SpanAnnotation

-- The number digits * 10 ^ exponent.
structure Decimal where
  digits : Nat
  exponent : Int
  deriving DecidableEq, Repr

namespace Decimal

def twoPower (n : Nat) : Nat := Nat.pow 2 n
def tenPower (n : Nat) : Nat := Nat.pow 10 n

-- A double keeps 52 bits of its significand, then 11 of its exponent, then the sign.
def fractionLimit : Nat := 0x10000000000000
def fieldLimit : Nat := 0x800
def signLimit : Nat := 0x8000000000000000
def infinityBits : Nat := 0x7FF0000000000000

/-- The finite positive number significand * 2 ^ exponent, as it is stored in 64 bits. -/
structure Dyadic where
  significand : Nat
  exponent : Int
  -- The next smaller double is half as far away as the next larger one.
  narrowBelow : Bool
  deriving DecidableEq, Repr

def Dyadic.ofBits (bits : Nat) : Dyadic :=
  let field := bits / fractionLimit % fieldLimit
  let fraction := bits % fractionLimit
  if field = 0 then ⟨fraction, -1074, false⟩
  else ⟨fractionLimit + fraction, Int.ofNat field - 1075, fraction = 0 && field > 1⟩

-- Quarters of the last binary place are whole numbers over one denominator.
structure Interval where
  low : Nat
  value : Nat
  high : Nat
  unit : Nat
  closed : Bool
  deriving DecidableEq, Repr

def Dyadic.interval (d : Dyadic) : Interval :=
  let scale := twoPower (d.exponent - 2).toNat
  let unit := twoPower (2 - d.exponent).toNat
  { low := (4 * d.significand - if d.narrowBelow then 1 else 2) * scale
    value := 4 * d.significand * scale
    high := (4 * d.significand + 2) * scale
    unit := unit
    closed := d.significand % 2 = 0 }

/-- The number of digits before the decimal point, zero or negative for small numbers. -/
def Interval.magnitude (i : Interval) : Int :=
  Int.ofNat (toString (i.value * tenPower 340 / i.unit)).length - 340

def Interval.holds (i : Interval) (digits : Nat) (exponent : Int) : Bool :=
  let point := digits * tenPower exponent.toNat * i.unit
  let down := tenPower (-exponent).toNat
  if i.closed then i.low * down ≤ point && point ≤ i.high * down
  else i.low * down < point && point < i.high * down

/-- The nearer of the two neighbours on a decimal grid, if one lies in the interval. -/
def Interval.onGrid (i : Interval) (exponent : Int) : Option Nat :=
  let step := tenPower exponent.toNat * i.unit
  let scaled := i.value * tenPower (-exponent).toNat
  let below := scaled / step
  let remainder := scaled % step
  let upward := step < 2 * remainder || (step == 2 * remainder && below % 2 == 1)
  match i.holds below exponent && below != 0, i.holds (below + 1) exponent with
  | true, true => some (if upward then below + 1 else below)
  | true, false => some below
  | false, true => some (below + 1)
  | false, false => none

def dropZeros : Nat → Decimal → Decimal
  | 0, d => d
  | fuel + 1, d =>
      if d.digits % 10 = 0 && d.digits != 0 then dropZeros fuel ⟨d.digits / 10, d.exponent + 1⟩
      else d

-- Tries one digit, then two, and so on; seventeen digits always suffice.
def Interval.search (i : Interval) (count : Nat) : Nat → Decimal
  | 0 => ⟨i.value / i.unit, 0⟩
  | tries + 1 =>
      let exponent := i.magnitude - Int.ofNat count
      match i.onGrid exponent with
      | some digits => dropZeros 20 ⟨digits, exponent⟩
      | none => i.search (count + 1) tries

/-- The shortest decimal of a finite double, its sign aside. -/
def ofFloat (x : Float) : Decimal :=
  let bits := x.toBits.toNat % signLimit
  if bits = 0 then ⟨0, 0⟩ else (Dyadic.ofBits bits).interval.search 1 18

def zeros (count : Nat) : String := String.ofList (List.replicate count '0')

/-- Digits with a point where it belongs and no exponent. -/
def positional (d : Decimal) : String :=
  let text := toString d.digits
  match d.exponent with
  | .ofNat up => if d.digits = 0 then "0" else text ++ zeros up
  | .negSucc down =>
      let places := down + 1
      if places < text.length then
        let whole := text.length - places
        String.ofList (text.toList.take whole) ++ "." ++ String.ofList (text.toList.drop whole)
      else "0." ++ zeros (places - text.length) ++ text

/-- One digit before the point and a decimal exponent after the letter e. -/
def scientific (d : Decimal) : String :=
  let text := (toString d.digits).toList
  let power := d.exponent + Int.ofNat text.length - 1
  let mantissa :=
    match text with
    | [] => "0"
    | [only] => String.ofList [only]
    | first :: rest => String.ofList (first :: '.' :: rest)
  mantissa ++ "e" ++ toString power

-- Reading: the double nearest to a decimal.

/-- The exponent of the largest power of two that is not above the quotient. -/
def binaryMagnitude (numerator denominator : Nat) : Int :=
  let guess := Int.ofNat numerator.log2 - Int.ofNat denominator.log2
  if numerator * twoPower (-guess).toNat < denominator * twoPower guess.toNat then guess - 1
  else guess

-- Rounds to the nearest whole number, a half to the even neighbour.
def roundedQuotient (numerator denominator : Nat) : Nat :=
  let below := numerator / denominator
  let twice := 2 * (numerator % denominator)
  if denominator < twice || (twice == denominator && below % 2 == 1) then below + 1 else below

/-- The 64 bits of the double nearest to a positive quotient. The significand is cut to 53 bits, or
at the last place that doubles have; a carry goes on into the exponent. -/
def nearestBits (numerator denominator : Nat) : Nat :=
  let place := max (binaryMagnitude numerator denominator - 52) (-1074)
  let significand :=
    roundedQuotient (numerator * twoPower (-place).toNat) (denominator * twoPower place.toNat)
  let field := (place + 1074).toNat
  let bits := field * fractionLimit + significand
  min bits infinityBits

-- Decimal magnitudes beyond which all doubles are infinite or zero.
def magnitudeLimit : Int := 400

/-- The double nearest to a decimal. -/
def toFloat (d : Decimal) : Float :=
  let magnitude := d.exponent + Int.ofNat (toString d.digits).length
  if d.digits = 0 || magnitude < -magnitudeLimit then 0.0
  else if magnitudeLimit < magnitude then 1.0 / 0.0
  else
    let bits := nearestBits (d.digits * tenPower d.exponent.toNat) (tenPower (-d.exponent).toNat)
    Float.ofBits (UInt64.ofNat bits)

end Decimal

def isNegative (x : Float) : Bool := decide (Decimal.signLimit ≤ x.toBits.toNat) && !x.isNaN

/-- A double as text: shortest digits, always positional, whole numbers without a point. -/
def floatText (x : Float) : String :=
  if x.isNaN then "NaN"
  else
    let sign := if isNegative x then "-" else ""
    sign ++ (if x.isInf then "inf" else (Decimal.ofFloat x).positional)

end SpanAnnotation
