import SpanAnnotation.Decimal
import SpanAnnotation.Wire.Value

/-!
Numbers of JSON texts. The leading digits that stay below 2^64 form a whole number, later digits
only move the decimal point or go; that number becomes a double and is multiplied or divided by a
power of ten. Without fraction, exponent or lost digits the number is whole.
-/

set_option autoImplicit false

namespace SpanAnnotation.Wire

def digitValue (c : Char) : Nat := c.toNat - '0'.toNat

-- The significand, how many digits went into it, and the text after them.
def gather (significand count : Nat) : List Char → Nat × Nat × List Char
  | [] => (significand, count, [])
  | c :: rest =>
      let grown := significand * 10 + digitValue c
      if c.isDigit && grown < natLimit then gather grown (count + 1) rest
      else (significand, count, c :: rest)

def countDigits : List Char → Nat × List Char
  | [] => (0, [])
  | c :: rest =>
      if c.isDigit then
        let (more, after) := countDigits rest
        (more + 1, after)
      else (0, c :: rest)

def readDigits (value : Nat) : List Char → Nat × List Char
  | [] => (value, [])
  | c :: rest =>
      if c.isDigit then readDigits (value * 10 + digitValue c) rest else (value, c :: rest)

def powerOfTen (exponent : Nat) : Float := (Decimal.mk 1 exponent).toFloat

-- The largest power of ten that is a double.
def topPower : Nat := 308

/-- significand * 10 ^ exponent, rounded after each step; none when it is too large. -/
def scale (significand : Nat) (exponent : Int) : Option Float :=
  let x := (UInt64.ofNat significand).toFloat
  if significand = 0 then some x
  else
    match exponent with
    | .ofNat up =>
        if up ≤ topPower then
          let scaled := x * powerOfTen up
          if scaled.isInf then none else some scaled
        else none
    | .negSucc less =>
        let down := less + 1
        if down ≤ topPower then some (x / powerOfTen down)
        else if down - topPower ≤ topPower then
          some (x / powerOfTen topPower / powerOfTen (down - topPower))
        else some 0

def signed (negative : Bool) (x : Float) : Float := if negative then -x else x

def scaledValue (negative : Bool) (significand : Nat) (exponent : Int) : Value :=
  match scale significand exponent with
  | some x => .float (signed negative x)
  | none => .unreadable

-- A negative zero and whole numbers beyond 64 bits are doubles.
def wholeValue (negative : Bool) (significand : Nat) : Value :=
  if negative then
    if significand = 0 || intLimit < Int.ofNat significand then scaledValue true significand 0
    else .int (-Int.ofNat significand)
  else .int significand

def exponentPart (negative : Bool) (significand : Nat) (exponent : Int) :
    List Char → Option (Value × List Char)
  | mark :: rest =>
      if mark == 'e' || mark == 'E' then
        let (down, digits) :=
          match rest with
          | '+' :: after => (false, after)
          | '-' :: after => (true, after)
          | after => (false, after)
        match digits with
        | [] => none
        | c :: _ =>
            if c.isDigit then
              let (power, after) := readDigits 0 digits
              let shift := if down then -Int.ofNat power else Int.ofNat power
              some (scaledValue negative significand (exponent + shift), after)
            else none
      else some (scaledValue negative significand exponent, mark :: rest)
  | [] => some (scaledValue negative significand exponent, [])

def fractionPart (negative : Bool) (significand : Nat) (lost : Nat) (cs : List Char) :
    Option (Value × List Char) :=
  let (longer, taken, rest) := gather significand 0 cs
  let (skipped, after) := countDigits rest
  if taken + skipped = 0 then none
  else exponentPart negative longer (Int.ofNat lost - Int.ofNat taken) after

def unsignedNumber (negative : Bool) (cs : List Char) : Option (Value × List Char) :=
  match cs with
  | [] => none
  | first :: rest =>
      if !first.isDigit then none
      else if first == '0' && (rest.head?.map Char.isDigit).getD false then none
      else
        let (significand, _, following) := gather 0 0 cs
        let (lost, after) := countDigits following
        match after with
        | '.' :: fraction => fractionPart negative significand lost fraction
        | mark :: _ =>
            if mark == 'e' || mark == 'E' then exponentPart negative significand lost after
            else if lost = 0 then some (wholeValue negative significand, after)
            else some (scaledValue negative significand lost, after)
        | [] =>
            if lost = 0 then some (wholeValue negative significand, [])
            else some (scaledValue negative significand lost, [])

def readNumber : List Char → Option (Value × List Char)
  | '-' :: rest => unsignedNumber true rest
  | cs => unsignedNumber false cs

end SpanAnnotation.Wire
