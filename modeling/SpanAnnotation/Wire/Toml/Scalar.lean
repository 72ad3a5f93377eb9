import SpanAnnotation.Decimal
import SpanAnnotation.Wire.Value

/-!
Strings, numbers, dates and keys of TOML texts. Each reader takes its part from the front of a text
and gives it with the text that follows.
-/

set_option autoImplicit false

namespace SpanAnnotation.Wire.Toml

def isSpace (c : Char) : Bool := c == ' ' || c == '\t'

def skipSpace (cs : List Char) : List Char := cs.dropWhile isSpace

-- Characters that comments and literal strings may hold.
def isPrintable (c : Char) : Bool := c == '\t' || (0x20 ≤ c.toNat && c.toNat != 0x7F)

-- Strings.

def hexDigit? (c : Char) : Option Nat :=
  if c.isDigit then some (c.toNat - '0'.toNat)
  else if 'a' ≤ c && c ≤ 'f' then some (c.toNat - 'a'.toNat + 10)
  else if 'A' ≤ c && c ≤ 'F' then some (c.toNat - 'A'.toNat + 10)
  else none

def hexValue? (value : Nat) : List Char → Option Nat
  | [] => some value
  | c :: rest =>
      match hexDigit? c with
      | some digit => hexValue? (value * 16 + digit) rest
      | none => none

def charOfHex? (digits : List Char) : Option Char := do
  let code ← hexValue? 0 digits
  if code < 0xD800 || (0xDFFF < code && code < 0x110000) then some (Char.ofNat code) else none

def escaped? (c : Char) : Option Char :=
  match c with
  | 'b' => some '\x08'
  | 't' => some '\t'
  | 'n' => some '\n'
  | 'f' => some '\x0c'
  | 'r' => some '\r'
  | '"' => some '"'
  | '\\' => some '\\'
  | _ => none

abbrev Text := List Char × List Char

def prepend (c : Char) (text : Text) : Text := (c :: text.1, text.2)

/-- The rest of a string in double quotes. -/
def readBasic : List Char → Option Text
  | [] => none
  | '"' :: rest => some ([], rest)
  | '\\' :: 'u' :: a :: b :: c :: d :: rest => do
      let char ← charOfHex? [a, b, c, d]
      return prepend char (← readBasic rest)
  | '\\' :: 'U' :: a :: b :: c :: d :: e :: f :: g :: h :: rest => do
      let char ← charOfHex? [a, b, c, d, e, f, g, h]
      return prepend char (← readBasic rest)
  | '\\' :: c :: rest => do
      let char ← escaped? c
      return prepend char (← readBasic rest)
  | c :: rest =>
      if isPrintable c && c != '\\' then (readBasic rest).map (prepend c) else none

/-- The rest of a string in single quotes. -/
def readLiteral : List Char → Option Text
  | [] => none
  | c :: rest =>
      if c == '\'' then some ([], rest)
      else if isPrintable c then (readLiteral rest).map (prepend c)
      else none

def startsNewline (cs : List Char) : Bool :=
  match cs with
  | '\n' :: _ => true
  | '\r' :: '\n' :: _ => true
  | _ => false

/-- The rest of a string in three double quotes, which may end in up to two quotes of its own. While
`skipping`, after a backslash at the end of a line, blanks and line ends do not count. -/
def readLongBasic (skipping : Bool) : List Char → Option Text
  | [] => none
  | '"' :: '"' :: '"' :: '"' :: '"' :: rest => some (['"', '"'], rest)
  | '"' :: '"' :: '"' :: '"' :: rest => some (['"'], rest)
  | '"' :: '"' :: '"' :: rest => some ([], rest)
  | '\r' :: '\n' :: rest =>
      if skipping then readLongBasic true rest
      else (readLongBasic false rest).map (prepend '\n')
  | '\\' :: 'u' :: a :: b :: c :: d :: rest => do
      let char ← charOfHex? [a, b, c, d]
      return prepend char (← readLongBasic false rest)
  | '\\' :: 'U' :: a :: b :: c :: d :: e :: f :: g :: h :: rest => do
      let char ← charOfHex? [a, b, c, d, e, f, g, h]
      return prepend char (← readLongBasic false rest)
  | '\\' :: c :: rest =>
      if startsNewline (skipSpace (c :: rest)) then readLongBasic true (c :: rest)
      else do
        let char ← escaped? c
        return prepend char (← readLongBasic false rest)
  | c :: rest =>
      if skipping && (isSpace c || c == '\n') then readLongBasic true rest
      else if c == '\n' || (isPrintable c && c != '\\') then
        (readLongBasic false rest).map (prepend c)
      else none

/-- The rest of a string in three single quotes. -/
def readLongLiteral : List Char → Option Text
  | [] => none
  | '\'' :: '\'' :: '\'' :: '\'' :: '\'' :: rest => some (['\'', '\''], rest)
  | '\'' :: '\'' :: '\'' :: '\'' :: rest => some (['\''], rest)
  | '\'' :: '\'' :: '\'' :: rest => some ([], rest)
  | '\r' :: '\n' :: rest => (readLongLiteral rest).map (prepend '\n')
  | c :: rest =>
      if c == '\n' || isPrintable c then (readLongLiteral rest).map (prepend c) else none

-- A line end right after the opening quotes does not count.
def dropNewline : List Char → List Char
  | '\n' :: rest => rest
  | '\r' :: '\n' :: rest => rest
  | cs => cs

/-- A string of any of the four forms. -/
def readString : List Char → Option Text
  | '"' :: '"' :: '"' :: rest => readLongBasic false (dropNewline rest)
  | '"' :: rest => readBasic rest
  | '\'' :: '\'' :: '\'' :: rest => readLongLiteral (dropNewline rest)
  | '\'' :: rest => readLiteral rest
  | _ => none

-- Keys.

def isBare (c : Char) : Bool := c.isAlphanum || c == '-' || c == '_'

/-- One part of a key: bare, or a string of one line. -/
def readKeyPart : List Char → Option (String × List Char)
  | '"' :: rest => (readBasic rest).map fun text => (String.ofList text.1, text.2)
  | '\'' :: rest => (readLiteral rest).map fun text => (String.ofList text.1, text.2)
  | cs =>
      let word := cs.takeWhile isBare
      if word.isEmpty then none else some (String.ofList word, cs.dropWhile isBare)

-- Numbers.

-- Digits after a first one; an underscore has to stand between two digits.
def moreDigits (accept : Char → Bool) : List Char → Option Text
  | [] => some ([], [])
  | '_' :: [] => none
  | '_' :: c :: rest => if accept c then (moreDigits accept rest).map (prepend c) else none
  | c :: rest =>
      if accept c then (moreDigits accept rest).map (prepend c) else some ([], c :: rest)

def someDigits (accept : Char → Bool) : List Char → Option Text
  | [] => none
  | c :: rest => if accept c then (moreDigits accept rest).map (prepend c) else none

def isHex (c : Char) : Bool := (hexDigit? c).isSome
def isOctal (c : Char) : Bool := '0' ≤ c && c ≤ '7'
def isBinary (c : Char) : Bool := c == '0' || c == '1'

def inBase (base : Nat) (digits : List Char) : Nat :=
  digits.foldl (fun value c => value * base + (hexDigit? c).getD 0) 0

-- Whole numbers are 64 bits wide and signed.
def wholeNumber? (n : Int) : Option Value :=
  if -intLimit ≤ n && n < intLimit then some (.int n) else none

def readRadix (base : Nat) (accept : Char → Bool) (cs : List Char) :
    Option (Value × List Char) := do
  let (digits, rest) ← someDigits accept cs
  return (← wholeNumber? (inBase base digits), rest)

def applySign (negative : Bool) (x : Float) : Float := if negative then -x else x

-- The fraction digits of a number, if there are any.
def readFraction : List Char → Option Text
  | '.' :: rest => someDigits Char.isDigit rest
  | cs => some ([], cs)

-- The sign and the digits of an exponent.
def readExponent : List Char → Option (Bool × List Char × List Char)
  | mark :: rest =>
      if mark == 'e' || mark == 'E' then
        let (down, digits) :=
          match rest with
          | '+' :: after => (false, after)
          | '-' :: after => (true, after)
          | after => (false, after)
        (someDigits Char.isDigit digits).map fun text => (down, text.1, text.2)
      else some (false, [], mark :: rest)
  | [] => some (false, [], [])

def floatOf? (negative : Bool) (whole fraction : List Char) (down : Bool) (power : List Char) :
    Option Value :=
  let shift := Int.ofNat (inBase 10 power)
  let exponent := (if down then -shift else shift) - Int.ofNat fraction.length
  let x := (Decimal.mk (inBase 10 (whole ++ fraction)) exponent).toFloat
  -- A number that is too large is refused, unless it is negative.
  if x.isInf && !negative then none else some (.float (applySign negative x))

def readDecimal (negative : Bool) (cs : List Char) : Option (Value × List Char) := do
  let (whole, afterWhole) ←
    match cs with
    | '0' :: rest => some (['0'], rest)
    | _ => someDigits Char.isDigit cs
  let (fraction, afterFraction) ← readFraction afterWhole
  let (down, power, rest) ← readExponent afterFraction
  if fraction.isEmpty && power.isEmpty then
    let n := Int.ofNat (inBase 10 whole)
    return (← wholeNumber? (if negative then -n else n), rest)
  else return (← floatOf? negative whole fraction down power, rest)

def readSigned (negative : Bool) (cs : List Char) : Option (Value × List Char) :=
  match cs with
  | 'i' :: 'n' :: 'f' :: rest => some (.float (applySign negative (1.0 / 0.0)), rest)
  | 'n' :: 'a' :: 'n' :: rest => some (.float (0.0 / 0.0), rest)
  | _ => readDecimal negative cs

def readNumber : List Char → Option (Value × List Char)
  | '0' :: 'x' :: rest => readRadix 16 isHex rest
  | '0' :: 'o' :: rest => readRadix 8 isOctal rest
  | '0' :: 'b' :: rest => readRadix 2 isBinary rest
  | '+' :: rest => readSigned false rest
  | '-' :: rest => readSigned true rest
  | cs => readSigned false cs

-- Dates and times.

def twoDigits? (a b : Char) : Option Nat :=
  if a.isDigit && b.isDigit then some (inBase 10 [a, b]) else none

def daysIn (year month : Nat) : Nat :=
  if month == 2 then
    if year % 4 == 0 && (year % 100 != 0 || year % 400 == 0) then 29 else 28
  else if [4, 6, 9, 11].contains month then 30
  else 31

/-- The text after a date. -/
def readDate : List Char → Option (List Char)
  | a :: b :: c :: d :: '-' :: e :: f :: '-' :: g :: h :: rest => do
      let century ← twoDigits? a b
      let year ← twoDigits? c d
      let month ← twoDigits? e f
      let day ← twoDigits? g h
      if 1 ≤ month && month ≤ 12 && 1 ≤ day && day ≤ daysIn (century * 100 + year) month then
        some rest
      else none
  | _ => none

/-- The text after a time of day; a minute may have a leap second. -/
def readTime : List Char → Option (List Char)
  | a :: b :: ':' :: c :: d :: ':' :: e :: f :: rest => do
      let hour ← twoDigits? a b
      let minute ← twoDigits? c d
      let second ← twoDigits? e f
      if 24 ≤ hour || 60 ≤ minute || 60 < second then none
      else
        match rest with
        | '.' :: g :: after => if g.isDigit then some (after.dropWhile Char.isDigit) else none
        | '.' :: [] => none
        | _ => some rest
  | _ => none

/-- The text after an offset from universal time; it may be missing. -/
def readOffset : List Char → Option (List Char)
  | 'Z' :: rest => some rest
  | 'z' :: rest => some rest
  | mark :: rest =>
      if mark == '+' || mark == '-' then
        match rest with
        | a :: b :: ':' :: c :: d :: after => do
            let hour ← twoDigits? a b
            let minute ← twoDigits? c d
            if hour < 24 && minute < 60 then some after else none
        | _ => none
      else some (mark :: rest)
  | [] => some []

def startsHour : List Char → Bool
  | a :: b :: ':' :: _ => a.isDigit && b.isDigit
  | _ => false

/-- The text after a date with an optional time, or after a time. -/
def readMoment (cs : List Char) : Option (List Char) :=
  match readDate cs with
  | none => readTime cs
  | some [] => some []
  | some (mark :: rest) =>
      if (mark == 'T' || mark == 't' || mark == ' ') && startsHour rest then
        (readTime rest).bind readOffset
      else some (mark :: rest)

def looksLikeMoment (cs : List Char) : Bool :=
  match cs with
  | a :: b :: c :: d :: '-' :: _ => [a, b, c, d].all Char.isDigit
  | a :: b :: ':' :: _ => a.isDigit && b.isDigit
  | _ => false

-- A moment is a record with a single field that no key of a text can name by accident.
def momentKey : String := "$moment"

def momentValue (written : List Char) : Value :=
  .object [(momentKey, .text (String.ofList written))]

/-- A number, a date or a time. -/
def readNumeric (cs : List Char) : Option (Value × List Char) :=
  if looksLikeMoment cs then
    (readMoment cs).map fun rest => (momentValue (cs.take (cs.length - rest.length)), rest)
  else readNumber cs

end SpanAnnotation.Wire.Toml
