import SpanAnnotation.Pattern.CharSet

/-!
Ranges of characters as sequences of byte ranges: a character of a range is written in UTF-8 as one
byte out of each range of exactly one of its sequences.
-/

set_option autoImplicit false

namespace SpanAnnotation.Pattern

-- The bytes from the first to the last.
abbrev ByteRange := Nat × Nat

/-- The bytes of a code point in UTF-8. -/
def utf8Bytes (code : Nat) : List Nat :=
  if code < 0x80 then [code]
  else if code < 0x800 then [0xC0 + code / 0x40, 0x80 + code % 0x40]
  else if code < 0x10000 then
    [0xE0 + code / 0x1000, 0x80 + code / 0x40 % 0x40, 0x80 + code % 0x40]
  else
    [0xF0 + code / 0x40000, 0x80 + code / 0x1000 % 0x40, 0x80 + code / 0x40 % 0x40,
      0x80 + code % 0x40]

/-- Where a range must be cut so that its later bytes take all values: at the end of the block of
the given size that the range starts in, or at the start of the one that it ends in. -/
def cutAtBlock? (first last size : Nat) : Option (Nat × Nat) :=
  if first / size == last / size then none
  else if first % size != 0 then
    let stop := first - first % size + size - 1
    some (stop, stop + 1)
  else if last % size != size - 1 then
    let start := last - last % size
    some (start - 1, start)
  else none

/-- The end of the first part and the start of the second, if one sequence does not do. -/
def cutRange? (first last : Nat) : Option (Nat × Nat) :=
  if first < 0xE000 && 0xD7FF < last then some (0xD7FF, 0xE000)
  else
    match [0x7F, 0x7FF, 0xFFFF].find? fun longest => first ≤ longest && longest < last with
    | some longest => some (longest, longest + 1)
    | none =>
        if last < 0x80 then none
        else
          (cutAtBlock? first last 0x40).or
            ((cutAtBlock? first last 0x1000).or (cutAtBlock? first last 0x40000))

-- No range is cut more often on the way to a sequence.
def cutDepth : Nat := 24

def sequencesFrom : Nat → Nat → Nat → List (List ByteRange)
  | 0, _, _ => []
  | fuel + 1, first, last =>
      if last < first then []
      else
        match cutRange? first last with
        | some (stop, start) => sequencesFrom fuel first stop ++ sequencesFrom fuel start last
        | none => [List.zip (utf8Bytes first) (utf8Bytes last)]

/-- The byte sequences of a set in increasing order. -/
def CharSet.sequences (set : CharSet) : List (List ByteRange) :=
  set.ranges.flatMap fun (first, last) => sequencesFrom cutDepth first last

end SpanAnnotation.Pattern
