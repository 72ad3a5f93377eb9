import SpanAnnotation.Pattern.CaseFolding

/-!
Sets of characters as patterns describe them: increasing ranges of code points with a gap between
any two, so that equal sets have equal ranges. Surrogates are no characters and in no set that an
operation gives.
-/

set_option autoImplicit false

namespace SpanAnnotation.Pattern

open Text

-- The entry goes in front of the first one that does not start below it; `tail` makes the rest.
def insertBefore (entry : Nat × Nat) (tail : Ranges → Ranges) : Ranges → Ranges
  | [] => entry :: tail []
  | other :: rest =>
      if other.1 < entry.1 then other :: insertBefore entry tail rest
      else entry :: tail (other :: rest)

-- Two increasing tables as one.
def interleave : Ranges → Ranges → Ranges
  | [], table => table
  | entry :: rest, table => insertBefore entry (fun more => interleave rest more) table

def joinFrom (first last : Nat) : Ranges → Ranges
  | [] => [(first, last)]
  | (next, stop) :: rest =>
      if next ≤ last + 1 then joinFrom first (max last stop) rest
      else (first, last) :: joinFrom next stop rest

/-- Ranges that overlap or touch become one. -/
def joinNeighbours : Ranges → Ranges
  | [] => []
  | (first, last) :: rest => joinFrom first last rest

def lastCode : Nat := 0x10FFFF

-- What lies between the ranges, from `next` on.
def gapsFrom (next : Nat) : Ranges → Ranges
  | [] => if next ≤ lastCode then [(next, lastCode)] else []
  | (first, last) :: rest =>
      if next < first then (next, first - 1) :: gapsFrom (last + 1) rest
      else gapsFrom (last + 1) rest

structure CharSet where
  ranges : Ranges
  deriving DecidableEq, Repr

namespace CharSet

def containsCode (set : CharSet) (code : Nat) : Bool := Ranges.contains set.ranges code

def contains (set : CharSet) (c : Char) : Bool := set.containsCode c.toNat

def empty : CharSet := ⟨[]⟩

def range (first last : Nat) : CharSet := ⟨[(first, last)]⟩

def single (c : Char) : CharSet := range c.toNat c.toNat

-- The set of an increasing table.
def ofRanges (table : Ranges) : CharSet := ⟨joinNeighbours table⟩

def ofCodes (codes : List Nat) : CharSet := ofRanges (codes.map fun code => (code, code))

def ofStrides (table : Strides) : CharSet :=
  ofRanges (table.flatMap fun (first, last, step) =>
    if step == 1 then [(first, last)]
    else (codesBetween first last step).map fun code => (code, code))

def union (a b : CharSet) : CharSet := ofRanges (interleave a.ranges b.ranges)

def unions (sets : List CharSet) : CharSet := sets.foldl union empty

def ofChars (cs : List Char) : CharSet := unions (cs.map single)

def surrogates : CharSet := range 0xD800 0xDFFF

def complement (set : CharSet) : CharSet := ⟨gapsFrom 0 (union surrogates set).ranges⟩

def inter (a b : CharSet) : CharSet := complement (union (complement a) (complement b))

def difference (a b : CharSet) : CharSet := complement (union (complement a) b)

def symmetricDifference (a b : CharSet) : CharSet := union (difference a b) (difference b a)

/-- All characters that differ from a member only in case. -/
def folded (set : CharSet) : CharSet :=
  let touched := foldPairs.filter fun (code, target) =>
    set.containsCode code || set.containsCode target
  let targets := unions (touched.map fun (_, target) => range target target)
  let sources := foldPairs.filter fun (_, target) => targets.containsCode target
  union set (union targets (ofCodes (sources.map Prod.fst)))

-- The part of a set between two code points, moved to start at another.
def moved (set : CharSet) (first last start : Nat) : CharSet :=
  ⟨(inter set (range first last)).ranges.map fun (a, b) => (a - first + start, b - first + start)⟩

/-- The same for the Latin letters without marks alone. -/
def foldedAscii (set : CharSet) : CharSet :=
  union set (union (set.moved 0x41 0x5A 0x61) (set.moved 0x61 0x7A 0x41))

def isAscii (set : CharSet) : Bool := set.ranges.all fun (_, last) => last < 0x80

end CharSet

end SpanAnnotation.Pattern
