import SpanAnnotation.Text.CaseTables

/-!
The small form of a text: the full Unicode mapping, in which a capital sigma becomes the final
form at the end of a word and a capital I with a dot above keeps the dot as a combining mark.
-/

set_option autoImplicit false

namespace SpanAnnotation.Text

def isCased (c : Char) : Bool := Strides.contains casedStrides c.toNat

def isCaseIgnorable (c : Char) : Bool := Ranges.contains caseIgnorableRanges c.toNat

/-- The small form of one character out of context. -/
def lowerChar (c : Char) : List Char :=
  if c.toNat == 0x130 then ['i', Char.ofNat 0x307]
  else [Char.ofNat (lowercaseShifts.apply c.toNat)]

/-- The next character that is not case ignorable is cased. -/
def casedNext (cs : List Char) : Bool :=
  match cs.dropWhile isCaseIgnorable with
  | [] => false
  | c :: _ => isCased c

-- The characters before are held in reverse order.
def lowerFrom (before : List Char) : List Char → List Char
  | [] => []
  | c :: rest =>
      let small :=
        if c.toNat == 0x3A3 then
          [Char.ofNat (if casedNext before && !casedNext rest then 0x3C2 else 0x3C3)]
        else lowerChar c
      small ++ lowerFrom (c :: before) rest

def lowercase (text : String) : String := String.ofList (lowerFrom [] text.toList)

end SpanAnnotation.Text
