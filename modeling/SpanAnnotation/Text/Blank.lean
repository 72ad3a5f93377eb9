/-!
White space, and the cuts of a text that depend on it: trimming, lines and words.
-/

set_option autoImplicit false

namespace SpanAnnotation.Text

/-- The characters with the Unicode property White_Space. -/
def isBlank (c : Char) : Bool :=
  let code := c.toNat
  (9 ≤ code && code ≤ 13) || code == 0x20 || code == 0x85 || code == 0xA0 || code == 0x1680 ||
    (0x2000 ≤ code && code ≤ 0x200A) || code == 0x2028 || code == 0x2029 || code == 0x202F ||
    code == 0x205F || code == 0x3000

def trimLeft (cs : List Char) : List Char := cs.dropWhile isBlank

def trimRight (cs : List Char) : List Char := (cs.reverse.dropWhile isBlank).reverse

def trim (cs : List Char) : List Char := trimRight (trimLeft cs)

/-- Cuts at every character that satisfies the test; there is always a last piece. -/
def splitAt (cut : Char → Bool) : List Char → List (List Char)
  | [] => [[]]
  | c :: rest =>
      if cut c then [] :: splitAt cut rest
      else
        match splitAt cut rest with
        | [] => [[c]]
        | piece :: pieces => (c :: piece) :: pieces

-- A carriage return before the line feed stays in the line, where trimming removes it.
def lines (cs : List Char) : List (List Char) := splitAt (· == '\n') cs

/-- The maximal runs of characters that are not blank. -/
def words (cs : List Char) : List (List Char) :=
  (splitAt isBlank cs).filter fun word => !word.isEmpty

/-- The text before and after the last occurrence of a character. -/
def cutLast (mark : Char) : List Char → Option (List Char × List Char)
  | [] => none
  | c :: rest =>
      match cutLast mark rest with
      | some (before, after) => some (c :: before, after)
      | none => if c == mark then some ([], rest) else none

theorem splitAt_ne_nil (cut : Char → Bool) (cs : List Char) : splitAt cut cs ≠ [] := by
  cases cs with
  | nil => simp [splitAt]
  | cons c rest =>
    simp only [splitAt]
    split
    · simp
    · split <;> simp

end SpanAnnotation.Text
