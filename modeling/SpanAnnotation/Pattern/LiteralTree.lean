/-!
Trees of literals: the words of a choice put together by what they start with. Words are tried in
the order given, so a word that ends at a node parts the ways that come before it from those after.
-/

set_option autoImplicit false

namespace SpanAnnotation.Pattern

-- How many states a part of an automaton takes, and how many bytes its lists of ways take.
structure Weight where
  states : Nat
  listed : Nat
  deriving DecidableEq, Repr

def Weight.add (a b : Weight) : Weight := ⟨a.states + b.states, a.listed + b.listed⟩

-- One way out of a state for a range of bytes, and one without.
def wayBytes : Nat := 8
def jumpBytes : Nat := 4

namespace LiteralTree

/-- What is left of the words at a node, in groups with an end of a word between them. After the
first end, no more ends are kept until there is a way on. -/
def groupsOf (done : List (List (List Nat))) (current : List (List Nat)) :
    List (List Nat) → List (List (List Nat))
  | [] => (current.reverse :: done).reverse
  | [] :: words =>
      if !done.isEmpty && current.isEmpty && done.all List.isEmpty then groupsOf done current words
      else groupsOf (current.reverse :: done) [] words
  | word :: words => groupsOf done (word :: current) words

def firstBytes (words : List (List Nat)) : List Nat := (words.filterMap List.head?).eraseDups

-- What is left of the words that start with the byte.
def after (byte : Nat) (words : List (List Nat)) : List (List Nat) :=
  (words.filter fun word => word.head? == some byte).map fun word => word.drop 1

/-- A node with a way on takes a state for every group and one that leads to the groups and ends. -/
def weigh : Nat → List (List Nat) → Weight
  | 0, _ => ⟨0, 0⟩
  | fuel + 1, words =>
      if words.all List.isEmpty then ⟨0, 0⟩
      else
        let groups := groupsOf [] [] words
        let filled := groups.filter fun group => !group.isEmpty
        let own : Weight :=
          ⟨filled.length + 1, jumpBytes * (filled.length + (groups.length - 1))⟩
        filled.foldl (fun weight group =>
          let bytes := firstBytes group
          let ways := if bytes.length == 1 then 0 else wayBytes * bytes.length
          bytes.foldl (fun weight byte => weight.add (weigh fuel (after byte group)))
            (weight.add ⟨0, ways⟩)) own

/-- The tree with the state that all its words end in. -/
def weight (words : List (List Nat)) : Weight :=
  let longest := (words.map List.length).foldl max 0
  (weigh (longest + 1) words).add ⟨1, 0⟩

end LiteralTree

end SpanAnnotation.Pattern
