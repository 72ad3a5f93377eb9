import SpanAnnotation.Pattern.ByteRange
import SpanAnnotation.Pattern.Form
import SpanAnnotation.Pattern.LiteralTree
import SpanAnnotation.Pattern.SlotTable

/-!
How large the automata of a form are. A form has one that reads a text forwards and one that reads
it backwards; both go by the bytes of characters. Only their states are counted here, in the
order in which they are made, and a pattern whose automata take too much is refused.
-/

set_option autoImplicit false

namespace SpanAnnotation.Pattern

inductive Direction where
  | forward | backward
  deriving DecidableEq, Repr

-- The largest automaton, and what every state takes besides its ways, in bytes.
def sizeLimit : Nat := 0xA00000
def stateBytes : Nat := 32

def Weight.bytes (weight : Weight) : Nat := stateBytes * weight.states + weight.listed

namespace Automaton

-- Building an automaton ends without a result as soon as it is too large.
abbrev Assembly (α : Type) := StateT Weight Option α

def charge (weight : Weight) : Assembly Unit := fun before =>
  let total := before.add weight
  if total.bytes ≤ sizeLimit then some ((), total) else none

def grow : Assembly Unit := charge ⟨1, 0⟩

def jumps (count : Nat) : Assembly Unit := charge ⟨0, jumpBytes * count⟩

/-- Leads from the end of a part to another. Only a state that branches lists where it leads. -/
def leave (branching : Bool) : Assembly Unit := jumps (if branching then 1 else 0)

-- Sets of characters.

-- The states made so far, by what follows them, with the next number and the size of the lists.
structure Growth where
  known : SlotTable
  next : Nat
  listed : Nat

def Growth.weight (growth : Growth) (first : Nat) : Weight := ⟨growth.next - first, growth.listed⟩

/-- A state with the given contents: a known one, or a new one. -/
def Growth.state (growth : Growth) (contents : List Nat) (listed : Nat) : Nat × Growth :=
  match growth.known.find? contents with
  | some state => (state, growth)
  | none =>
      (growth.next,
        ⟨growth.known.put contents growth.next, growth.next + 1, growth.listed + listed⟩)

/-- Neighbours that start with the same bytes, with what comes after them. -/
def groupByHead : List (List ByteRange) → List (ByteRange × List (List ByteRange))
  | [] => []
  | [] :: rest => groupByHead rest
  | (head :: tail) :: rest =>
      match groupByHead rest with
      | (other, tails) :: groups =>
          if other == head then (head, tail :: tails) :: groups
          else (head, [tail]) :: (other, tails) :: groups
      | [] => [(head, [tail])]

/-- The state that reads the sequences up to a common end. -/
def forwardState (stop : Nat) : Nat → List (List ByteRange) → Growth → Nat × Growth
  | 0, _, growth => (stop, growth)
  | fuel + 1, sequences, growth =>
      let groups := groupByHead sequences
      let (contents, growth) := groups.foldl (fun (contents, growth) (bytes, tails) =>
        let (next, growth) :=
          if tails.all List.isEmpty then (stop, growth) else forwardState stop fuel tails growth
        (contents ++ [bytes.1, bytes.2, next], growth)) (([] : List Nat), growth)
      growth.state contents (wayBytes * groups.length)

def longestSequence : Nat := 4

/-- States with the same ways on are shared. The first state is the common end. -/
def forwardSet (first : Nat) (sequences : List (List ByteRange)) : Weight :=
  (forwardState first longestSequence sequences ⟨.empty 10000, first + 1, 0⟩).2.weight first

/-- Every sequence is a chain from its last byte to its first, and the chains share their ends. The
first two states are the branching one and the common end. -/
def backwardSet (first : Nat) (sequences : List (List ByteRange)) : Weight :=
  let chain (growth : Growth) (sequence : List ByteRange) : Growth :=
    (sequence.foldl (fun (stop, growth) bytes =>
      Growth.state growth [stop, bytes.1, bytes.2] 0) (first + 1, growth)).2
  let growth := sequences.foldl chain ⟨.empty 1000, first + 2, jumpBytes * sequences.length⟩
  growth.weight first

def addSet (direction : Direction) (chars : CharSet) : Assembly Bool := do
  if chars.isAscii then charge ⟨2, wayBytes * chars.ranges.length⟩
  else
    let first := (← get).states
    charge (match direction with
      | .forward => forwardSet first chars.sequences
      | .backward => backwardSet first chars.sequences)
  return false

-- Parts. Each tells whether its end is a branching state.

def addEmpty : Assembly Bool := do
  grow
  return false

-- One part after another, in the order in which they are made.
def chainFrom (branching : Bool) : List (Assembly Bool) → Assembly Bool
  | [] => pure branching
  | part :: rest => do
      let ends ← part
      leave branching
      chainFrom ends rest

def chain : List (Assembly Bool) → Assembly Bool
  | [] => addEmpty
  | part :: rest => do chainFrom (← part) rest

def copiesFrom (part : Assembly Bool) (branching : Bool) : Nat → Assembly Bool
  | 0 => pure branching
  | count + 1 => do
      let ends ← part
      leave branching
      copiesFrom part ends count

def copies (part : Assembly Bool) : Nat → Assembly Bool
  | 0 => addEmpty
  | count + 1 => do copiesFrom part (← part) count

-- A branching state before every copy leads into it or past all that follow.
def optionsFrom (part : Assembly Bool) (branching : Bool) : Nat → Assembly Bool
  | 0 => pure branching
  | count + 1 => do
      grow
      let ends ← part
      leave branching
      jumps 2
      optionsFrom part ends count

def addBounded (part : Assembly Bool) (least most : Nat) : Assembly Bool := do
  let ends ← copies part least
  grow
  leave (← optionsFrom part ends (most - least))
  return false

def addOptional (part : Assembly Bool) : Assembly Bool := do
  grow
  let ends ← part
  grow
  jumps 2
  leave ends
  return false

/-- A loop. One whose part may be empty is left through a state of its own. -/
def addLoop (part : Assembly Bool) (nonempty : Bool) : Nat → Assembly Bool
  | 0 => do
      if nonempty then
        grow
        let ends ← part
        jumps 1
        leave ends
        return true
      else
        let ends ← part
        grow
        leave ends
        grow
        grow
        jumps 4
        return false
  | 1 => do
      let ends ← part
      grow
      leave ends
      jumps 1
      return true
  | count + 2 => do
      let ends ← copies part (count + 1)
      let last ← part
      grow
      leave ends
      leave last
      jumps 1
      return true

def addRepeated (part : Assembly Bool) (nonempty : Bool) (least : Nat) :
    Option Nat → Assembly Bool
  | none => addLoop part nonempty least
  | some most =>
      if least == 0 && most == 1 then addOptional part
      else if least == most then copies part least
      else addBounded part least most

/-- Only the automaton that reads forwards keeps what groups match. -/
def addGroup (direction : Direction) (part : Assembly Bool) : Assembly Bool :=
  match direction with
  | .backward => part
  | .forward => do
      grow
      let ends ← part
      grow
      leave ends
      return false

def addBranches : List (Assembly Bool) → Assembly Unit
  | [] => pure ()
  | branch :: rest => do
      let ends ← branch
      jumps 1
      leave ends
      addBranches rest

/-- The branching state and the common end are made after the second branch. -/
def addChoice : List (Assembly Bool) → Assembly Bool
  | [] => addEmpty
  | [branch] => branch
  | first :: second :: rest => do
      let ends ← first
      let ends' ← second
      grow
      grow
      jumps 2
      leave ends
      leave ends'
      addBranches rest
      return false

def literal? : Form → Option (List Char)
  | .literal cs => some cs
  | _ => none

def literalBytes (direction : Direction) (cs : List Char) : List Nat :=
  let bytes := cs.flatMap fun c => utf8Bytes c.toNat
  match direction with
  | .forward => bytes
  | .backward => bytes.reverse

mutual

def add (direction : Direction) : Form → Assembly Bool
  | .empty => addEmpty
  | .literal cs => do
      charge ⟨(literalBytes direction cs).length, 0⟩
      return false
  | .set chars => addSet direction chars
  | .look _ => addEmpty
  | .repeated a least most _ =>
      addRepeated (add direction a) (0 < a.shortest?.getD 0) least most
  | .group _ a => addGroup direction (add direction a)
  | .sequence parts =>
      match direction with
      | .forward => chain (addAll .forward parts)
      | .backward => chain (addAll .backward parts).reverse
  | .choice branches =>
      match branches.mapM literal? with
      | some words => do
          charge (LiteralTree.weight (words.map (literalBytes direction)))
          return false
      | none => addChoice (addAll direction branches)

def addAll (direction : Direction) : List Form → List (Assembly Bool)
  | [] => []
  | form :: rest => add direction form :: addAll direction rest

end

/-- A match may start anywhere, unless the form demands otherwise. -/
def addWhole (direction : Direction) (form : Form) : Assembly Unit := do
  let anchored :=
    match direction with
    | .forward => form.demands .textStart false
    | .backward => form.demands .textEnd true
  charge (if anchored then ⟨1, 0⟩ else ⟨3, wayBytes + jumpBytes⟩)
  let ends ← addGroup direction (add direction form)
  grow
  leave ends
  leave !anchored

def fits (form : Form) : Bool :=
  ((addWhole .forward form).run ⟨0, 0⟩).isSome && ((addWhole .backward form).run ⟨0, 0⟩).isSome

end Automaton

end SpanAnnotation.Pattern
