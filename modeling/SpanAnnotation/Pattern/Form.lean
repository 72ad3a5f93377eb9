import SpanAnnotation.Pattern.Expression

/-!
The simplest form of an expression, the one an automaton is built from. Sequences hold no sequence,
no empty part and no two literals in a row; choices hold no choice; a choice between single
characters or sets is one set; and what all branches of a choice start with stands before it.
-/

set_option autoImplicit false

namespace SpanAnnotation.Pattern

inductive Form where
  | empty
  | literal (cs : List Char)
  | set (chars : CharSet)
  | look (condition : Look)
  | repeated (a : Form) (least : Nat) (most : Option Nat) (greedy : Bool)
  | group (number : Nat) (a : Form)
  | sequence (parts : List Form)
  | choice (branches : List Form)
  deriving Repr

namespace Form

mutual

def same : Form → Form → Bool
  | .empty, .empty => true
  | .literal a, .literal b => a == b
  | .set a, .set b => a == b
  | .look a, .look b => a == b
  | .repeated a least most greedy, .repeated b least' most' greedy' =>
      a.same b && least == least' && most == most' && greedy == greedy'
  | .group number a, .group number' b => number == number' && a.same b
  | .sequence a, .sequence b => sameAll a b
  | .choice a, .choice b => sameAll a b
  | _, _ => false

def sameAll : List Form → List Form → Bool
  | [], [] => true
  | a :: as, b :: bs => a.same b && sameAll as bs
  | _, _ => false

end

mutual

-- How many forms a form is made of.
def size : Form → Nat
  | .repeated a _ _ _ => a.size + 1
  | .group _ a => a.size + 1
  | .sequence parts => sizeAll parts + 1
  | .choice branches => sizeAll branches + 1
  | _ => 1

def sizeAll : List Form → Nat
  | [] => 0
  | form :: rest => form.size + sizeAll rest

end

mutual

/-- Every match is empty. -/
def isBlank : Form → Bool
  | .empty => true
  | .literal _ => false
  | .set _ => false
  | .look _ => true
  | .repeated a _ most _ => most.isSome && a.isBlank
  | .group _ a => a.isBlank
  | .sequence parts => allBlank parts
  | .choice branches => allBlank branches

def allBlank : List Form → Bool
  | [] => true
  | form :: rest => form.isBlank && allBlank rest

end

mutual

/-- The length of a shortest match; without a match there is none. -/
def shortest? : Form → Option Nat
  | .empty => some 0
  | .literal cs => some cs.length
  | .set chars => if chars.ranges.isEmpty then none else some 1
  | .look _ => some 0
  | .repeated a least _ _ => a.shortest?.map (· * least)
  | .group _ a => a.shortest?
  | .sequence parts => totalShortest parts
  | .choice branches => leastShortest branches

def totalShortest : List Form → Option Nat
  | [] => some 0
  | form :: rest =>
      match form.shortest?, totalShortest rest with
      | some a, some b => some (a + b)
      | _, _ => none

def leastShortest : List Form → Option Nat
  | [] => none
  | [form] => form.shortest?
  | form :: rest =>
      match form.shortest?, leastShortest rest with
      | some a, some b => some (min a b)
      | _, _ => none

end

mutual

/-- Whether every match starts, or ends, where the condition holds, as far as the form tells. -/
def demands (condition : Look) (atEnd : Bool) : Form → Bool
  | .look other => other == condition
  | .repeated a least _ _ => 0 < least && a.demands condition atEnd
  | .group _ a => a.demands condition atEnd
  | .sequence parts => if atEnd then lastDemands condition parts else firstDemands condition parts
  | .choice branches => eachDemands condition atEnd branches
  | _ => false

-- Of the parts up to the first one with characters.
def firstDemands (condition : Look) : List Form → Bool
  | [] => false
  | form :: rest =>
      form.demands condition false || (form.isBlank && firstDemands condition rest)

-- Of the parts from the last one with characters on.
def lastDemands (condition : Look) : List Form → Bool
  | [] => false
  | form :: rest =>
      lastDemands condition rest || (allBlank rest && form.demands condition true)

def eachDemands (condition : Look) (atEnd : Bool) : List Form → Bool
  | [] => true
  | form :: rest => form.demands condition atEnd && eachDemands condition atEnd rest

end

-- Building forms.

def ofSet (chars : CharSet) : Form :=
  match chars.ranges with
  | [(first, last)] => if first == last then .literal [Char.ofNat first] else .set chars
  | _ => .set chars

def parts : Form → List Form
  | .empty => []
  | .sequence parts => parts
  | form => [form]

def branches : Form → List Form
  | .choice branches => branches
  | form => [form]

def ofParts : List Form → Form
  | [] => .empty
  | [form] => form
  | forms => .sequence forms

/-- Puts a part in front of others; two literals become one. -/
def prepend (form : Form) (rest : List Form) : List Form :=
  match form, rest with
  | .literal a, .literal b :: tail => .literal (a ++ b) :: tail
  | form, rest => form :: rest

def append (a b : Form) : Form := ofParts (a.parts.foldr prepend b.parts)

/-- Without characters, one repetition is as good as many. -/
def times (a : Form) (least : Nat) (most : Option Nat) (greedy : Bool) : Form :=
  let least := if a.isBlank then min least 1 else least
  let most := if a.isBlank then some ((most.map fun most => min most 1).getD 1) else most
  if least == 0 && most == some 0 then .empty
  else if least == 1 && most == some 1 then a
  else .repeated a least most greedy

def singleChar? : Form → Option Char
  | .literal [c] => some c
  | _ => none

def charSet? : Form → Option CharSet
  | .set chars => some chars
  | _ => none

def sequenceParts? : Form → Option (List Form)
  | .sequence parts => some parts
  | _ => none

-- How many parts two sequences have in common at the front.
def commonLength : List Form → List Form → Nat
  | a :: as, b :: bs => if a.same b then commonLength as bs + 1 else 0
  | _, _ => 0

/-- A choice between branches that are no choices. -/
def ofBranches : Nat → List Form → Form
  | 0, forms => .choice forms
  | _ + 1, [] => .set .empty
  | _ + 1, [form] => form
  | fuel + 1, forms =>
      match forms.mapM singleChar?, forms.mapM charSet?, forms.mapM sequenceParts? with
      | some chars, _, _ => ofSet (.ofChars chars)
      | _, some sets, _ => ofSet (.unions sets)
      | _, _, some (first :: others) =>
          let shared := others.foldl (fun count other => min count (commonLength first other))
            first.length
          if shared == 0 then .choice forms
          else
            let tails := (first :: others).map fun parts => ofParts (parts.drop shared)
            append (ofParts (first.take shared)) (ofBranches fuel (tails.flatMap branches))
      | _, _, _ => .choice forms

def choose (forms : List Form) : Form :=
  let flat := forms.flatMap branches
  ofBranches (sizeAll flat + 1) flat

/-- The branches of an expression, each in its simplest form. -/
def branchesOf : Expression → List Form
  | .empty => [.empty]
  | .set chars => [ofSet chars]
  | .look condition => [.look condition]
  | .sequence a b => [append (choose (branchesOf a)) (choose (branchesOf b))]
  | .choice a b => choose (branchesOf a) :: branchesOf b
  | .repeated a least most greedy => [times (choose (branchesOf a)) least most greedy]
  | .group none a => [choose (branchesOf a)]
  | .group (some number) a => [.group number (choose (branchesOf a))]

def ofExpression (expression : Expression) : Form := choose (branchesOf expression)

end Form

end SpanAnnotation.Pattern
