import SpanAnnotation.Annotation

/-!
The annotations of a document by identity, in order of identity. An identity occurs once.
-/

set_option autoImplicit false

namespace SpanAnnotation

def insertById (a : Annotation) : List Annotation → List Annotation
  | [] => [a]
  | b :: rest =>
      if a.id < b.id then a :: b :: rest
      else if a.id = b.id then a :: rest
      else b :: insertById a rest

theorem mem_insertById (a x : Annotation) (list : List Annotation)
    (present : x ∈ insertById a list) : x = a ∨ x ∈ list := by
  induction list with
  | nil => simpa [insertById] using present
  | cons b rest ih =>
    simp only [insertById] at present
    split at present
    · simpa using present
    · split at present
      · rcases List.mem_cons.mp present with same | old
        · exact .inl same
        · exact .inr (List.mem_cons_of_mem b old)
      · rcases List.mem_cons.mp present with same | old
        · exact .inr (by simp [same])
        · rcases ih old with new | before
          · exact .inl new
          · exact .inr (List.mem_cons_of_mem b before)

theorem insertById_increasing (a : Annotation) (list : List Annotation)
    (increasing : list.Pairwise fun x y => x.id < y.id) :
    (insertById a list).Pairwise fun x y => x.id < y.id := by
  induction list with
  | nil => simp [insertById]
  | cons b rest ih =>
    obtain ⟨below, tail⟩ := List.pairwise_cons.mp increasing
    simp only [insertById]
    split
    next less =>
      refine List.pairwise_cons.mpr ⟨?_, increasing⟩
      intro x present
      rcases List.mem_cons.mp present with same | old
      · simpa [same] using less
      · exact Nat.lt_trans less (below x old)
    next notLess =>
      split
      next same =>
        refine List.pairwise_cons.mpr ⟨?_, tail⟩
        intro x present
        simpa [same] using below x present
      next different =>
        refine List.pairwise_cons.mpr ⟨?_, ih tail⟩
        intro x present
        rcases mem_insertById a x rest present with same | old
        · subst same
          omega
        · exact below x old

structure Arena where
  entries : List Annotation
  increasing : entries.Pairwise fun a b => a.id < b.id
  deriving DecidableEq, Repr

namespace Arena

def empty : Arena := ⟨[], .nil⟩

def find? (arena : Arena) (id : Nat) : Option Annotation :=
  arena.entries.find? fun a => a.id == id

def contains (arena : Arena) (id : Nat) : Bool := (arena.find? id).isSome

def size (arena : Arena) : Nat := arena.entries.length

-- An annotation of the same identity is replaced.
def insert (arena : Arena) (a : Annotation) : Arena :=
  ⟨insertById a arena.entries, insertById_increasing a arena.entries arena.increasing⟩

def erase (arena : Arena) (id : Nat) : Arena :=
  ⟨arena.entries.filter fun a => a.id != id, arena.increasing.filter _⟩

end Arena

end SpanAnnotation
