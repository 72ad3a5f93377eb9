import Mathlib.Data.Multiset.UnionInter
import SpanAnnotation.Proofs.Tallies

/-!
What the comparison of two sentences adds to a tally. One span is matched after the other; together
that is an intersection of multisets and the two differences.
-/

set_option autoImplicit false

namespace SpanAnnotation

def SpanKey.marked (counts : Counts) (key : SpanKey) : String × Counts := (key.category, counts)

-- A span is in both documents, in the evaluated one alone, or in the reference alone.
def verdicts (reference evaluated : Multiset SpanKey) : Multiset (String × Counts) :=
  (evaluated ∩ reference).map (SpanKey.marked ⟨1, 0, 0⟩) +
    (evaluated - reference).map (SpanKey.marked ⟨0, 1, 0⟩) +
    (reference - evaluated).map (SpanKey.marked ⟨0, 0, 1⟩)

variable (reference evaluated : Multiset SpanKey) (key : SpanKey)

theorem verdicts_nil : verdicts reference 0 = reference.map (SpanKey.marked ⟨0, 0, 1⟩) := by
  have none : (0 : Multiset SpanKey) - reference = 0 := by
    ext key
    simp
  simp [verdicts, none]

theorem verdicts_found (present : key ∈ reference) :
    verdicts reference (key ::ₘ evaluated) =
      key.marked ⟨1, 0, 0⟩ ::ₘ verdicts (reference.erase key) evaluated := by
  have spurious : key ::ₘ evaluated - reference = evaluated - reference.erase key := by
    rw [← Multiset.cons_erase present, Multiset.sub_cons, Multiset.erase_cons_head,
      Multiset.erase_cons_head]
  have missed : reference - key ::ₘ evaluated = reference.erase key - evaluated :=
    Multiset.sub_cons _ _ _
  rw [verdicts, Multiset.cons_inter_of_pos _ present, spurious, missed, verdicts]
  simp [Multiset.cons_add]

theorem verdicts_spurious (absent : key ∉ reference) :
    verdicts reference (key ::ₘ evaluated) = key.marked ⟨0, 1, 0⟩ ::ₘ verdicts reference evaluated := by
  have spurious : key ::ₘ evaluated - reference = key ::ₘ (evaluated - reference) := by
    ext other
    have counted := Multiset.count_eq_zero.mpr absent
    by_cases same : other = key
    next => simp [same, counted]
    next => simp [same]
  have missed : reference - key ::ₘ evaluated = reference - evaluated := by
    rw [Multiset.sub_cons, Multiset.erase_of_notMem absent]
  rw [verdicts, Multiset.cons_inter_of_neg _ absent, spurious, missed, verdicts]
  simp [Multiset.cons_add, Multiset.add_cons]

-- How many of the spans have the category.
def labelled (category : String) (keys : Multiset SpanKey) : Nat :=
  keys.countP fun key => key.category = category

theorem countsOf_marked (category : String) (counts : Counts) (keys : Multiset SpanKey) :
    Tally.countsOf category (keys.map (SpanKey.marked counts)) = labelled category keys • counts := by
  induction keys using Multiset.induction_on with
  | empty => simp [labelled]
  | cons key keys ih =>
    rw [Multiset.map_cons, Tally.countsOf_cons, ih]
    by_cases here : key.category = category
    next => simp [labelled, SpanKey.marked, here, succ_nsmul']
    next => simp [labelled, SpanKey.marked, here]

theorem countsOf_verdicts (category : String) :
    Tally.countsOf category (verdicts reference evaluated) =
      ⟨labelled category (evaluated ∩ reference), labelled category (evaluated - reference),
        labelled category (reference - evaluated)⟩ := by
  rw [verdicts, map_add, map_add, countsOf_marked, countsOf_marked, countsOf_marked]
  simp only [Counts.nsmul_eq, Nat.mul_one, Nat.mul_zero]
  apply Counts.ext
  next => exact Nat.add_zero _
  next => exact (Nat.add_zero _).trans (Nat.zero_add _)
  next => exact Nat.zero_add _

theorem foundPart_verdicts (category : String) :
    Counts.foundPart (Tally.countsOf category (verdicts reference evaluated)) =
      labelled category (evaluated ∩ reference) := by
  rw [countsOf_verdicts]
  rfl

theorem referencePart_verdicts (category : String) :
    Counts.referencePart (Tally.countsOf category (verdicts reference evaluated)) =
      labelled category reference := by
  have parts := congrArg (labelled category) (Multiset.sub_add_inter reference evaluated)
  rw [labelled, Multiset.countP_add, add_comm, Multiset.inter_comm] at parts
  rw [countsOf_verdicts]
  exact parts

theorem evaluatedPart_verdicts (category : String) :
    Counts.evaluatedPart (Tally.countsOf category (verdicts reference evaluated)) =
      labelled category evaluated := by
  have parts := congrArg (labelled category) (Multiset.sub_add_inter evaluated reference)
  rw [labelled, Multiset.countP_add, add_comm] at parts
  rw [countsOf_verdicts]
  exact parts

theorem countsOf_verdicts_exchanged (category : String) :
    Tally.countsOf category (verdicts evaluated reference) =
      Counts.exchanged (Tally.countsOf category (verdicts reference evaluated)) := by
  rw [countsOf_verdicts, countsOf_verdicts, Multiset.inter_comm]
  rfl

theorem exists_verdict_iff (category : String) :
    (∃ mark ∈ verdicts reference evaluated, mark.1 = category) ↔
      ∃ key, (key ∈ reference ∨ key ∈ evaluated) ∧ key.category = category := by
  have named (counts : Counts) (keys : Multiset SpanKey) :
      (keys.map (SpanKey.marked counts)).map Prod.fst = keys.map SpanKey.category :=
    Multiset.map_map _ _ _
  have all : (verdicts reference evaluated).map Prod.fst =
      (reference ∪ evaluated).map SpanKey.category := by
    have whole := Multiset.sub_add_inter evaluated reference
    rw [verdicts, Multiset.map_add, Multiset.map_add, named, named, named, ← Multiset.map_add,
      ← Multiset.map_add, add_comm (evaluated ∩ reference), whole, add_comm]
    rfl
  rw [← Multiset.mem_map, all, Multiset.mem_map]
  simp only [Multiset.mem_union]

namespace Evaluation

theorem matchSpans_sums (tally : Tally) (marks : Multiset (String × Counts))
    (sums : tally.Sums marks) (pending evaluated : List SpanKey) :
    (matchSpans tally pending evaluated).Sums (marks + verdicts pending evaluated) := by
  -- What is pending shrinks with every match, and each verdict depends on what is left of it.
  induction evaluated generalizing tally marks pending with
  | nil =>
    rw [Multiset.coe_nil, verdicts_nil, matchSpans]
    induction pending generalizing tally marks with
    | nil => simpa using sums
    | cons key rest ih =>
      have next := ih _ _ (sums.add (key.marked ⟨0, 0, 1⟩))
      rw [Multiset.cons_add, ← Multiset.add_cons] at next
      exact next
  | cons key rest ih =>
    rw [matchSpans, ← Multiset.cons_coe]
    by_cases present : key ∈ pending
    next =>
      have next := ih _ _ (sums.add (key.marked ⟨1, 0, 0⟩)) (pending.erase key)
      rw [Multiset.cons_add, ← Multiset.add_cons] at next
      rw [if_pos (List.contains_iff_mem.mpr present), verdicts_found _ _ _ present]
      exact next
    next =>
      have next := ih _ _ (sums.add (key.marked ⟨0, 1, 0⟩)) pending
      rw [Multiset.cons_add, ← Multiset.add_cons] at next
      rw [if_neg (mt List.contains_iff_mem.mp present), verdicts_spurious _ _ _ present]
      exact next

end Evaluation

end SpanAnnotation
