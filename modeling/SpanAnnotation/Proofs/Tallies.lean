import Mathlib.Algebra.BigOperators.Group.Multiset.Basic
import Mathlib.Data.List.Sort
import Mathlib.Data.String.Basic
import SpanAnnotation.Evaluation

/-!
A tally as the sum of what was added to it. It holds each category once, in order, so that what was
added decides it, whatever the order.
-/

set_option autoImplicit false

namespace SpanAnnotation

attribute [ext] Counts

namespace Counts

instance : Add Counts := ⟨add⟩

instance : Zero Counts := ⟨zero⟩

instance : AddCommMonoid Counts where
  nsmul := nsmulRec
  add_assoc a b c := by apply Counts.ext <;> exact Nat.add_assoc _ _ _
  zero_add a := by apply Counts.ext <;> exact Nat.zero_add _
  add_zero _ := rfl
  add_comm a b := by apply Counts.ext <;> exact Nat.add_comm _ _

theorem nsmul_eq (n : Nat) (counts : Counts) :
    n • counts =
      ⟨n * counts.truePositives, n * counts.falsePositives, n * counts.falseNegatives⟩ := by
  induction n with
  | zero => simp [zero_nsmul, OfNat.ofNat, Zero.zero, zero]
  | succ n ih =>
    rw [succ_nsmul, ih]
    apply Counts.ext <;> exact (Nat.succ_mul _ _).symm

-- What of the counts adds up.

def foundPart : Counts →+ Nat := ⟨⟨truePositives, rfl⟩, fun _ _ => rfl⟩

def referencePart : Counts →+ Nat :=
  ⟨⟨reference, rfl⟩, fun a _ => Nat.add_add_add_comm a.truePositives _ _ _⟩

def evaluatedPart : Counts →+ Nat :=
  ⟨⟨evaluated, rfl⟩, fun a _ => Nat.add_add_add_comm a.truePositives _ _ _⟩

/-- The counts when reference and evaluated documents change places. -/
def exchanged : Counts →+ Counts :=
  ⟨⟨fun counts => ⟨counts.truePositives, counts.falseNegatives, counts.falsePositives⟩, rfl⟩,
    fun _ _ => rfl⟩

end Counts

/-- A fold whose steps each add something that does not depend on the state. -/
theorem foldl_adds {σ ι M : Type} [AddCommMonoid M] (amounts : σ → M → Prop) (step : σ → ι → σ)
    (added : ι → M)
    (each : ∀ state amount i, amounts state amount → amounts (step state i) (amount + added i))
    (items : List ι) (state : σ) (amount : M) (start : amounts state amount) :
    amounts (items.foldl step state) (amount + (items.map added).sum) := by
  induction items generalizing state amount with
  | nil => simpa using start
  | cons i rest ih =>
    have next := ih _ _ (each state amount i start)
    rwa [add_assoc, ← List.sum_cons, ← List.map_cons] at next

namespace Evaluation

theorem mem_insertName (name other : String) (names : List String) :
    other ∈ insertName name names ↔ other = name ∨ other ∈ names := by
  induction names with
  | nil => simp [insertName]
  | cons first rest ih =>
    rw [insertName]
    split
    next same => simp [eq_of_beq same]
    next =>
      split
      next => simp
      next => rw [List.mem_cons, ih, List.mem_cons, or_left_comm]

theorem insertName_increasing (name : String) (names : List String)
    (increasing : names.Pairwise (· < ·)) : (insertName name names).Pairwise (· < ·) := by
  induction names with
  | nil => simp [insertName]
  | cons first rest ih =>
    have parts := List.pairwise_cons.mp increasing
    rw [insertName]
    by_cases same : name = first
    next => rwa [if_pos (beq_iff_eq.mpr same)]
    next =>
      rw [if_neg (mt beq_iff_eq.mp same)]
      by_cases less : name < first
      next =>
        rw [if_pos less]
        exact List.pairwise_cons_cons_iff_of_trans.mpr ⟨less, increasing⟩
      next =>
        have greater : first < name := lt_of_le_of_ne (not_lt.mp less) (Ne.symm same)
        rw [if_neg less]
        refine List.pairwise_cons.mpr ⟨?_, ih parts.2⟩
        intro other present
        cases (mem_insertName name other rest).mp present with
        | inl added => rwa [added]
        | inr later => exact parts.1 other later

end Evaluation

namespace Tally

variable (tally : Tally)

def categories : List String := tally.map Prod.fst

-- Each category once, in increasing order.
def Increasing : Prop := tally.categories.Pairwise (· < ·)

theorem categories_add (category : String) (counts : Counts) :
    (tally.add category counts).categories =
      Evaluation.insertName category tally.categories := by
  induction tally with
  | nil => rfl
  | cons entry rest ih =>
    simp only [categories, List.map_cons, Evaluation.insertName, add] at ih ⊢
    split
    next => rfl
    next =>
      split
      next => rfl
      next => exact congrArg (entry.1 :: ·) ih

theorem get_cons (category other : String) (counts : Counts) (rest : Tally) :
    get ((other, counts) :: rest) category =
      if category = other then counts else get rest category := by
  by_cases same : category = other
  next => simp [get, same]
  next =>
    have different : (category == other) = false := by simpa using same
    simp [get, same, List.lookup_cons, different]

theorem get_of_absent (category : String) (absent : category ∉ tally.categories) :
    tally.get category = 0 := by
  induction tally with
  | nil => rfl
  | cons entry rest ih =>
    rw [categories, List.map_cons, List.mem_cons, not_or] at absent
    rw [get_cons, if_neg absent.1, ih absent.2]

theorem get_add (increasing : tally.Increasing) (category other : String) (counts : Counts) :
    (tally.add category counts).get other =
      if other = category then tally.get other + counts else tally.get other := by
  induction tally with
  | nil =>
    rw [add, get_cons]
    split
    next => exact (zero_add counts).symm
    next => rfl
  | cons entry rest ih =>
    obtain ⟨first, old⟩ := entry
    have parts : (∀ other ∈ categories rest, first < other) ∧ Increasing rest :=
      List.pairwise_cons.mp increasing
    rw [add]
    by_cases same : category = first
    next =>
      rw [if_pos (beq_iff_eq.mpr same), get_cons, get_cons, same]
      split <;> rfl
    next =>
      rw [if_neg (mt beq_iff_eq.mp same)]
      by_cases less : category < first
      next =>
        rw [if_pos less, get_cons]
        split
        next here =>
          -- A category below the first one is not in the tally.
          rw [here, get_of_absent, zero_add]
          intro present
          cases List.mem_cons.mp present with
          | inl head => exact same head
          | inr later => exact lt_asymm less (parts.1 category later)
        next => rfl
      next =>
        rw [if_neg less, get_cons, get_cons, ih parts.2]
        split
        next head => rw [if_neg (by rw [head]; exact Ne.symm same)]
        next => rfl

theorem eq_map_get (increasing : tally.Increasing) :
    tally = tally.categories.map fun category => (category, tally.get category) := by
  induction tally with
  | nil => rfl
  | cons entry rest ih =>
    obtain ⟨first, counts⟩ := entry
    have parts : (∀ other ∈ categories rest, first < other) ∧ Increasing rest :=
      List.pairwise_cons.mp increasing
    rw [categories, List.map_cons, List.map_cons, get_cons, if_pos rfl]
    congr 1
    refine (ih parts.2).trans (List.map_congr_left fun other present => ?_)
    rw [get_cons, if_neg (parts.1 other present).ne']

-- The sum of the counts that are given for a category.
def countsOf (category : String) : Multiset (String × Counts) →+ Counts where
  toFun marks := (marks.map fun mark => if mark.1 = category then mark.2 else 0).sum
  map_zero' := rfl
  map_add' marks others := by rw [Multiset.map_add, Multiset.sum_add]

theorem countsOf_cons (category : String) (mark : String × Counts)
    (marks : Multiset (String × Counts)) :
    countsOf category (mark ::ₘ marks) =
      (if mark.1 = category then mark.2 else 0) + countsOf category marks := by
  change Multiset.sum (Multiset.map _ (mark ::ₘ marks)) = _
  rw [Multiset.map_cons, Multiset.sum_cons]
  rfl

/-- The tally of counts that were added one after the other. -/
structure Sums (marks : Multiset (String × Counts)) : Prop where
  increasing : tally.Increasing
  categories : ∀ category, category ∈ tally.categories ↔ ∃ mark ∈ marks, mark.1 = category
  counts : ∀ category, tally.get category = countsOf category marks

variable {tally}

theorem sums_nil : Sums [] 0 where
  increasing := .nil
  categories := by simp [Tally.categories]
  counts _ := rfl

theorem Sums.add {marks : Multiset (String × Counts)} (sums : tally.Sums marks)
    (mark : String × Counts) : (tally.add mark.1 mark.2).Sums (mark ::ₘ marks) where
  increasing := by
    rw [Tally.Increasing, categories_add]
    exact Evaluation.insertName_increasing mark.1 _ sums.increasing
  categories category := by
    rw [categories_add, Evaluation.mem_insertName, sums.categories]
    simp [or_and_right, exists_or, eq_comm]
  counts category := by
    rw [get_add tally sums.increasing, sums.counts, countsOf_cons]
    by_cases here : mark.1 = category
    next => rw [if_pos here, if_pos here.symm, add_comm]
    next => rw [if_neg here, if_neg (Ne.symm here), zero_add]

theorem Sums.unique {other : Tally} {marks : Multiset (String × Counts)} (sums : tally.Sums marks)
    (again : other.Sums marks) : tally = other := by
  have listed : tally.categories = other.categories :=
    sums.increasing.eq_of_mem_iff again.increasing fun category =>
      (sums.categories category).trans (again.categories category).symm
  rw [tally.eq_map_get sums.increasing, other.eq_map_get again.increasing, listed]
  exact List.map_congr_left fun category _ => by rw [sums.counts, again.counts]

end Tally

end SpanAnnotation
