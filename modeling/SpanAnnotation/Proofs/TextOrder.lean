import SpanAnnotation.Document
import SpanAnnotation.Proofs.Identity

/-!
Text order is a strict order in which any two annotations of different identity are comparable.
Putting annotations in order only moves them, and the latest of them stands after all others.
-/

set_option autoImplicit false

namespace SpanAnnotation

namespace Annotation

theorem precedes_iff (a b : Annotation) :
    a.precedes b = true ↔
      a.sentence < b.sentence ∨ a.sentence = b.sentence ∧
        (a.first < b.first ∨ a.first = b.first ∧
          (a.last < b.last ∨ a.last = b.last ∧ a.id < b.id)) := by
  simp [precedes]

theorem precedes_trans {a b c : Annotation} (before : a.precedes b = true)
    (after : b.precedes c = true) : a.precedes c = true := by
  rw [precedes_iff] at *
  omega

theorem precedes_asymm {a b : Annotation} (before : a.precedes b = true) :
    b.precedes a = false := by
  rw [Bool.eq_false_iff, ne_eq, precedes_iff]
  rw [precedes_iff] at before
  omega

theorem precedes_of_not_precedes {a b : Annotation} (different : a.id ≠ b.id)
    (notBefore : a.precedes b = false) : b.precedes a = true := by
  rw [Bool.eq_false_iff, ne_eq, precedes_iff] at notBefore
  rw [precedes_iff]
  omega

-- Ordering.

theorem insertInOrder_perm (a : Annotation) (list : List Annotation) :
    (insertInOrder a list).Perm (a :: list) := by
  induction list with
  | nil => exact List.Perm.refl _
  | cons b rest ih =>
    simp only [insertInOrder]
    split
    · exact (ih.cons b).trans (List.Perm.swap a b rest)
    · exact List.Perm.refl _

theorem inOrder_perm (list : List Annotation) : (inOrder list).Perm list := by
  induction list with
  | nil => exact List.Perm.refl _
  | cons a rest ih => exact (insertInOrder_perm a (inOrder rest)).trans (ih.cons a)

def Ordered (list : List Annotation) : Prop := list.Pairwise fun a b => a.precedes b = true

theorem insertInOrder_ordered (a : Annotation) (list : List Annotation)
    (new : ∀ b ∈ list, b.id ≠ a.id) (ordered : Ordered list) :
    Ordered (insertInOrder a list) := by
  induction list with
  | nil => simp [insertInOrder, Ordered]
  | cons b rest ih =>
    obtain ⟨below, tail⟩ := List.pairwise_cons.mp ordered
    simp only [insertInOrder]
    split
    next before =>
      refine List.pairwise_cons.mpr
        ⟨?_, ih (fun c present => new c (List.mem_cons_of_mem b present)) tail⟩
      intro c present
      rcases (mem_insertInOrder c a rest).mp present with same | old
      · simpa [same] using before
      · exact below c old
    next notBefore =>
      have first : a.precedes b = true :=
        precedes_of_not_precedes (new b (by simp)) (by simpa using notBefore)
      refine List.pairwise_cons.mpr ⟨?_, ordered⟩
      intro c present
      rcases List.mem_cons.mp present with same | old
      · simpa [same] using first
      · exact precedes_trans first (below c old)

theorem inOrder_ordered (list : List Annotation)
    (distinct : list.Pairwise fun a b => a.id ≠ b.id) : Ordered (inOrder list) := by
  induction list with
  | nil => exact List.Pairwise.nil
  | cons a rest ih =>
    obtain ⟨new, tail⟩ := List.pairwise_cons.mp distinct
    apply insertInOrder_ordered a (inOrder rest) ?_ (ih tail)
    intro b present
    exact fun same => new b ((mem_inOrder b rest).mp present) same.symm

theorem eq_of_ordered {left right : List Annotation} (leftOrdered : Ordered left)
    (rightOrdered : Ordered right) (perm : left.Perm right) : left = right := by
  refine perm.eq_of_pairwise (fun a b _ _ before after => ?_) leftOrdered rightOrdered
  rw [precedes_asymm before] at after
  exact absurd after Bool.false_ne_true

/-- An annotation is put between those before it and the rest. -/
theorem insertInOrder_eq (a : Annotation) (list : List Annotation)
    (ordered : Ordered list) :
    ∃ before after, list = before ++ after ∧ insertInOrder a list = before ++ a :: after ∧
      (∀ b ∈ before, b.precedes a = true) ∧ ∀ b ∈ after, b.precedes a = false := by
  induction list with
  | nil => exact ⟨[], [], rfl, rfl, by simp, by simp⟩
  | cons b rest ih =>
    obtain ⟨below, tail⟩ := List.pairwise_cons.mp ordered
    simp only [insertInOrder]
    split
    next earlier =>
      obtain ⟨before, after, rfl, inserted, earlierOnes, laterOnes⟩ := ih tail
      exact ⟨b :: before, after, rfl, by rw [inserted, List.cons_append],
        List.forall_mem_cons.mpr ⟨earlier, earlierOnes⟩, laterOnes⟩
    next later =>
      refine ⟨[], b :: rest, rfl, rfl, by simp, List.forall_mem_cons.mpr ⟨by simpa using later, ?_⟩⟩
      intro c present
      rw [Bool.eq_false_iff]
      exact fun earlier => later (precedes_trans (below c present) earlier)

-- The latest of some annotations.

theorem latest?_append_last (list : List Annotation) (a : Annotation)
    (later : ∀ b ∈ list, b.precedes a = true) : latest? (list ++ [a]) = some a := by
  induction list with
  | nil => rfl
  | cons b rest ih =>
    have tail := ih fun c present => later c (List.mem_cons_of_mem b present)
    have before := precedes_asymm (later b (by simp))
    simp [latest?, tail, before]

theorem latest?_eq_none_iff (list : List Annotation) : latest? list = none ↔ list = [] := by
  cases list with
  | nil => simp [latest?]
  | cons a rest =>
    simp only [latest?]
    split
    next => simp
    next => split <;> simp

theorem mem_of_latest? (list : List Annotation) (latest : Annotation)
    (found : latest? list = some latest) : latest ∈ list := by
  induction list generalizing latest with
  | nil => simp [latest?] at found
  | cons a rest ih =>
    simp only [latest?] at found
    split at found
    next =>
      cases found
      simp
    next best known =>
      split at found
      next =>
        cases found
        simp
      next =>
        have listed := ih best known
        cases found
        exact List.mem_cons_of_mem a listed

theorem not_precedes_of_latest? (list : List Annotation) (latest : Annotation)
    (found : latest? list = some latest) : ∀ b ∈ list, latest.precedes b = false := by
  induction list generalizing latest with
  | nil => simp
  | cons a rest ih =>
    simp only [latest?] at found
    split at found
    next alone =>
      rw [latest?_eq_none_iff] at alone
      cases found
      simp [alone, precedes_irrefl]
    next best known =>
      have below := ih best known
      split at found
      next before =>
        cases found
        refine List.forall_mem_cons.mpr ⟨precedes_irrefl a, fun b present => ?_⟩
        rw [Bool.eq_false_iff]
        intro after
        exact absurd (precedes_trans before after) (by simp [below b present])
      next notBefore =>
        cases found
        exact List.forall_mem_cons.mpr ⟨by simpa using notBefore, below⟩

end Annotation

namespace Document

variable (document : Document)

theorem mem_annotationsInOrder (a : Annotation) :
    a ∈ document.annotationsInOrder ↔ a ∈ document.annotations.entries :=
  Annotation.mem_inOrder a _

theorem annotationsInOrder_ordered : Annotation.Ordered document.annotationsInOrder :=
  Annotation.inOrder_ordered _ document.annotations.entries_distinct

theorem mem_annotationsIn (sentence : Nat) (a : Annotation) :
    a ∈ document.annotationsIn sentence ↔
      a ∈ document.annotations.entries ∧ a.sentence = sentence := by
  simp [annotationsIn, Annotation.mem_inOrder]

theorem annotationsIn_ordered (sentence : Nat) :
    Annotation.Ordered (document.annotationsIn sentence) :=
  Annotation.inOrder_ordered _ (document.annotations.entries_distinct.filter _)

end Document

end SpanAnnotation
