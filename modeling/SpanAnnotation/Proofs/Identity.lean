import Mathlib.Data.List.Nodup
import Mathlib.Data.List.Pairwise
import SpanAnnotation.Arena

/-!
A key finds what carries it where keys are distinct, as identities are, and of two entries of a list
in order one comes before the other. An annotation whose identity is larger than all others is stored
last, and an erased identity takes its annotation and nothing else with it.
-/

set_option autoImplicit false

namespace SpanAnnotation

theorem find?_key_eq_some_iff {α κ : Type} [BEq κ] [LawfulBEq κ] (key : α → κ) (list : List α)
    (distinct : (list.map key).Nodup) (k : κ) (a : α) :
    (list.find? fun b => key b == k) = some a ↔ a ∈ list ∧ key a = k := by
  constructor
  next =>
    intro found
    exact ⟨List.mem_of_find?_eq_some found, by simpa using List.find?_some found⟩
  next =>
    rintro ⟨present, rfl⟩
    cases found : list.find? fun b => key b == key a with
    | none => simpa using List.find?_eq_none.mp found a present
    | some other =>
      have listed := List.mem_of_find?_eq_some found
      have same : key other = key a := by simpa using List.find?_some found
      rw [List.inj_on_of_nodup_map distinct listed present same]

theorem eq_or_related {α : Type} {list : List α} {before : α → α → Prop}
    (ordered : list.Pairwise before) {a b : α} (left : a ∈ list) (right : b ∈ list) :
    a = b ∨ before a b ∨ before b a := by
  by_cases same : a = b
  next => exact .inl same
  next =>
    let related (c d : α) : Prop := before c d ∨ before d c
    have symmetric : Std.Symm related := ⟨fun _ _ => Or.symm⟩
    have all : list.Pairwise related := ordered.imp Or.inl
    exact .inr (all.forall left right same)

namespace Arena

theorem entries_distinct (arena : Arena) : arena.entries.Pairwise fun a b => a.id ≠ b.id :=
  arena.increasing.imp fun less => Nat.ne_of_lt less

theorem ids_nodup (arena : Arena) : (arena.entries.map Annotation.id).Nodup :=
  List.pairwise_map.mpr arena.entries_distinct

theorem find?_eq_some_iff (arena : Arena) (id : Nat) (a : Annotation) :
    arena.find? id = some a ↔ a ∈ arena.entries ∧ a.id = id :=
  find?_key_eq_some_iff Annotation.id arena.entries arena.ids_nodup id a

theorem find?_of_mem (arena : Arena) {a : Annotation} (present : a ∈ arena.entries) :
    arena.find? a.id = some a :=
  (arena.find?_eq_some_iff a.id a).mpr ⟨present, rfl⟩

theorem contains_iff (arena : Arena) (id : Nat) :
    arena.contains id = true ↔ ∃ a ∈ arena.entries, a.id = id := by
  simp only [contains, Option.isSome_iff_exists, find?_eq_some_iff]

theorem eq_of_id_eq (arena : Arena) {a b : Annotation} (left : a ∈ arena.entries)
    (right : b ∈ arena.entries) (same : a.id = b.id) : a = b :=
  List.inj_on_of_nodup_map arena.ids_nodup left right same

/-- Annotations come back from their identities. -/
theorem filterMap_find?_ids (arena : Arena) (list : List Annotation)
    (known : ∀ a ∈ list, a ∈ arena.entries) :
    (list.map Annotation.id).filterMap arena.find? = list := by
  induction list with
  | nil => rfl
  | cons a rest ih =>
    have found := arena.find?_of_mem (known a (by simp))
    simp [found, ih fun b present => known b (List.mem_cons_of_mem a present)]

@[simp] theorem entries_empty : empty.entries = [] := rfl

theorem insertById_of_last (a : Annotation) (list : List Annotation)
    (below : ∀ b ∈ list, b.id < a.id) : insertById a list = list ++ [a] := by
  induction list with
  | nil => rfl
  | cons b rest ih =>
    have less := below b (by simp)
    have tail := ih fun c present => below c (List.mem_cons_of_mem b present)
    simp [insertById, tail, Nat.not_lt_of_lt less, Nat.ne_of_gt less]

theorem entries_insert_last (arena : Arena) (a : Annotation)
    (below : ∀ b ∈ arena.entries, b.id < a.id) :
    (arena.insert a).entries = arena.entries ++ [a] :=
  insertById_of_last a arena.entries below

theorem insertById_perm (a : Annotation) (list : List Annotation)
    (new : ∀ b ∈ list, b.id ≠ a.id) : (insertById a list).Perm (a :: list) := by
  induction list with
  | nil => exact List.Perm.refl _
  | cons b rest ih =>
    obtain ⟨different, others⟩ := List.forall_mem_cons.mp new
    simp only [insertById]
    split
    next => exact List.Perm.refl _
    next =>
      split
      next same => exact absurd same.symm different
      next => exact ((ih others).cons b).trans (List.Perm.swap a b rest)

theorem entries_insert_perm (arena : Arena) (a : Annotation)
    (new : arena.contains a.id = false) : (arena.insert a).entries.Perm (a :: arena.entries) := by
  refine insertById_perm a arena.entries fun b present same => ?_
  rw [Bool.eq_false_iff, ne_eq, contains_iff] at new
  exact new ⟨b, present, same⟩

theorem contains_insert (arena : Arena) (a : Annotation) (id : Nat)
    (new : arena.contains a.id = false) :
    (arena.insert a).contains id = (a.id == id || arena.contains id) := by
  rw [Bool.eq_iff_iff, Bool.or_eq_true, beq_iff_eq, contains_iff, contains_iff]
  simp only [(arena.entries_insert_perm a new).mem_iff, List.mem_cons, exists_eq_or_imp]

@[simp] theorem entries_erase (arena : Arena) (id : Nat) :
    (arena.erase id).entries = arena.entries.filter fun a => a.id != id := rfl

theorem ext_entries {left right : Arena} (same : left.entries = right.entries) : left = right := by
  cases left
  cases right
  simp_all

end Arena

end SpanAnnotation
