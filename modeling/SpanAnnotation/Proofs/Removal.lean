import Mathlib.Data.List.Basic
import SpanAnnotation.Proofs.SpanRules

/-!
Removing annotations one after the other: what stays are the annotations that were not named, in
their old order, and the relations that touch none of those. Everything else is left as it was.
-/

set_option autoImplicit false

namespace SpanAnnotation

namespace Document

theorem find?_eq_none_iff (document : Document) (id : Nat) :
    document.find? id = none ↔ ∀ a ∈ document.annotations.entries, a.id ≠ id := by
  simp [find?, Arena.find?]

def without (document : Document) (id : Nat) : Document :=
  { document with
    annotations := document.annotations.erase id
    relations := document.relations.filter fun relation => !relation.touches id }

theorem touches_absent_eq_false (document : Document) (sound : document.Sound) (id : Nat)
    (absent : document.find? id = none) (relation : Relation)
    (present : relation ∈ document.relations) : relation.touches id = false := by
  rw [find?_eq_none_iff] at absent
  obtain ⟨source, target⟩ := sound.endpoints relation present
  rw [Arena.contains_iff] at source target
  obtain ⟨a, aPresent, aSource⟩ := source
  obtain ⟨b, bPresent, bTarget⟩ := target
  simp [Relation.touches, ← aSource, ← bTarget, absent a aPresent, absent b bPresent]

theorem without_absent (document : Document) (sound : document.Sound) (id : Nat)
    (absent : document.find? id = none) : document.without id = document := by
  have entries : (document.annotations.erase id).entries = document.annotations.entries := by
    rw [find?_eq_none_iff] at absent
    simpa using absent
  have relations : (document.relations.filter fun relation => !relation.touches id) =
      document.relations := by
    simpa using touches_absent_eq_false document sound id absent
  simp [without, Arena.ext_entries entries, relations]

theorem remove_eq (document : Document) (sound : document.Sound) (id : Nat) :
    document.remove id = (document.without id, document.find? id) := by
  unfold remove
  split
  next absent => rw [without_absent document sound id absent, absent]
  next a found => rw [found, without]

theorem without_sound (document : Document) (sound : document.Sound) (id : Nat) :
    (document.without id).Sound where
  tables := sound.tables
  identities a present := sound.identities a (List.mem_filter.mp present).1
  spans a present := sound.spans a (List.mem_filter.mp present).1
  endpoints relation present := by
    obtain ⟨old, untouched⟩ := List.mem_filter.mp present
    obtain ⟨source, target⟩ := sound.endpoints relation old
    simp only [Relation.touches, Bool.not_or, Bool.and_eq_true, Bool.not_eq_true',
      beq_eq_false_iff_ne] at untouched
    rw [Arena.contains_iff] at source target
    obtain ⟨a, aPresent, aSource⟩ := source
    obtain ⟨b, bPresent, bTarget⟩ := target
    simp only [without, Arena.contains_iff, Arena.entries_erase, List.mem_filter]
    exact ⟨⟨a, ⟨aPresent, by simpa [aSource] using untouched.1⟩, aSource⟩,
      b, ⟨bPresent, by simpa [bTarget] using untouched.2⟩, bTarget⟩

def withoutAll (document : Document) (ids : List Nat) : Document := ids.foldl without document

@[simp] theorem withoutAll_nil (document : Document) : document.withoutAll [] = document := rfl

@[simp] theorem withoutAll_cons (document : Document) (id : Nat) (rest : List Nat) :
    document.withoutAll (id :: rest) = (document.without id).withoutAll rest := rfl

theorem withoutAll_append (document : Document) (first second : List Nat) :
    document.withoutAll (first ++ second) = (document.withoutAll first).withoutAll second :=
  List.foldl_append

theorem withoutAll_sound (document : Document) (sound : document.Sound) (ids : List Nat) :
    (document.withoutAll ids).Sound := by
  induction ids generalizing document with
  | nil => exact sound
  | cons id rest ih => exact ih (document.without id) (without_sound document sound id)

theorem withoutAll_entries (document : Document) (ids : List Nat) :
    (document.withoutAll ids).annotations.entries =
      document.annotations.entries.filter fun a => !ids.contains a.id := by
  induction ids generalizing document with
  | nil => exact (List.filter_eq_self.mpr fun _ _ => rfl).symm
  | cons id rest ih =>
    rw [withoutAll_cons, ih, without, Arena.entries_erase, List.filter_filter]
    apply List.filter_congr
    intro a _
    rw [List.contains_cons, Bool.not_or, Bool.and_comm]
    rfl

theorem withoutAll_relations (document : Document) (ids : List Nat) :
    (document.withoutAll ids).relations =
      document.relations.filter fun relation => !ids.any relation.touches := by
  induction ids generalizing document with
  | nil => exact (List.filter_eq_self.mpr fun _ _ => rfl).symm
  | cons id rest ih =>
    rw [withoutAll_cons, ih, without, List.filter_filter]
    apply List.filter_congr
    intro relation _
    rw [List.any_cons, Bool.not_or, Bool.and_comm]

@[simp] theorem withoutAll_sentences (document : Document) (ids : List Nat) :
    (document.withoutAll ids).sentences = document.sentences := by
  induction ids generalizing document with
  | nil => rfl
  | cons id rest ih => exact ih (document.without id)

@[simp] theorem withoutAll_nextId (document : Document) (ids : List Nat) :
    (document.withoutAll ids).nextId = document.nextId := by
  induction ids generalizing document with
  | nil => rfl
  | cons id rest ih => exact ih (document.without id)

@[simp] theorem withoutAll_id (document : Document) (ids : List Nat) :
    (document.withoutAll ids).id = document.id := by
  induction ids generalizing document with
  | nil => rfl
  | cons id rest ih => exact ih (document.without id)

theorem find?_without (document : Document) (id other : Nat) (different : other ≠ id) :
    (document.without id).find? other = document.find? other := by
  simp only [find?, without, Arena.find?, Arena.entries_erase, List.find?_filter]
  congr 1
  funext a
  by_cases same : a.id = other <;> simp [same, different]

theorem removeAll_fst (document : Document) (sound : document.Sound) (ids : List Nat) :
    (document.removeAll ids).1 = document.withoutAll ids := by
  induction ids generalizing document with
  | nil => rfl
  | cons id rest ih =>
    rw [removeAll, remove_eq document sound id]
    exact ih (document.without id) (without_sound document sound id)

theorem removeAll_snd (document : Document) (sound : document.Sound) (ids : List Nat)
    (distinct : ids.Nodup) : (document.removeAll ids).2 = ids.filterMap document.find? := by
  induction ids generalizing document with
  | nil => rfl
  | cons id rest ih =>
    obtain ⟨new, tail⟩ := List.nodup_cons.mp distinct
    have others : rest.filterMap (document.without id).find? = rest.filterMap document.find? := by
      apply List.filterMap_congr
      intro other present
      exact find?_without document id other fun same => new (same ▸ present)
    rw [removeAll, remove_eq document sound id]
    simp only [ih (document.without id) (without_sound document sound id) tail, others,
      List.filterMap_cons]
    cases document.find? id <;> rfl

end Document

end SpanAnnotation
