import Mathlib.Data.List.Basic
import SpanAnnotation.Chunker

/-!
The proposals for all sentences as one list, each with its sentence. To add them sentence by sentence
is to add this list in turn, and an addition that is refused ends it.
-/

set_option autoImplicit false

namespace SpanAnnotation

/-- The proposals for sentences that are numbered from a place on, each with its sentence. -/
def Chunker.placed (chunker : Chunker) (first : Nat) (sentences : List Sentence) :
    List (Nat × Proposal) :=
  (sentences.zipIdx first).flatMap fun s => (chunker.propose s.1).map fun proposal =>
    (s.2, proposal)

theorem Chunker.placed_cons (chunker : Chunker) (first : Nat) (s : Sentence)
    (rest : List Sentence) :
    chunker.placed first (s :: rest) =
      ((chunker.propose s).map fun proposal => (first, proposal)) ++
        chunker.placed (first + 1) rest := rfl

theorem Chunker.placed_length (chunker : Chunker) (first : Nat) (sentences : List Sentence) :
    (chunker.placed first sentences).length = (sentences.flatMap chunker.propose).length := by
  induction sentences generalizing first with
  | nil => rfl
  | cons s rest ih =>
    rw [placed_cons, List.flatMap_cons, List.length_append, List.length_append, List.length_map, ih]

theorem Chunker.mem_placed (chunker : Chunker) (sentences : List Sentence) (place : Nat)
    (proposal : Proposal) :
    (place, proposal) ∈ chunker.placed 0 sentences ↔
      ∃ s, sentences[place]? = some s ∧ proposal ∈ chunker.propose s := by
  simp only [placed, List.mem_flatMap, List.mem_map, Prod.mk.injEq, Prod.exists,
    List.mem_zipIdx_iff_getElem?]
  constructor
  · rintro ⟨s, _, found, _, proposed, rfl, rfl⟩
    exact ⟨s, found, proposed⟩
  · rintro ⟨s, found, proposed⟩
    exact ⟨s, place, found, proposal, proposed, rfl, rfl⟩

theorem Chunker.placed_ordered (chunker : Chunker) (first : Nat) (sentences : List Sentence) :
    (chunker.placed first sentences).Pairwise (fun a b => a.1 ≤ b.1) ∧
      ∀ entry ∈ chunker.placed first sentences, first ≤ entry.1 := by
  induction sentences generalizing first with
  | nil => simp [placed]
  | cons s rest ih =>
    obtain ⟨ordered, above⟩ := ih (first + 1)
    have here : ∀ entry ∈ (chunker.propose s).map fun proposal => (first, proposal),
        entry.1 = first := by
      intro entry present
      obtain ⟨_, _, rfl⟩ := List.mem_map.mp present
      rfl
    rw [placed_cons]
    constructor
    · refine List.pairwise_append.mpr ⟨List.pairwise_map.mpr ?_, ordered, ?_⟩
      · exact List.pairwise_of_forall fun _ _ => Nat.le_refl first
      · intro entry present later there
        have before := above later there
        rw [here entry present]
        omega
    · intro entry present
      rcases List.mem_append.mp present with present | later
      · exact Nat.le_of_eq (here entry present).symm
      · exact Nat.le_of_succ_le (above entry later)

namespace Document

/-- Adds placed proposals in turn, up to the first that is refused. -/
def addPlaced (document : Document) (source : String) :
    List (Nat × Proposal) → Document × List Nat × Except Error Unit
  | [] => (document, [], .ok ())
  | (sentence, proposal) :: rest =>
      match document.add sentence proposal source with
      | .error e => (document, [], .error e)
      | .ok (longer, id) =>
          let (final, ids, outcome) := longer.addPlaced source rest
          (final, id :: ids, outcome)

variable (document : Document)

theorem addPlaced_append (source : String) (first second : List (Nat × Proposal)) :
    document.addPlaced source (first ++ second) =
      match document.addPlaced source first with
      | (partway, ids, .error e) => (partway, ids, .error e)
      | (longer, ids, .ok ()) =>
          ((longer.addPlaced source second).1, ids ++ (longer.addPlaced source second).2.1,
            (longer.addPlaced source second).2.2) := by
  induction first generalizing document with
  | nil => rfl
  | cons entry rest ih =>
    simp only [List.cons_append, addPlaced]
    cases document.add entry.1 entry.2 source with
    | error e => rfl
    | ok added =>
      simp only [ih]
      generalize added.1.addPlaced source rest = run
      obtain ⟨longer, ids, outcome⟩ := run
      cases outcome <;> rfl

theorem addAll_eq_addPlaced (sentence : Nat) (source : String) (proposals : List Proposal) :
    document.addAll sentence source proposals =
      document.addPlaced source (proposals.map fun proposal => (sentence, proposal)) := by
  induction proposals generalizing document with
  | nil => rfl
  | cons proposal rest ih =>
    rw [List.map_cons, addAll, addPlaced]
    cases document.add sentence proposal source with
    | error e => rfl
    | ok added => simp only [ih]

theorem chunkFrom_eq_addPlaced (chunker : Chunker) (first : Nat) (sentences : List Sentence) :
    document.chunkFrom chunker first sentences =
      document.addPlaced chunker.name (chunker.placed first sentences) := by
  induction sentences generalizing document first with
  | nil => rfl
  | cons s rest ih =>
    rw [chunker.placed_cons, addPlaced_append, chunkFrom, addAll_eq_addPlaced]
    generalize document.addPlaced chunker.name _ = run
    obtain ⟨longer, ids, outcome⟩ := run
    cases outcome with
    | error e => rfl
    | ok => simp only [ih]

theorem addPlaced_cons_succeeded (source : String) (entry : Nat × Proposal)
    (rest : List (Nat × Proposal)) (final : Document) (ids : List Nat)
    (run : document.addPlaced source (entry :: rest) = (final, ids, .ok ())) :
    ∃ longer id others, document.add entry.1 entry.2 source = .ok (longer, id) ∧
      longer.addPlaced source rest = (final, others, .ok ()) ∧ ids = id :: others := by
  unfold addPlaced at run
  split at run
  next => simp at run
  next longer id added =>
    generalize later : longer.addPlaced source rest = reached at run
    obtain ⟨last, others, outcome⟩ := reached
    cases run
    exact ⟨longer, id, others, added, later, rfl⟩

/-- Proposals are added up to one that is refused, or all of them. -/
theorem addPlaced_cases (source : String) (placed : List (Nat × Proposal)) :
    (∃ final ids, document.addPlaced source placed = (final, ids, .ok ())) ∨
      ∃ before entry after partway ids e, placed = before ++ entry :: after ∧
        document.addPlaced source before = (partway, ids, .ok ()) ∧
        partway.add entry.1 entry.2 source = .error e ∧
        document.addPlaced source placed = (partway, ids, .error e) := by
  induction placed generalizing document with
  | nil => exact .inl ⟨document, [], rfl⟩
  | cons entry rest ih =>
    cases added : document.add entry.1 entry.2 source with
    | error e =>
      exact .inr ⟨[], entry, rest, document, [], e, rfl, rfl, added, by simp only [addPlaced, added]⟩
    | ok step =>
      obtain ⟨longer, id⟩ := step
      simp only [addPlaced, added]
      refine (ih longer).imp ?_ ?_
      next =>
        rintro ⟨final, ids, whole⟩
        exact ⟨final, id :: ids, by simp only [whole]⟩
      next =>
        rintro ⟨before, other, after, partway, ids, e, rfl, run, refused, whole⟩
        exact ⟨entry :: before, other, after, partway, id :: ids, e, rfl,
          by simp only [addPlaced, added, run], refused, by simp only [whole]⟩

end Document

end SpanAnnotation
