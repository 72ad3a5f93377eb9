import Mathlib.Combinatorics.SimpleGraph.Connectivity.Connected
import Mathlib.Data.List.Chain
import Mathlib.Data.Prod.Lex
import Mathlib.Order.WellFounded
import SpanAnnotation.Proofs.Merging

/-!
Merging does not empty a conflict. Whoever beats an annotation may be beaten in turn, but each step
leads to a stronger one, so that going up ends with an annotation that stays.
-/

set_option autoImplicit false

namespace SpanAnnotation.Merger

variable (merger : Merger) (document : Document)

-- Going up.

def strength (x : Annotation) : Nat ×ₗ Nat :=
  toLex (maxIndex - x.size, merger.priority.idxOf x.category)

theorem strength_lt_of_beats {y x : Annotation} (beats : merger.Beats y x) :
    merger.strength y < merger.strength x := by
  have bound : y.size ≤ maxIndex := by
    unfold Annotation.size spanLength
    omega
  obtain ⟨_, _, longer | ⟨equal, sooner⟩⟩ := beats
  · exact Prod.Lex.toLex_lt_toLex.mpr (.inl (by omega))
  · exact Prod.Lex.toLex_lt_toLex.mpr (.inr ⟨by omega, sooner⟩)

theorem beats_wellFounded : WellFounded merger.Beats :=
  Subrelation.wf merger.strength_lt_of_beats (InvImage.wf merger.strength wellFounded_lt)

structure Contender where
  chunk : Annotation
  present : chunk ∈ document.annotations.entries
  listed : chunk.category ∈ merger.priority

variable {merger document}

/-- Each is beaten by the next. -/
def Ascends (chain : List (merger.Contender document)) : Prop :=
  chain.IsChain fun loser winner => merger.Beats winner.chunk loser.chunk

theorem exists_ascent (x : merger.Contender document) :
    ∃ rest : List (merger.Contender document), Ascends (x :: rest) ∧
      ¬ merger.Beaten document ((x :: rest).getLast (by simp)).chunk := by
  induction x using (InvImage.wf Contender.chunk merger.beats_wellFounded).induction with
  | h x ih =>
    by_cases beaten : merger.Beaten document x.chunk
    next =>
      obtain ⟨y, present, beats⟩ := beaten
      obtain ⟨rest, ascends, stays⟩ := ih ⟨y, present, beats.1.1⟩ beats
      exact ⟨_ :: rest, List.isChain_cons_cons.mpr ⟨beats, ascends⟩, stays⟩
    next => exact ⟨[], List.isChain_singleton x, beaten⟩

theorem Ascends.same_sentence {x : merger.Contender document}
    {rest : List (merger.Contender document)} (ascends : Ascends (x :: rest)) :
    ∀ y ∈ rest, y.chunk.sentence = x.chunk.sentence := by
  induction rest generalizing x with
  | nil => simp
  | cons winner rest ih =>
    obtain ⟨beats, above⟩ := List.isChain_cons_cons.mp ascends
    refine List.forall_mem_cons.mpr ⟨beats.2.1.1, fun y present => ?_⟩
    exact (ih above y present).trans beats.2.1.1

-- The conflicts of a document.

variable (merger document)

def overlapGraph : SimpleGraph (merger.Contender document) where
  Adj x y := x ≠ y ∧ x.chunk.sentence = y.chunk.sentence ∧
    x.chunk.SharesToken y.chunk
  symm := ⟨fun _ _ ⟨different, here, common⟩ => ⟨different.symm, here.symm, common.symm⟩⟩
  loopless := ⟨fun _ ⟨different, _⟩ => different rfl⟩

variable {merger document}

theorem adj_of_beats {y x : merger.Contender document}
    (beats : merger.Beats y.chunk x.chunk) : (merger.overlapGraph document).Adj x y := by
  refine ⟨?_, beats.2.1.1.symm, beats.2.1.2.symm⟩
  rintro rfl
  exact merger.not_beats_self x.chunk beats

theorem Ascends.reachable {x : merger.Contender document}
    {rest : List (merger.Contender document)} (ascends : Ascends (x :: rest)) :
    (merger.overlapGraph document).Reachable x ((x :: rest).getLast (by simp)) := by
  induction rest generalizing x with
  | nil => exact .rfl
  | cons winner rest ih =>
    obtain ⟨beats, above⟩ := List.isChain_cons_cons.mp ascends
    exact (adj_of_beats beats).reachable.trans (ih above)

/-- No annotation of the conflict is longer, and none as long has an earlier category. -/
structure Strongest (conflict : (merger.overlapGraph document).ConnectedComponent)
    (x : merger.Contender document) : Prop where
  member : x ∈ conflict.supp
  longest : ∀ y ∈ conflict.supp, y.chunk.size ≤ x.chunk.size
  earliest : ∀ y ∈ conflict.supp, y.chunk.size = x.chunk.size →
    merger.priority.idxOf x.chunk.category ≤ merger.priority.idxOf y.chunk.category

theorem Strongest.not_beaten {conflict : (merger.overlapGraph document).ConnectedComponent}
    {x : merger.Contender document} (strongest : Strongest conflict x) :
    ¬ merger.Beaten document x.chunk := by
  rintro ⟨y, present, beats⟩
  have joined : Contender.mk y present beats.1.1 ∈ conflict.supp :=
    conflict.mem_supp_of_adj_mem_supp strongest.member (adj_of_beats beats)
  have longest := strongest.longest _ joined
  have earliest := strongest.earliest _ joined
  obtain ⟨_, _, longer | ⟨equal, sooner⟩⟩ := beats
  · exact absurd longer (Nat.not_lt_of_le longest)
  · exact absurd sooner (Nat.not_lt_of_le (earliest equal.symm))

/-- A chain of ever stronger annotations leads from what a merge takes out to one that it leaves. So
every conflict has a survivor, and whatever is strongest in its conflict is one. -/
theorem mergeDocument_spares_strongest (merger : Merger) (document final : Document)
    (removed : List Annotation) (valid : document.validate = .ok ())
    (run : merger.mergeDocument document = (final, removed)) :
    (∀ x ∈ removed, ∃ (loser : merger.Contender document)
        (rest : List (merger.Contender document)),
      loser.chunk = x ∧ Ascends (loser :: rest) ∧
        (∀ y ∈ rest, y.chunk.sentence = x.sentence) ∧
        ((loser :: rest).getLast (by simp)).chunk ∈ final.annotations.entries) ∧
      ∀ conflict : (merger.overlapGraph document).ConnectedComponent,
        (∃ x ∈ conflict.supp, x.chunk ∈ final.annotations.entries) ∧
          ∀ x, Strongest conflict x → x.chunk ∈ final.annotations.entries := by
  have sound := document.validate_eq_ok_iff.mp valid
  have effect := merger.mergeDocument_eq document sound
  have entries := merger.survivors_entries document sound
  rw [run] at effect entries
  have gone : removed = merger.beatenAnnotations document := (Prod.mk.inj effect).2
  have stays (x : merger.Contender document) :
      x.chunk ∈ final.annotations.entries ↔ ¬ merger.Beaten document x.chunk := by
    rw [entries, List.mem_filter]
    simp [x.present]
  simp only [stays]
  constructor
  next =>
    intro x listed
    rw [gone, merger.mem_beatenAnnotations document sound] at listed
    obtain ⟨present, y, _, beats⟩ := listed
    obtain ⟨rest, ascends, last⟩ := exists_ascent ⟨x, present, beats.1.2⟩
    exact ⟨_, rest, rfl, ascends, ascends.same_sentence, last⟩
  next =>
    intro conflict
    refine ⟨?_, fun x strongest => strongest.not_beaten⟩
    induction conflict using SimpleGraph.ConnectedComponent.ind with
    | h x =>
      obtain ⟨rest, ascends, last⟩ := exists_ascent x
      exact ⟨_, SimpleGraph.ConnectedComponent.sound ascends.reachable.symm, last⟩

theorem mergeDocument_spares_chainOfConflicts :
    chainOfConflicts.validate = .ok () ∧
      ∀ conflict : ((Merger.ranking ["PERSON", "PLACE"]).overlapGraph
        chainOfConflicts).ConnectedComponent, ∃ x ∈ conflict.supp, x.chunk.id = 0 := by
  have valid : chainOfConflicts.validate = .ok () := by decide
  have sound := chainOfConflicts.validate_eq_ok_iff.mp valid
  refine ⟨valid, fun conflict => ?_⟩
  have spared := (mergeDocument_spares_strongest (ranking ["PERSON", "PLACE"]) chainOfConflicts _ _ valid
    (Prod.eta _).symm).2 conflict
  obtain ⟨x, member, stays⟩ := spared.1
  rw [survivors_entries _ _ sound] at stays
  have onlyFirst : ∀ a ∈ chainOfConflicts.annotations.entries.filter fun a =>
      ¬ (Merger.ranking ["PERSON", "PLACE"]).Beaten chainOfConflicts a,
      a.category ∈ ["PERSON", "PLACE"] → a.id = 0 := by decide
  exact ⟨x, member, onlyFirst x.chunk stays x.listed⟩

end SpanAnnotation.Merger
