import Mathlib.Algebra.BigOperators.Group.Finset.Piecewise
import SpanAnnotation.Proofs.ComparedPairs

/-!
What an evaluation counts, whatever comparisons it was made by: the spans that two documents share
as multisets, out of those of the one and of the other.
-/

set_option autoImplicit false

namespace SpanAnnotation

namespace Document

def categoryCount (document : Document) (category : String) : Nat :=
  document.annotations.entries.countP fun a => a.category = category

theorem sum_countP_sentence (entries : List Annotation) (count : Nat)
    (inside : ∀ a ∈ entries, a.sentence < count) (p : Annotation → Bool) :
    ∑ sentence ∈ Finset.range count,
      (entries.filter fun a => a.sentence == sentence).countP p = entries.countP p := by
  induction entries with
  | nil => simp
  | cons a rest ih =>
    have head := inside a (by simp)
    have tail := ih fun b present => inside b (List.mem_cons_of_mem a present)
    have split (sentence : Nat) :
        ((a :: rest).filter fun a => a.sentence == sentence).countP p =
          (rest.filter fun a => a.sentence == sentence).countP p +
            if a.sentence = sentence then (if p a then 1 else 0) else 0 := by
      by_cases here : a.sentence = sentence
      next => simp [here, List.countP_cons]
      next => simp [here]
    simp only [split, Finset.sum_add_distrib, tail, Finset.sum_ite_eq, Finset.mem_range, head,
      if_true, List.countP_cons]

/-- The annotations of a valid document, sentence by sentence. -/
theorem sum_labelled (document : Document) (sound : document.Sound) (category : String) :
    ∑ sentence ∈ Finset.range document.sentences.length,
      labelled category (document.keysIn sentence) = document.categoryCount category := by
  rw [categoryCount, ← sum_countP_sentence _ _ sound.sentence_lt]
  apply Finset.sum_congr rfl
  intro sentence _
  rw [labelled, keysIn, Multiset.coe_countP, List.countP_map]
  rfl

theorem exists_keysIn_iff (document : Document) (sound : document.Sound) (category : String) :
    (∃ sentence < document.sentences.length, ∃ key ∈ document.keysIn sentence,
        key.category = category) ↔
      ∃ a ∈ document.annotations.entries, a.category = category := by
  have listed (sentence : Nat) (key : SpanKey) : key ∈ document.keysIn sentence ↔
      ∃ a ∈ document.annotations.entries, a.sentence = sentence ∧ SpanKey.of a = key := by
    simp [keysIn, and_assoc]
  simp only [listed]
  constructor
  next =>
    rintro ⟨_, _, _, ⟨a, present, _, rfl⟩, named⟩
    exact ⟨a, present, named⟩
  next =>
    rintro ⟨a, present, named⟩
    exact ⟨_, sound.sentence_lt a present, _, ⟨a, present, rfl, rfl⟩, named⟩

end Document

/-- How many spans of a category two sentences have in common, repeated ones as often as they are in
both. -/
def shared (reference evaluated : Multiset SpanKey) (category : String) : Nat :=
  ∑ key ∈ reference.toFinset ∪ evaluated.toFinset with key.category = category,
    min (reference.count key) (evaluated.count key)

theorem labelled_inter (reference evaluated : Multiset SpanKey) (category : String) :
    labelled category (evaluated ∩ reference) = shared reference evaluated category := by
  have listed : ∀ key ∈ (evaluated ∩ reference).filter fun key => key.category = category,
      key ∈ (reference.toFinset ∪ evaluated.toFinset).filter fun key => key.category = category := by
    intro key present
    obtain ⟨common, named⟩ := Multiset.mem_filter.mp present
    simp [(Multiset.mem_inter.mp common).2, named]
  rw [labelled, Multiset.countP_eq_card_filter, ← Multiset.sum_count_eq_card listed, shared]
  apply Finset.sum_congr rfl
  intro key present
  rw [Multiset.count_filter, if_pos (Finset.mem_filter.mp present).2, Multiset.count_inter, min_comm]

theorem Tally.total_eq_sum (tally : Tally) : tally.total = (tally.map Prod.snd).sum := by
  have run := foldl_adds (fun sum amount => sum = amount)
    (fun sum entry => Counts.add sum entry.2) Prod.snd (fun _ _ _ same => congrArg (· + _) same)
    tally 0 0 rfl
  rwa [zero_add] at run

namespace Evaluation

/-- The evaluation counts the pairs of documents, category by category. -/
structure Measures (evaluation : Evaluation) (pairs : Multiset (Document × Document)) : Prop where
  documents : evaluation.documentsCompared = Multiset.card pairs
  found : ∀ category, (evaluation.counts category).truePositives =
    (pairs.map fun pair => ∑ sentence ∈ Finset.range pair.1.sentences.length,
      shared (pair.1.keysIn sentence) (pair.2.keysIn sentence) category).sum
  reference : ∀ category,
    (evaluation.counts category).truePositives + (evaluation.counts category).falseNegatives =
      (pairs.map fun pair => pair.1.categoryCount category).sum
  evaluated : ∀ category,
    (evaluation.counts category).truePositives + (evaluation.counts category).falsePositives =
      (pairs.map fun pair => pair.2.categoryCount category).sum
  ascending : (evaluation.report.categories.map Prod.fst).Pairwise (· < ·)
  categories : ∀ category, category ∈ evaluation.report.categories.map Prod.fst ↔
    ∃ pair ∈ pairs, ∃ a, (a ∈ pair.1.annotations.entries ∨ a ∈ pair.2.annotations.entries) ∧
      a.category = category
  scores : ∀ entry ∈ evaluation.report.categories,
    entry.2 = Score.ofCounts (evaluation.counts entry.1)
  total : evaluation.report.total =
    Score.ofCounts (evaluation.report.categories.map fun entry => entry.2.counts).sum

variable {evaluation : Evaluation} {pairs : Multiset (Document × Document)}

theorem reported : evaluation.report.categories.map Prod.fst = evaluation.tally.categories :=
  List.map_map

theorem Counted.counts_eq (counted : evaluation.Counted pairs) (category : String) :
    evaluation.counts category =
      (pairs.map fun pair => ∑ sentence ∈ Finset.range pair.1.sentences.length,
        Tally.countsOf category
          (verdicts (pair.1.keysIn sentence) (pair.2.keysIn sentence))).sum := by
  rw [counts, counted.tally.counts]
  change Tally.countsOf category (pairs.map pairVerdicts).sum = _
  rw [map_multiset_sum, Multiset.map_map]
  congr 1
  apply Multiset.map_congr rfl
  intro pair _
  exact map_sum (Tally.countsOf category) _ _

theorem Counted.part_eq (counted : evaluation.Counted pairs) (part : Counts →+ Nat)
    (category : String) :
    part (evaluation.counts category) =
      (pairs.map fun pair => ∑ sentence ∈ Finset.range pair.1.sentences.length,
        part (Tally.countsOf category
          (verdicts (pair.1.keysIn sentence) (pair.2.keysIn sentence)))).sum := by
  rw [counted.counts_eq, map_multiset_sum, Multiset.map_map]
  simp only [Function.comp_apply, map_sum]

theorem Counted.categories_iff (counted : evaluation.Counted pairs)
    (sound : ∀ pair ∈ pairs, pair.1.Sound ∧ pair.2.Sound ∧
      pair.1.sentences.length = pair.2.sentences.length) (category : String) :
    category ∈ evaluation.tally.categories ↔
      ∃ pair ∈ pairs, ∃ a, (a ∈ pair.1.annotations.entries ∨ a ∈ pair.2.annotations.entries) ∧
        a.category = category := by
  have marked : category ∈ evaluation.tally.categories ↔
      ∃ pair ∈ pairs, ∃ sentence < pair.1.sentences.length,
        ∃ mark ∈ verdicts (pair.1.keysIn sentence) (pair.2.keysIn sentence),
          mark.1 = category := by
    have joined (mark : String × Counts) : mark ∈ verdictsOf pairs ↔
        ∃ pair ∈ pairs, ∃ sentence < pair.1.sentences.length,
          mark ∈ verdicts (pair.1.keysIn sentence) (pair.2.keysIn sentence) := by
      change mark ∈ Multiset.join (pairs.map pairVerdicts) ↔ _
      simp [Multiset.mem_join, pairVerdicts, Multiset.mem_sum]
    rw [counted.tally.categories]
    simp only [joined]
    constructor
    next =>
      rintro ⟨mark, ⟨pair, compared, sentence, inside, present⟩, named⟩
      exact ⟨pair, compared, sentence, inside, mark, present, named⟩
    next =>
      rintro ⟨pair, compared, sentence, inside, mark, present, named⟩
      exact ⟨mark, ⟨pair, compared, sentence, inside, present⟩, named⟩
  rw [marked]
  apply exists_congr
  intro pair
  apply and_congr_right
  intro compared
  obtain ⟨left, right, same⟩ := sound pair compared
  have leftSide := pair.1.exists_keysIn_iff left category
  have rightSide := pair.2.exists_keysIn_iff right category
  rw [← same] at rightSide
  simp only [exists_verdict_iff, or_and_right, exists_or, and_or_left, leftSide, rightSide]

theorem Counted.measures (counted : evaluation.Counted pairs)
    (sound : ∀ pair ∈ pairs, pair.1.Sound ∧ pair.2.Sound ∧
      pair.1.sentences.length = pair.2.sentences.length) : evaluation.Measures pairs where
  documents := counted.documents
  found category := by
    have part := counted.part_eq Counts.foundPart category
    simp only [foundPart_verdicts, labelled_inter] at part
    exact part
  reference category := by
    have part := counted.part_eq Counts.referencePart category
    simp only [referencePart_verdicts] at part
    refine Eq.trans part (congrArg Multiset.sum (Multiset.map_congr rfl fun pair compared => ?_))
    exact pair.1.sum_labelled (sound pair compared).1 category
  evaluated category := by
    have part := counted.part_eq Counts.evaluatedPart category
    simp only [evaluatedPart_verdicts] at part
    refine Eq.trans part (congrArg Multiset.sum (Multiset.map_congr rfl fun pair compared => ?_))
    obtain ⟨_, right, same⟩ := sound pair compared
    -- As many sentences on the other side: none of its annotations is left out.
    rw [same]
    exact pair.2.sum_labelled right category
  ascending := by
    rw [reported]
    exact counted.tally.increasing
  categories category := by
    rw [reported]
    exact counted.categories_iff sound category
  scores entry listed := by
    rw [report, evaluation.tally.eq_map_get counted.tally.increasing, List.map_map] at listed
    obtain ⟨category, _, rfl⟩ := List.mem_map.mp listed
    rfl
  total := by
    rw [report, Tally.total_eq_sum, List.map_map]
    rfl

/-- The counts of a run of comparisons are multiset counts over the pairs that it compares. They
depend neither on the order of the comparisons nor on that of the annotations, and exchanging the two
sides exchanges what is spurious and what is missed. -/
theorem comparisons_count_multisets (comparisons : List Comparison)
    (valid : ∀ comparison ∈ comparisons, ∀ document ∈ comparison.inputs,
      document.validate = .ok ()) :
    (after comparisons).Measures (comparisons.map Comparison.pairs).sum ∧
    (∀ others, others.Perm comparisons → (after others).tally = (after comparisons).tally) ∧
    (∀ others, List.Forall₂ Comparison.SameSpans comparisons others →
      (after others).tally = (after comparisons).tally) ∧
    ∀ category, (after (comparisons.map Comparison.exchanged)).counts category =
      Counts.exchanged ((after comparisons).counts category) := by
  have counted := after_counted comparisons
  have paired := of_mem_pairs comparisons
  have sound : ∀ pair ∈ (comparisons.map Comparison.pairs).sum, pair.1.Sound ∧ pair.2.Sound ∧
      pair.1.sentences.length = pair.2.sentences.length := by
    intro pair compared
    obtain ⟨⟨comparison, listed, left, right⟩, same⟩ := paired pair compared
    have leftValid := valid comparison listed _ left
    have rightValid := valid comparison listed _ right
    exact ⟨pair.1.validate_eq_ok_iff.mp leftValid, pair.2.validate_eq_ok_iff.mp rightValid, same⟩
  refine ⟨counted.measures sound, fun others perm => ?_, fun others same => ?_, fun category => ?_⟩
  next =>
    have again := after_counted others
    rw [(perm.map Comparison.pairs).sum_eq] at again
    exact again.tally.unique counted.tally
  next =>
    have again := (after_counted others).tally
    rw [verdicts_sameSpans same] at again
    exact again.unique counted.tally
  next =>
    have again := after_counted (comparisons.map Comparison.exchanged)
    rw [pairs_exchanged] at again
    rw [again.counts_eq, counted.counts_eq, Multiset.map_map, map_multiset_sum, Multiset.map_map]
    refine congrArg Multiset.sum (Multiset.map_congr rfl fun pair compared => ?_)
    have lengths := (paired pair compared).2
    simp only [Function.comp_apply, Prod.fst_swap, Prod.snd_swap, map_sum,
      ← countsOf_verdicts_exchanged, lengths]

def janKnowsPiotr (annotations : Arena) : Document :=
  { Document.ofSentences "d"
      [⟨"s1", ["Jan", "zna", "Piotra"].map fun orth => Token.ofOrth orth 0, .empty 3⟩] with
    annotations := annotations
    nextId := 3 }

/-- The first name is there twice in the reference, and the second one is taken for a place. -/
def personsComparedTwice : List Comparison :=
  let reference := janKnowsPiotr ⟨[⟨0, 0, 0, 0, "PERSON", none, 0, ""⟩,
    ⟨1, 0, 0, 0, "PERSON", none, 1, ""⟩, ⟨2, 0, 2, 2, "PERSON", none, 0, ""⟩], by decide⟩
  let evaluated := janKnowsPiotr ⟨[⟨0, 0, 2, 2, "PLACE", none, 0, ""⟩,
    ⟨1, 0, 0, 0, "PERSON", none, 0, ""⟩], by decide⟩
  [.documents reference evaluated, .sets [reference] [evaluated]]

theorem personsComparedTwice_count_multisets :
    (after personsComparedTwice).counts "PERSON" = ⟨2, 0, 4⟩ ∧
      (after personsComparedTwice).Measures (personsComparedTwice.map Comparison.pairs).sum ∧
      (after (personsComparedTwice.map Comparison.exchanged)).counts "PERSON" = ⟨2, 4, 0⟩ := by
  have valid : ∀ comparison ∈ personsComparedTwice, ∀ document ∈ comparison.inputs,
      document.validate = .ok () := by decide +kernel
  obtain ⟨measures, _, _, exchanged⟩ := comparisons_count_multisets personsComparedTwice valid
  have counted : (after personsComparedTwice).counts "PERSON" = ⟨2, 0, 4⟩ := by decide +kernel
  refine ⟨counted, measures, ?_⟩
  rw [exchanged, counted]
  rfl

end Evaluation

end SpanAnnotation
