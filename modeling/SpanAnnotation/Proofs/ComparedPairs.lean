import Mathlib.Algebra.BigOperators.Group.Finset.Basic
import SpanAnnotation.Proofs.MergedSpans
import SpanAnnotation.Proofs.SpanMatching

/-!
Runs of comparisons: which documents are compared with each other, and that the tally holds the
verdicts on these pairs and nothing else.
-/

set_option autoImplicit false

namespace SpanAnnotation

namespace Document

def keysIn (document : Document) (sentence : Nat) : Multiset SpanKey :=
  (document.annotations.entries.filter fun a => a.sentence == sentence).map SpanKey.of

theorem keysIn_eq (document : Document) (sentence : Nat) :
    ((document.annotationsIn sentence).map SpanKey.of : Multiset SpanKey) =
      document.keysIn sentence := by
  have perm := Annotation.inOrder_perm
    (document.annotations.entries.filter fun a => a.sentence == sentence)
  exact Multiset.coe_eq_coe.mpr (perm.map SpanKey.of)

end Document

inductive Comparison where
  | documents (reference evaluated : Document)
  | sets (reference evaluated : List Document)

namespace Comparison

def apply (evaluation : Evaluation) : Comparison → Evaluation
  | documents reference evaluated => (evaluation.compareDocuments reference evaluated).1
  | sets reference evaluated => evaluation.compareSets reference evaluated

def inputs : Comparison → List Document
  | documents reference evaluated => [reference, evaluated]
  | sets reference evaluated => reference ++ evaluated

def exchanged : Comparison → Comparison
  | documents reference evaluated => documents evaluated reference
  | sets reference evaluated => sets evaluated reference

end Comparison

/-- Two documents are compared when they have as many sentences. -/
def meeting (reference evaluated : Document) : Multiset (Document × Document) :=
  if reference.sentences.length = evaluated.sentences.length then {(reference, evaluated)} else 0

def meetingNamed (reference evaluated : List Document) (name : String) :
    Multiset (Document × Document) :=
  match Evaluation.named? reference name, Evaluation.named? evaluated name with
  | some r, some e => meeting r e
  | _, _ => 0

/-- The documents that a comparison compares with each other. -/
def Comparison.pairs : Comparison → Multiset (Document × Document)
  | documents reference evaluated => meeting reference evaluated
  | sets reference evaluated =>
      ∑ name ∈ ((reference ++ evaluated).map Document.id).toFinset,
        meetingNamed reference evaluated name

def pairVerdicts (pair : Document × Document) : Multiset (String × Counts) :=
  ∑ sentence ∈ Finset.range pair.1.sentences.length,
    verdicts (pair.1.keysIn sentence) (pair.2.keysIn sentence)

def verdictsOf : Multiset (Document × Document) →+ Multiset (String × Counts) :=
  Multiset.sumAddMonoidHom.comp (Multiset.mapAddMonoidHom pairVerdicts)

theorem verdictsOf_singleton (pair : Document × Document) :
    verdictsOf {pair} = pairVerdicts pair := by
  simp [verdictsOf]

namespace Evaluation

def after (comparisons : List Comparison) : Evaluation := comparisons.foldl Comparison.apply empty

structure Counted (evaluation : Evaluation) (pairs : Multiset (Document × Document)) : Prop where
  documents : evaluation.documentsCompared = Multiset.card pairs
  tally : evaluation.tally.Sums (verdictsOf pairs)

theorem compareSentence_sums (reference evaluated : Document) (tally : Tally)
    (marks : Multiset (String × Counts)) (sentence : Nat) (sums : tally.Sums marks) :
    (compareSentence tally reference evaluated sentence).Sums
      (marks + verdicts (reference.keysIn sentence) (evaluated.keysIn sentence)) := by
  have matched := matchSpans_sums tally marks sums ((reference.annotationsIn sentence).map SpanKey.of)
    ((evaluated.annotationsIn sentence).map SpanKey.of)
  rwa [Document.keysIn_eq, Document.keysIn_eq] at matched

theorem compareDocuments_counted (reference evaluated : Document) (evaluation : Evaluation)
    (pairs : Multiset (Document × Document)) (counted : evaluation.Counted pairs) :
    (evaluation.compareDocuments reference evaluated).1.Counted
      (pairs + meeting reference evaluated) := by
  unfold compareDocuments meeting
  by_cases same : reference.sentences.length = evaluated.sentences.length
  next =>
    have sums := foldl_adds Tally.Sums _ _ (compareSentence_sums reference evaluated)
      (List.range reference.sentences.length) _ _ counted.tally
    rw [if_pos same, if_pos same]
    constructor
    next => simp [counted.documents]
    next =>
      rw [map_add, verdictsOf_singleton]
      exact sums
  next =>
    rw [if_neg same, if_neg same, add_zero]
    exact ⟨counted.documents, counted.tally⟩

theorem compareNamed_counted (reference evaluated : List Document) (evaluation : Evaluation)
    (pairs : Multiset (Document × Document)) (name : String) (counted : evaluation.Counted pairs) :
    (compareNamed reference evaluated evaluation name).Counted
      (pairs + meetingNamed reference evaluated name) := by
  unfold compareNamed meetingNamed
  cases named? reference name with
  | none =>
    rw [add_zero]
    cases named? evaluated name <;> exact ⟨counted.documents, counted.tally⟩
  | some r =>
    cases named? evaluated name with
    | none =>
      rw [add_zero]
      exact ⟨counted.documents, counted.tally⟩
    | some e => exact compareDocuments_counted r e evaluation pairs counted

theorem insertNames_increasing (names : List String) :
    (names.foldr insertName []).Pairwise (· < ·) := by
  induction names with
  | nil => exact .nil
  | cons name rest ih => exact insertName_increasing name _ ih

theorem mem_insertNames (names : List String) (name : String) :
    name ∈ names.foldr insertName [] ↔ name ∈ names := by
  induction names with
  | nil => rfl
  | cons first rest ih => rw [List.foldr_cons, mem_insertName, ih, List.mem_cons]

theorem sum_insertNames {M : Type} [AddCommMonoid M] (names : List String) (amount : String → M) :
    ((names.foldr insertName []).map amount).sum = ∑ name ∈ names.toFinset, amount name := by
  have distinct := (insertNames_increasing names).imp fun less => less.ne
  have listed : (names.foldr insertName []).toFinset = names.toFinset := by
    ext name
    rw [List.mem_toFinset, List.mem_toFinset, mem_insertNames]
  rw [← List.sum_toFinset _ distinct, listed]

theorem apply_counted (evaluation : Evaluation) (pairs : Multiset (Document × Document))
    (comparison : Comparison) (counted : evaluation.Counted pairs) :
    (comparison.apply evaluation).Counted (pairs + comparison.pairs) := by
  cases comparison with
  | documents reference evaluated => exact compareDocuments_counted _ _ _ _ counted
  | sets reference evaluated =>
    -- The names are taken in order and once each, so that their order does not show in the sum.
    have each := foldl_adds Counted _ _ (compareNamed_counted reference evaluated)
      (((reference ++ evaluated).map Document.id).foldr insertName []) evaluation pairs counted
    rwa [sum_insertNames] at each

/-- A run of comparisons counts the pairs that meet in them. -/
theorem after_counted (comparisons : List Comparison) :
    (after comparisons).Counted (comparisons.map Comparison.pairs).sum := by
  have start : empty.Counted 0 := ⟨rfl, Tally.sums_nil⟩
  have run := foldl_adds Counted _ _ apply_counted comparisons empty 0 start
  rwa [zero_add] at run

end Evaluation

-- Which documents meet.

theorem mem_meeting (reference evaluated : Document) (pair : Document × Document) :
    pair ∈ meeting reference evaluated ↔
      reference.sentences.length = evaluated.sentences.length ∧ pair = (reference, evaluated) := by
  unfold meeting
  by_cases same : reference.sentences.length = evaluated.sentences.length <;> simp [same]

theorem mem_of_named? (documents : List Document) (name : String) (document : Document)
    (found : Evaluation.named? documents name = some document) : document ∈ documents :=
  List.mem_reverse.mp (List.mem_of_find?_eq_some found)

theorem Comparison.of_mem_pairs (comparison : Comparison) (pair : Document × Document)
    (compared : pair ∈ comparison.pairs) :
    pair.1 ∈ comparison.inputs ∧ pair.2 ∈ comparison.inputs ∧
      pair.1.sentences.length = pair.2.sentences.length := by
  cases comparison with
  | documents reference evaluated =>
    obtain ⟨same, rfl⟩ := (mem_meeting _ _ _).mp compared
    simp [inputs, same]
  | sets reference evaluated =>
    obtain ⟨name, _, named⟩ := Multiset.mem_sum.mp compared
    unfold meetingNamed at named
    split at named
    next r e found evaluatedFound =>
      obtain ⟨same, rfl⟩ := (mem_meeting _ _ _).mp named
      have left := mem_of_named? _ _ _ found
      have right := mem_of_named? _ _ _ evaluatedFound
      simp [inputs, left, right, same]
    next => simp at named

theorem of_mem_pairs (comparisons : List Comparison) (pair : Document × Document)
    (compared : pair ∈ (comparisons.map Comparison.pairs).sum) :
    (∃ comparison ∈ comparisons, pair.1 ∈ comparison.inputs ∧ pair.2 ∈ comparison.inputs) ∧
      pair.1.sentences.length = pair.2.sentences.length := by
  induction comparisons with
  | nil => simp at compared
  | cons comparison rest ih =>
    rw [List.map_cons, List.sum_cons, Multiset.mem_add] at compared
    cases compared with
    | inl here =>
      obtain ⟨left, right, same⟩ := comparison.of_mem_pairs pair here
      exact ⟨⟨comparison, by simp, left, right⟩, same⟩
    | inr later =>
      obtain ⟨⟨other, listed, both⟩, same⟩ := ih later
      exact ⟨⟨other, List.mem_cons_of_mem _ listed, both⟩, same⟩

-- Reference and evaluated documents change places.

theorem meeting_exchanged (reference evaluated : Document) :
    meeting evaluated reference = (meeting reference evaluated).map Prod.swap := by
  unfold meeting
  by_cases same : reference.sentences.length = evaluated.sentences.length
  next => simp [same]
  next => rw [if_neg same, if_neg (Ne.symm same), Multiset.map_zero]

theorem meetingNamed_exchanged (reference evaluated : List Document) (name : String) :
    meetingNamed evaluated reference name =
      (meetingNamed reference evaluated name).map Prod.swap := by
  unfold meetingNamed
  cases Evaluation.named? reference name with
  | none => cases Evaluation.named? evaluated name <;> simp
  | some r =>
    cases Evaluation.named? evaluated name with
    | none => simp
    | some e => exact meeting_exchanged r e

theorem Comparison.pairs_exchanged (comparison : Comparison) :
    comparison.exchanged.pairs = comparison.pairs.map Prod.swap := by
  cases comparison with
  | documents reference evaluated => exact meeting_exchanged reference evaluated
  | sets reference evaluated =>
    have names : ((evaluated ++ reference).map Document.id).toFinset =
        ((reference ++ evaluated).map Document.id).toFinset := by
      ext name
      simp [or_comm]
    simp only [exchanged, pairs, names, meetingNamed_exchanged reference evaluated]
    exact (map_sum (Multiset.mapAddMonoidHom Prod.swap) _ _).symm

theorem pairs_exchanged (comparisons : List Comparison) :
    ((comparisons.map Comparison.exchanged).map Comparison.pairs).sum =
      ((comparisons.map Comparison.pairs).sum).map Prod.swap := by
  have each := map_list_sum (Multiset.mapAddMonoidHom Prod.swap) (comparisons.map Comparison.pairs)
  rw [List.map_map] at each ⊢
  refine Eq.trans (congrArg List.sum (List.map_congr_left fun comparison _ => ?_)) each.symm
  exact comparison.pairs_exchanged

-- The same spans, put in in another order and under other identities.

structure Document.SameSpans (document other : Document) : Prop where
  id : other.id = document.id
  sentences : other.sentences.length = document.sentences.length
  spans : other.spans.Perm document.spans

inductive Comparison.SameSpans : Comparison → Comparison → Prop where
  | documents {reference evaluated otherReference otherEvaluated : Document}
      (left : reference.SameSpans otherReference) (right : evaluated.SameSpans otherEvaluated) :
      SameSpans (documents reference evaluated) (documents otherReference otherEvaluated)
  | sets {reference evaluated otherReference otherEvaluated : List Document}
      (left : List.Forall₂ Document.SameSpans reference otherReference)
      (right : List.Forall₂ Document.SameSpans evaluated otherEvaluated) :
      SameSpans (sets reference evaluated) (sets otherReference otherEvaluated)

theorem Document.keysIn_eq_spans (document : Document) (sentence : Nat) :
    document.keysIn sentence =
      (document.spans.filter fun x => x.sentence == sentence).map
        fun x => (⟨x.first, x.last, x.category⟩ : SpanKey) := by
  rw [spans, List.filter_map, List.map_map]
  rfl

theorem Document.SameSpans.keysIn {document other : Document} (same : document.SameSpans other)
    (sentence : Nat) : other.keysIn sentence = document.keysIn sentence := by
  rw [keysIn_eq_spans, keysIn_eq_spans]
  exact Multiset.coe_eq_coe.mpr ((same.spans.filter _).map _)

theorem meeting_sameSpans {reference evaluated otherReference otherEvaluated : Document}
    (left : reference.SameSpans otherReference) (right : evaluated.SameSpans otherEvaluated) :
    verdictsOf (meeting otherReference otherEvaluated) =
      verdictsOf (meeting reference evaluated) := by
  unfold meeting
  rw [left.sentences, right.sentences]
  split
  next =>
    rw [verdictsOf_singleton, verdictsOf_singleton]
    simp only [pairVerdicts, left.keysIn, right.keysIn, left.sentences]
  next => rfl

theorem find?_sameSpans {documents others : List Document}
    (same : List.Forall₂ Document.SameSpans documents others) (name : String) :
    Option.Rel Document.SameSpans (documents.find? fun document => document.id == name)
      (others.find? fun document => document.id == name) := by
  induction same with
  | nil => exact .none
  | @cons document other _ _ first _ ih =>
    rw [List.find?_cons, List.find?_cons, first.id]
    cases document.id == name with
    | false => exact ih
    | true => exact .some first

theorem meetingNamed_sameSpans {reference evaluated otherReference otherEvaluated : List Document}
    (left : List.Forall₂ Document.SameSpans reference otherReference)
    (right : List.Forall₂ Document.SameSpans evaluated otherEvaluated) (name : String) :
    verdictsOf (meetingNamed otherReference otherEvaluated name) =
      verdictsOf (meetingNamed reference evaluated name) := by
  have leftFound : Option.Rel Document.SameSpans (Evaluation.named? reference name)
    (Evaluation.named? otherReference name) := find?_sameSpans (List.rel_reverse left) name
  have rightFound : Option.Rel Document.SameSpans (Evaluation.named? evaluated name)
    (Evaluation.named? otherEvaluated name) := find?_sameSpans (List.rel_reverse right) name
  unfold meetingNamed
  generalize Evaluation.named? reference name = r, Evaluation.named? otherReference name = r',
    Evaluation.named? evaluated name = e, Evaluation.named? otherEvaluated name = e'
    at leftFound rightFound ⊢
  cases leftFound with
  | none => cases rightFound <;> rfl
  | some leftSame =>
    cases rightFound with
    | none => rfl
    | some rightSame => exact meeting_sameSpans leftSame rightSame

theorem ids_sameSpans {documents others : List Document}
    (same : List.Forall₂ Document.SameSpans documents others) :
    others.map Document.id = documents.map Document.id := by
  induction same with
  | nil => rfl
  | cons first _ ih => rw [List.map_cons, List.map_cons, first.id, ih]

theorem Comparison.SameSpans.verdicts {comparison other : Comparison}
    (same : comparison.SameSpans other) : verdictsOf other.pairs = verdictsOf comparison.pairs := by
  cases same with
  | documents left right => exact meeting_sameSpans left right
  | sets left right =>
    simp only [pairs, List.map_append, ids_sameSpans left, ids_sameSpans right, map_sum,
      meetingNamed_sameSpans left right]

theorem verdicts_sameSpans {comparisons others : List Comparison}
    (same : List.Forall₂ Comparison.SameSpans comparisons others) :
    verdictsOf (others.map Comparison.pairs).sum = verdictsOf (comparisons.map Comparison.pairs).sum := by
  induction same with
  | nil => rfl
  | cons first _ ih =>
    rw [List.map_cons, List.map_cons, List.sum_cons, List.sum_cons, map_add, map_add, ih,
      first.verdicts]

end SpanAnnotation
