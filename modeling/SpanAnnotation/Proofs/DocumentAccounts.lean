import Mathlib.Algebra.BigOperators.Group.Finset.Piecewise
import Mathlib.Algebra.Ring.Nat
import SpanAnnotation.Proofs.ComparedPairs

/-!
Which documents an evaluation of two sets accounts for. Each name of a side is compared, found to have
another number of sentences, or missing on the other side, and counted as such once. So nothing is
lost where names are distinct, and otherwise the last document of a name stands for the earlier ones.
-/

set_option autoImplicit false

namespace SpanAnnotation.Evaluation

-- Documents by name.

theorem named?_isSome_iff (documents : List Document) (name : String) :
    (named? documents name).isSome ↔ name ∈ documents.map Document.id := by
  simp [named?]

theorem named?_eq_some_iff (documents : List Document)
    (distinct : (documents.map Document.id).Nodup) (name : String) (document : Document) :
    named? documents name = some document ↔ document ∈ documents ∧ document.id = name := by
  have reversed : (documents.reverse.map Document.id).Nodup := by
    rwa [List.map_reverse, List.nodup_reverse]
  rw [named?, find?_key_eq_some_iff Document.id documents.reverse reversed, List.mem_reverse]

theorem named?_perm (documents others : List Document) (perm : others.Perm documents)
    (distinct : (documents.map Document.id).Nodup) : named? others = named? documents := by
  have again : (others.map Document.id).Nodup := (perm.map Document.id).nodup_iff.mpr distinct
  funext name
  apply Option.ext
  intro document
  rw [named?_eq_some_iff documents distinct, named?_eq_some_iff others again, perm.mem_iff]

-- The documents of either side that are counted in some way.

def referenceSide (evaluation : Evaluation) : Nat :=
  evaluation.documentsCompared + evaluation.differentSentenceCount + evaluation.onlyInReference

def evaluatedSide (evaluation : Evaluation) : Nat :=
  evaluation.documentsCompared + evaluation.differentSentenceCount + evaluation.onlyInEvaluated

theorem compareDocuments_sides (evaluation : Evaluation) (reference evaluated : Document) :
    (evaluation.compareDocuments reference evaluated).1.referenceSide =
        evaluation.referenceSide + 1 ∧
      (evaluation.compareDocuments reference evaluated).1.evaluatedSide =
        evaluation.evaluatedSide + 1 := by
  unfold compareDocuments referenceSide evaluatedSide
  dsimp only
  split
  next => constructor <;> dsimp only <;> omega
  next => constructor <;> dsimp only <;> omega

/-- A name counts once for each side that has it. -/
theorem compareNamed_sides (reference evaluated : List Document) (evaluation : Evaluation)
    (name : String) :
    (compareNamed reference evaluated evaluation name).referenceSide =
        evaluation.referenceSide + (if name ∈ reference.map Document.id then 1 else 0) ∧
      (compareNamed reference evaluated evaluation name).evaluatedSide =
        evaluation.evaluatedSide + (if name ∈ evaluated.map Document.id then 1 else 0) := by
  simp only [← named?_isSome_iff]
  unfold compareNamed
  cases named? reference name with
  | none =>
    cases named? evaluated name with
    | none => simp
    | some e =>
      simp only [referenceSide, evaluatedSide, Option.isSome, if_true]
      exact ⟨rfl, by omega⟩
  | some r =>
    cases named? evaluated name with
    | none =>
      simp only [referenceSide, evaluatedSide, Option.isSome, if_true]
      exact ⟨by omega, rfl⟩
    | some e => simpa using evaluation.compareDocuments_sides r e

theorem sum_of_listed (names ids : List String) (all : ids ⊆ names) :
    (∑ name ∈ names.toFinset, if name ∈ ids then 1 else 0) = ids.toFinset.card := by
  have listed : names.toFinset.filter (· ∈ ids) = ids.toFinset := by
    ext name
    simpa using fun present => all present
  rw [← listed, Finset.card_filter]

theorem compareSets_sides (evaluation : Evaluation) (reference evaluated : List Document) :
    (evaluation.compareSets reference evaluated).referenceSide =
        evaluation.referenceSide + (reference.map Document.id).toFinset.card ∧
      (evaluation.compareSets reference evaluated).evaluatedSide =
        evaluation.evaluatedSide + (evaluated.map Document.id).toFinset.card := by
  have each := compareNamed_sides reference evaluated
  have names : (reference ++ evaluated).map Document.id =
      reference.map Document.id ++ evaluated.map Document.id := List.map_append
  rw [← sum_of_listed _ _ (List.subset_append_left (reference.map Document.id) _),
    ← sum_of_listed _ _ (List.subset_append_right _ (evaluated.map Document.id)), ← names,
    ← sum_insertNames, ← sum_insertNames]
  constructor
  next =>
    refine foldl_adds (fun reached count => referenceSide reached = count) _ _ ?_ _ _ _ rfl
    rintro reached _ name rfl
    exact (each reached name).1
  next =>
    refine foldl_adds (fun reached count => evaluatedSide reached = count) _ _ ?_ _ _ _ rfl
    rintro reached _ name rfl
    exact (each reached name).2

/-- Only the document that a name finds makes a difference. -/
theorem compareSets_congr (evaluation : Evaluation)
    (reference evaluated otherReference otherEvaluated : List Document)
    (left : named? otherReference = named? reference)
    (right : named? otherEvaluated = named? evaluated) :
    evaluation.compareSets otherReference otherEvaluated =
      evaluation.compareSets reference evaluated := by
  have names : ((otherReference ++ otherEvaluated).map Document.id).foldr insertName [] =
      ((reference ++ evaluated).map Document.id).foldr insertName [] := by
    refine (insertNames_increasing _).eq_of_mem_iff (insertNames_increasing _) fun name => ?_
    simp only [mem_insertNames, List.map_append, List.mem_append, ← named?_isSome_iff, left, right]
  have each : compareNamed otherReference otherEvaluated = compareNamed reference evaluated := by
    funext reached name
    rw [compareNamed, compareNamed, left, right]
  rw [compareSets, compareSets, names, each]

theorem toFinset_card_eq_length_iff (names : List String) :
    names.toFinset.card = names.length ↔ names.Nodup :=
  Multiset.toFinset_card_eq_card_iff_nodup

/-- A comparison of two sets counts each name of a side once, hence each document exactly when no name
is given twice. Then the order of the documents does not matter; otherwise it does so far as it decides
which document of a name comes last. -/
theorem compareSets_accounts_for_names (reference evaluated : List Document)
    (report : EvaluationReport) (reported : report = (empty.compareSets reference evaluated).report) :
    (report.documentsCompared + report.differentSentenceCount + report.onlyInReference =
        (reference.map Document.id).toFinset.card ∧
      report.documentsCompared + report.differentSentenceCount + report.onlyInEvaluated =
        (evaluated.map Document.id).toFinset.card) ∧
    (report.documentsCompared + report.differentSentenceCount + report.onlyInReference =
        reference.length ↔ (reference.map Document.id).Nodup) ∧
    (report.documentsCompared + report.differentSentenceCount + report.onlyInEvaluated =
        evaluated.length ↔ (evaluated.map Document.id).Nodup) ∧
    (∀ otherReference otherEvaluated,
      named? otherReference = named? reference → named? otherEvaluated = named? evaluated →
        (empty.compareSets otherReference otherEvaluated).report = report) ∧
    ∀ otherReference otherEvaluated,
      otherReference.Perm reference → otherEvaluated.Perm evaluated →
        (reference.map Document.id).Nodup → (evaluated.map Document.id).Nodup →
          (empty.compareSets otherReference otherEvaluated).report = report := by
  obtain ⟨left, right⟩ := empty.compareSets_sides reference evaluated
  have leftCounted : report.documentsCompared + report.differentSentenceCount +
      report.onlyInReference = (reference.map Document.id).toFinset.card := by
    rw [reported, ← Nat.zero_add (Finset.card _)]
    exact left
  have rightCounted : report.documentsCompared + report.differentSentenceCount +
      report.onlyInEvaluated = (evaluated.map Document.id).toFinset.card := by
    rw [reported, ← Nat.zero_add (Finset.card _)]
    exact right
  have same (otherReference otherEvaluated : List Document)
      (left : named? otherReference = named? reference)
      (right : named? otherEvaluated = named? evaluated) :
      (empty.compareSets otherReference otherEvaluated).report = report := by
    rw [reported, compareSets_congr empty reference evaluated _ _ left right]
  refine ⟨⟨leftCounted, rightCounted⟩, ?_, ?_, same, ?_⟩
  next =>
    rw [leftCounted, ← toFinset_card_eq_length_iff, List.length_map]
  next =>
    rw [rightCounted, ← toFinset_card_eq_length_iff, List.length_map]
  next =>
    intro otherReference otherEvaluated leftPerm rightPerm leftDistinct rightDistinct
    exact same _ _ (named?_perm reference _ leftPerm leftDistinct)
      (named?_perm evaluated _ rightPerm rightDistinct)

/-- A document without annotations, with one sentence for each word. -/
def story (id : String) (words : List String) : Document :=
  .ofSentences id (words.map fun word => ⟨"s1", [Token.ofOrth word 0], .empty 1⟩)

theorem stories_in_any_order :
    ∃ report, (empty.compareSets [story "a" ["Jan"], story "b" ["Ana", "śpi"]]
        [story "b" ["Ana"], story "c" ["Jan"]]).report = report ∧
      report.documentsCompared + report.differentSentenceCount + report.onlyInReference = 2 ∧
      (empty.compareSets [story "b" ["Ana", "śpi"], story "a" ["Jan"]]
        [story "c" ["Jan"], story "b" ["Ana"]]).report = report := by
  obtain ⟨_, ⟨_, all⟩, _, _, orderless⟩ := compareSets_accounts_for_names
    [story "a" ["Jan"], story "b" ["Ana", "śpi"]] [story "b" ["Ana"], story "c" ["Jan"]] _ rfl
  exact ⟨_, rfl, all (by decide), orderless _ _ (by decide) (by decide) (by decide) (by decide)⟩

-- Two documents of one name, of which one is lost, and which one is a matter of order.
theorem namesake_lost :
    (empty.compareSets [story "a" ["Jan"], story "a" ["Ana"]] []).referenceSide = 1 ∧
      [story "a" ["Jan"], story "a" ["Ana"]].length = 2 ∧
      (empty.compareSets [story "a" ["Jan"], story "a" ["Ana", "śpi"]]
        [story "a" ["Jan"]]).documentsCompared = 0 ∧
      (empty.compareSets [story "a" ["Ana", "śpi"], story "a" ["Jan"]]
        [story "a" ["Jan"]]).documentsCompared = 1 := by
  decide

end SpanAnnotation.Evaluation
