import SpanAnnotation.Proofs.Merging

/-!
Which annotations a merge leaves depends on their spans and categories alone. Identities decide
nothing, so that documents with the same labelled spans keep the same ones in whatever order these
came in; and what a merge has left, another one leaves alone.
-/

set_option autoImplicit false

namespace SpanAnnotation

/-- What an annotation says about the text, without its identity. -/
structure LabelledSpan where
  sentence : Nat
  first : Nat
  last : Nat
  category : String
  deriving DecidableEq, Repr

def Annotation.span (a : Annotation) : LabelledSpan := ⟨a.sentence, a.first, a.last, a.category⟩

def Document.spans (document : Document) : List LabelledSpan :=
  document.annotations.entries.map Annotation.span

namespace Document

-- Removing, also from a document that breaks the rules.

theorem remove_entries (document : Document) (id : Nat) :
    (document.remove id).1.annotations.entries =
      document.annotations.entries.filter fun a => a.id != id := by
  unfold remove
  split
  next absent =>
    rw [find?_eq_none_iff] at absent
    exact (List.filter_eq_self.mpr (by simpa using absent)).symm
  next => rfl

theorem removeAll_entries (document : Document) (ids : List Nat) :
    (document.removeAll ids).1.annotations.entries =
      document.annotations.entries.filter fun a => !ids.contains a.id := by
  induction ids generalizing document with
  | nil => exact (List.filter_eq_self.mpr fun _ _ => rfl).symm
  | cons id rest ih =>
    rw [removeAll]
    simp only [ih, remove_entries, List.filter_filter]
    apply List.filter_congr
    intro a _
    rw [List.contains_cons, Bool.not_or, Bool.and_comm]
    rfl

end Document

namespace Merger

variable (merger : Merger)

/-- The first span shares a token with the second one and is longer, or as long and of a category
that ranks before the other. -/
def prevails (y x : LabelledSpan) : Bool :=
  (y.sentence == x.sentence && y.first ≤ x.last && x.first ≤ y.last) &&
    (spanLength x.first x.last < spanLength y.first y.last ||
      (spanLength y.first y.last == spanLength x.first x.last &&
        merger.rank y.category < merger.rank x.category))

theorem prevails_irrefl (x : LabelledSpan) : merger.prevails x x = false := by
  simp [prevails]

theorem sentence_eq_of_prevails {y x : LabelledSpan} (wins : merger.prevails y x = true) :
    y.sentence = x.sentence := by
  simp only [prevails, Bool.and_eq_true, beq_iff_eq] at wins
  exact wins.1.1.1

theorem prevails_span (y x : Annotation) :
    merger.prevails y.span x.span =
      (y.overlaps x && (x.size < y.size ||
        (y.size == x.size && merger.rank y.category < merger.rank x.category))) := rfl

theorem compare_eq_lt_iff_prevails (y x : Annotation) (different : y ≠ x → y.id ≠ x.id) :
    merger.compare y x = .lt ↔ merger.prevails y.span x.span = true := by
  by_cases same : y = x
  · subst same
    simp [compare, prevails_irrefl]
  have ids := different same
  cases common : y.overlaps x with
  | false => simp [compare, prevails_span, common]
  | true =>
    by_cases equal : y.size = x.size
    · simp [compare, prevails_span, ids, common, equal, Nat.compare_eq_lt]
    · simp [compare, prevails_span, ids, common, equal, Nat.compare_eq_lt]

/-- The span loses to one of the given spans. -/
def falls (spans : List LabelledSpan) (x : LabelledSpan) : Bool :=
  (merger.rank? x.category).isSome &&
    spans.any fun y => (merger.rank? y.category).isSome && merger.prevails y x

theorem falls_congr {spans others : List LabelledSpan} (x : LabelledSpan)
    (same : ∀ y, y.sentence = x.sentence → (y ∈ spans ↔ y ∈ others)) :
    merger.falls spans x = merger.falls others x := by
  rw [falls, falls, Bool.eq_iff_iff]
  simp only [Bool.and_eq_true, List.any_eq_true]
  refine and_congr_right fun _ => exists_congr fun y => ?_
  constructor
  · rintro ⟨present, listed, wins⟩
    exact ⟨(same y (merger.sentence_eq_of_prevails wins)).mp present, listed, wins⟩
  · rintro ⟨present, listed, wins⟩
    exact ⟨(same y (merger.sentence_eq_of_prevails wins)).mpr present, listed, wins⟩

/-- What stays of spans when those of some sentences are merged. -/
def keptSpans (places : List Nat) (spans : List LabelledSpan) : List LabelledSpan :=
  spans.filter fun x => !(places.contains x.sentence && merger.falls spans x)

theorem mem_losers_iff (document : Document) (place : Nat) (x : Annotation)
    (present : x ∈ document.annotations.entries) :
    x.id ∈ merger.losers (document.annotationsIn place) ↔
      x.sentence = place ∧ merger.falls document.spans x.span = true := by
  have decided (y z : Annotation) (yPresent : y ∈ document.annotations.entries)
      (zPresent : z ∈ document.annotations.entries) :
      merger.compare y z = .lt ↔ merger.prevails y.span z.span = true :=
    merger.compare_eq_lt_iff_prevails y z fun different same =>
      different (document.annotations.eq_of_id_eq yPresent zPresent same)
  simp only [losers, mem_sorted, List.mem_map, List.mem_filter, losesAmong, List.any_eq_true,
    Document.mem_annotationsIn, beq_iff_eq, falls, Document.spans, Bool.and_eq_true, competes]
  constructor
  · rintro ⟨z, ⟨⟨⟨zPresent, zHere⟩, zListed⟩, y, ⟨⟨yPresent, _⟩, yListed⟩, less⟩, same⟩
    obtain rfl := document.annotations.eq_of_id_eq zPresent present same
    exact ⟨zHere, zListed, y.span, ⟨y, yPresent, rfl⟩, yListed,
      (decided y z yPresent zPresent).mp less⟩
  · rintro ⟨here, listed, _, ⟨y, yPresent, rfl⟩, yListed, wins⟩
    have yHere : y.sentence = place := (merger.sentence_eq_of_prevails wins).trans here
    exact ⟨x, ⟨⟨⟨present, here⟩, listed⟩, y, ⟨⟨yPresent, yHere⟩, yListed⟩,
      (decided y x yPresent present).mpr wins⟩, rfl⟩

theorem mergeSentence_spans (document : Document) (place : Nat) :
    (merger.mergeSentence document place).1.spans = merger.keptSpans [place] document.spans := by
  rw [mergeSentence, Document.spans, document.removeAll_entries, keptSpans, Document.spans,
    List.filter_map]
  congr 1
  apply List.filter_congr
  intro x present
  have lost := merger.mem_losers_iff document place x present
  have here : x.span.sentence = x.sentence := rfl
  rw [Bool.eq_iff_iff]
  simp only [Function.comp_apply, here, Bool.not_eq_true', Bool.eq_false_iff, ne_eq,
    List.contains_iff_mem, lost, Bool.and_eq_true, List.mem_singleton, Document.spans]

/-- Merging sentences in turn is the same as merging them at once, since a span loses only to spans
of its own sentence. -/
theorem mergeSentences_spans (document : Document) (places : List Nat) (distinct : places.Nodup) :
    (merger.mergeSentences document places).1.spans = merger.keptSpans places document.spans := by
  induction places generalizing document with
  | nil => simp [mergeSentences, keptSpans]
  | cons place rest ih =>
    obtain ⟨new, tail⟩ := List.nodup_cons.mp distinct
    have others (x : LabelledSpan) (later : x.sentence ∈ rest) :
        merger.falls (merger.keptSpans [place] document.spans) x =
          merger.falls document.spans x := by
      apply merger.falls_congr x
      intro y here
      have elsewhere : y.sentence ≠ place := fun same => new (same ▸ here ▸ later)
      simp [keptSpans, elsewhere]
    have step : (merger.mergeSentences document (place :: rest)).1.spans =
        merger.keptSpans rest (merger.keptSpans [place] document.spans) := by
      rw [← merger.mergeSentence_spans]
      exact ih _ tail
    have judged : merger.keptSpans rest (merger.keptSpans [place] document.spans) =
        (merger.keptSpans [place] document.spans).filter fun x =>
          !(rest.contains x.sentence && merger.falls document.spans x) := by
      apply List.filter_congr
      intro x _
      by_cases later : x.sentence ∈ rest
      · rw [others x later]
      · simp [later]
    rw [step, judged, keptSpans, keptSpans, List.filter_filter]
    apply List.filter_congr
    intro x _
    cases merger.falls document.spans x <;> simp [Bool.and_comm]

theorem mergeDocument_spans (document : Document) :
    (merger.mergeDocument document).1.spans =
      merger.keptSpans (List.range document.sentences.length) document.spans :=
  merger.mergeSentences_spans document _ List.nodup_range

theorem keptSpans_perm (places : List Nat) {spans others : List LabelledSpan}
    (same : spans.Perm others) :
    (merger.keptSpans places spans).Perm (merger.keptSpans places others) := by
  have falls : merger.falls spans = merger.falls others := by
    funext x
    exact merger.falls_congr x fun y _ => same.mem_iff
  rw [keptSpans, keptSpans, falls]
  exact same.filter _

theorem beatenAnnotations_merged (document : Document) (sound : document.Sound) :
    merger.beatenAnnotations (merger.mergeDocument document).1 = [] := by
  have left := merger.survivors_entries document sound
  have final := merger.mergeDocument_sound document sound
  apply List.eq_nil_iff_forall_not_mem.mpr
  intro x beaten
  obtain ⟨present, y, yPresent, beats⟩ := (merger.mem_beatenAnnotations _ final x).mp beaten
  rw [left, List.mem_filter] at present yPresent
  -- The winner stood in the original document as well.
  have unbeaten : ¬ merger.Beaten document x := by simpa using present.2
  exact unbeaten ⟨y, yPresent.1, beats⟩

/-- Merging a document that was merged removes nothing and changes nothing, and documents over the
same sentences that have the same labelled spans, each as often, keep the same ones as often. -/
theorem mergeDocument_settles :
    (∀ document : Document, document.validate = .ok () →
      merger.mergeDocument (merger.mergeDocument document).1 =
        ((merger.mergeDocument document).1, [])) ∧
    ∀ one other : Document, one.sentences = other.sentences → one.spans.Perm other.spans →
      (merger.mergeDocument one).1.spans.Perm (merger.mergeDocument other).1.spans := by
  constructor
  · intro document valid
    have sound := document.validate_eq_ok_iff.mp valid
    have final := merger.mergeDocument_sound document sound
    rw [merger.mergeDocument_eq _ final, merger.beatenAnnotations_merged document sound]
    rfl
  · intro one other sentences same
    rw [merger.mergeDocument_spans one, merger.mergeDocument_spans other, sentences]
    exact merger.keptSpans_perm _ same

-- The annotations of the chain of conflicts, the last one first.
def reversedConflicts : Document :=
  { chainOfConflicts with
    annotations :=
      ⟨[⟨0, 0, 0, 3, "EVENT", none, 0, ""⟩, ⟨1, 0, 3, 3, "PERSON", some 3, 0, ""⟩,
        ⟨2, 0, 2, 3, "PLACE", none, 0, ""⟩, ⟨3, 0, 0, 2, "PERSON", none, 0, ""⟩], by decide⟩
    relations := [] }

theorem mergeDocument_settles_chainOfConflicts :
    (Merger.ranking ["PERSON", "PLACE"]).mergeDocument
        ((Merger.ranking ["PERSON", "PLACE"]).mergeDocument chainOfConflicts).1 =
      (((Merger.ranking ["PERSON", "PLACE"]).mergeDocument chainOfConflicts).1, []) ∧
    ((Merger.ranking ["PERSON", "PLACE"]).mergeDocument chainOfConflicts).1.spans.Perm
      ((Merger.ranking ["PERSON", "PLACE"]).mergeDocument reversedConflicts).1.spans := by
  have valid : chainOfConflicts.validate = .ok () := by decide
  have same : chainOfConflicts.spans.Perm reversedConflicts.spans := by decide
  obtain ⟨settled, orderless⟩ := mergeDocument_settles (ranking ["PERSON", "PLACE"])
  exact ⟨settled chainOfConflicts valid, orderless _ _ rfl same⟩

end Merger

end SpanAnnotation
