import Mathlib.Data.List.Pairwise
import Mathlib.Data.List.Sort
import SpanAnnotation.Merge
import SpanAnnotation.Proofs.Removal
import SpanAnnotation.Proofs.TextOrder

/-!
Merging a document removes the annotations that another one beats, judged on the document as it was
before: sentence by sentence is the same as all at once. What is left of the competing annotations
overlaps only in ties.
-/

set_option autoImplicit false

namespace SpanAnnotation

namespace Annotation

def SharesToken (a b : Annotation) : Prop :=
  ∃ token, a.covers token = true ∧ b.covers token = true

theorem SharesToken.symm {a b : Annotation} (common : a.SharesToken b) : b.SharesToken a := by
  obtain ⟨token, left, right⟩ := common
  exact ⟨token, right, left⟩

theorem sharesToken_iff (a b : Annotation) :
    a.SharesToken b ↔ max a.first b.first ≤ min a.last b.last := by
  simp only [SharesToken, covers, Bool.and_eq_true, decide_eq_true_eq]
  constructor
  · rintro ⟨token, left, right⟩
    omega
  · intro common
    exact ⟨max a.first b.first, by omega, by omega⟩

instance (a b : Annotation) : Decidable (a.SharesToken b) :=
  decidable_of_iff _ (sharesToken_iff a b).symm

theorem overlaps_iff (a b : Annotation) (left : a.first ≤ a.last) (right : b.first ≤ b.last) :
    a.overlaps b = true ↔ a.sentence = b.sentence ∧ a.SharesToken b := by
  simp only [overlaps, sharesToken_iff, Bool.and_eq_true, beq_iff_eq, decide_eq_true_eq]
  omega

/-- A span that ends below the largest index is as long as the list of its tokens. -/
theorem size_eq_length_tokens (a : Annotation) (bound : a.last < maxIndex) :
    a.size = a.tokens.length := by
  simp only [size, spanLength, tokens, List.length_range']
  omega

end Annotation

namespace Merger

variable (merger : Merger)

/-- The first annotation is longer than the second, or as long with a category that stands earlier
in the list. Both compete, and they share a token of one sentence. -/
def Beats (y x : Annotation) : Prop :=
  (y.category ∈ merger.priority ∧ x.category ∈ merger.priority) ∧
    (y.sentence = x.sentence ∧ y.SharesToken x) ∧
      (x.size < y.size ∨ x.size = y.size ∧
        merger.priority.idxOf y.category < merger.priority.idxOf x.category)

instance (y x : Annotation) : Decidable (merger.Beats y x) := by
  unfold Beats
  infer_instance

def Beaten (document : Document) (x : Annotation) : Prop :=
  ∃ y ∈ document.annotations.entries, merger.Beats y x

instance (document : Document) (x : Annotation) : Decidable (merger.Beaten document x) := by
  unfold Beaten
  infer_instance

theorem not_beats_self (x : Annotation) : ¬ merger.Beats x x := by
  rintro ⟨_, _, shorter | ⟨_, later⟩⟩ <;> omega

-- The comparison decides who beats whom.

theorem lookup_zipIdx (list : List String) (first : Nat) (category : String) :
    (list.zipIdx first).lookup category =
      if category ∈ list then some (first + list.idxOf category) else none := by
  induction list generalizing first with
  | nil => rfl
  | cons other rest ih =>
    rw [List.zipIdx_cons, List.lookup_cons, ih]
    by_cases same : category = other
    next => simp [same]
    next =>
      have apart : (category == other) = false := by simpa using same
      simp [apart, same, List.idxOf_cons_ne _ (Ne.symm same), Nat.add_right_comm, Nat.add_assoc]

theorem rank?_eq_some_iff (category : String) (i : Nat) :
    merger.rank? category = some i ↔
      category ∈ merger.priority ∧ merger.priority.idxOf category = i := by
  rw [rank?, merger.inStep, lookup_zipIdx]
  simp

theorem competes_iff (a : Annotation) :
    merger.competes a = true ↔ a.category ∈ merger.priority := by
  simp [competes, Option.isSome_iff_exists, rank?_eq_some_iff]

theorem rank_of_mem {category : String} (listed : category ∈ merger.priority) :
    merger.rank category = merger.priority.idxOf category := by
  have found := (merger.rank?_eq_some_iff category _).mpr ⟨listed, rfl⟩
  simp [rank, found]

theorem compare_eq_lt_iff (y x : Annotation) (yListed : y.category ∈ merger.priority)
    (xListed : x.category ∈ merger.priority) (yUpright : y.first ≤ y.last)
    (xUpright : x.first ≤ x.last) (different : y ≠ x → y.id ≠ x.id) :
    merger.compare y x = .lt ↔ merger.Beats y x := by
  by_cases same : y = x
  · subst same
    simp [compare, not_beats_self]
  have ids := different same
  have overlap := Annotation.overlaps_iff y x yUpright xUpright
  by_cases common : y.sentence = x.sentence ∧ y.SharesToken x
  · have touching := overlap.mpr common
    by_cases equal : y.size = x.size
    · simp [compare, Beats, ids, touching, common, equal, rank_of_mem, xListed, yListed,
        Nat.compare_eq_lt]
    · simp [compare, Beats, ids, touching, common, equal, Ne.symm equal, xListed, yListed,
        Nat.compare_eq_lt]
  · have apart : y.overlaps x = false := Bool.eq_false_iff.mpr fun touching =>
      common (overlap.mp touching)
    simp [compare, Beats, apart, common]

-- Losers in increasing order.

def Increasing (ids : List Nat) : Prop := ids.Pairwise (· < ·)

theorem mem_insertSorted (n m : Nat) (ids : List Nat) :
    m ∈ insertSorted n ids ↔ m = n ∨ m ∈ ids := by
  induction ids with
  | nil => simp [insertSorted]
  | cons first rest ih =>
    simp only [insertSorted]
    split
    · simp
    · split
      next same => simp [same]
      next => simp [ih, or_left_comm]

theorem insertSorted_increasing (n : Nat) (ids : List Nat) (increasing : Increasing ids) :
    Increasing (insertSorted n ids) := by
  induction ids with
  | nil => simp [insertSorted, Increasing]
  | cons first rest ih =>
    obtain ⟨below, tail⟩ := List.pairwise_cons.mp increasing
    simp only [insertSorted]
    split
    next less => exact List.pairwise_cons_cons_iff_of_trans.mpr ⟨less, increasing⟩
    next notLess =>
      split
      · exact increasing
      next different =>
        refine List.pairwise_cons.mpr ⟨?_, ih tail⟩
        intro m present
        rcases (mem_insertSorted n m rest).mp present with rfl | later
        · omega
        · exact below m later

theorem mem_sorted (m : Nat) (ids : List Nat) : m ∈ sorted ids ↔ m ∈ ids := by
  induction ids with
  | nil => simp [sorted]
  | cons first rest ih =>
    have step : sorted (first :: rest) = insertSorted first (sorted rest) := rfl
    simp [step, mem_insertSorted, ih]

theorem sorted_increasing (ids : List Nat) : Increasing (sorted ids) := by
  induction ids with
  | nil => exact List.Pairwise.nil
  | cons first rest ih => exact insertSorted_increasing first (sorted rest) ih

def beatenIn (document : Document) (sentence : Nat) : List Annotation :=
  document.annotations.entries.filter fun x => x.sentence = sentence ∧ merger.Beaten document x

theorem mem_beatenIn (document : Document) (sentence : Nat) (x : Annotation) :
    x ∈ merger.beatenIn document sentence ↔
      x ∈ document.annotations.entries ∧ x.sentence = sentence ∧ merger.Beaten document x := by
  simp [beatenIn]

theorem losers_eq (document : Document) (sound : document.Sound) (sentence : Nat) :
    merger.losers (document.annotationsIn sentence) =
      (merger.beatenIn document sentence).map Annotation.id := by
  apply (sorted_increasing _).eq_of_mem_iff
  · exact List.pairwise_map.mpr (document.annotations.increasing.filter _)
  intro id
  have decided (y x : Annotation) (yPresent : y ∈ document.annotations.entries)
      (xPresent : x ∈ document.annotations.entries) (yListed : y.category ∈ merger.priority)
      (xListed : x.category ∈ merger.priority) : merger.compare y x = .lt ↔ merger.Beats y x :=
    merger.compare_eq_lt_iff y x yListed xListed (sound.spans y yPresent).upright
      (sound.spans x xPresent).upright
      fun different same => different (document.annotations.eq_of_id_eq yPresent xPresent same)
  simp only [mem_sorted, List.mem_map, List.mem_filter, losesAmong, List.any_eq_true,
    mem_beatenIn, Document.mem_annotationsIn, competes_iff, beq_iff_eq]
  constructor
  · rintro ⟨x, ⟨⟨⟨xPresent, xHere⟩, xListed⟩, y, ⟨⟨yPresent, _⟩, yListed⟩, less⟩, rfl⟩
    exact ⟨x, ⟨xPresent, xHere, y, yPresent,
      (decided y x yPresent xPresent yListed xListed).mp less⟩, rfl⟩
  · rintro ⟨x, ⟨xPresent, xHere, y, yPresent, beats⟩, rfl⟩
    have yHere : y.sentence = sentence := beats.2.1.1.trans xHere
    exact ⟨x, ⟨⟨⟨xPresent, xHere⟩, beats.1.2⟩, y, ⟨⟨yPresent, yHere⟩, beats.1.1⟩,
      (decided y x yPresent xPresent beats.1.1 beats.1.2).mpr beats⟩, rfl⟩

-- One sentence, then all of them.

theorem mergeSentence_eq (document : Document) (sound : document.Sound) (sentence : Nat) :
    merger.mergeSentence document sentence =
      (document.withoutAll ((merger.beatenIn document sentence).map Annotation.id),
        merger.beatenIn document sentence) := by
  have distinct : ((merger.beatenIn document sentence).map Annotation.id).Nodup :=
    List.pairwise_map.mpr (document.annotations.entries_distinct.filter _)
  rw [mergeSentence, merger.losers_eq document sound]
  apply Prod.ext
  · exact document.removeAll_fst sound _
  · rw [document.removeAll_snd sound _ distinct]
    exact document.annotations.filterMap_find?_ids _ fun x present =>
      ((merger.mem_beatenIn document sentence x).mp present).1

def merged (document : Document) (sentence : Nat) : Document :=
  document.withoutAll ((merger.beatenIn document sentence).map Annotation.id)

theorem mem_merged (document : Document) (sentence : Nat) (x : Annotation)
    (present : x ∈ document.annotations.entries) (elsewhere : x.sentence ≠ sentence) :
    x ∈ (merger.merged document sentence).annotations.entries := by
  rw [merged, Document.withoutAll_entries, List.mem_filter]
  refine ⟨present, ?_⟩
  simp only [List.contains_iff_mem, List.mem_map, mem_beatenIn, Bool.not_eq_true',
    Bool.eq_false_iff, ne_eq]
  rintro ⟨y, ⟨yPresent, yHere, _⟩, same⟩
  have equal := document.annotations.eq_of_id_eq yPresent present same
  exact elsewhere (equal ▸ yHere)

theorem mem_of_mem_merged (document : Document) (sentence : Nat) (x : Annotation)
    (present : x ∈ (merger.merged document sentence).annotations.entries) :
    x ∈ document.annotations.entries := by
  rw [merged, Document.withoutAll_entries] at present
  exact (List.mem_filter.mp present).1

theorem beaten_merged_iff (document : Document) (sentence : Nat) (x : Annotation)
    (elsewhere : x.sentence ≠ sentence) :
    merger.Beaten (merger.merged document sentence) x ↔ merger.Beaten document x := by
  constructor
  · rintro ⟨y, present, beats⟩
    exact ⟨y, merger.mem_of_mem_merged document sentence y present, beats⟩
  · rintro ⟨y, present, beats⟩
    have yElsewhere : y.sentence ≠ sentence := beats.2.1.1 ▸ elsewhere
    exact ⟨y, merger.mem_merged document sentence y present yElsewhere, beats⟩

theorem beatenIn_merged (document : Document) (sentence other : Nat)
    (different : other ≠ sentence) :
    merger.beatenIn (merger.merged document sentence) other = merger.beatenIn document other := by
  rw [beatenIn, beatenIn, merged, Document.withoutAll_entries, List.filter_filter]
  apply List.filter_congr
  intro x present
  by_cases here : x.sentence = other
  · have elsewhere : x.sentence ≠ sentence := here ▸ different
    have stays := merger.mem_merged document sentence x present elsewhere
    have beaten := merger.beaten_merged_iff document sentence x elsewhere
    rw [merged, Document.withoutAll_entries, List.mem_filter] at stays
    rw [merged] at beaten
    simp only [here, beaten, stays.2, true_and, Bool.and_true]
  · simp [here]

theorem merged_sound (document : Document) (sound : document.Sound) (sentence : Nat) :
    (merger.merged document sentence).Sound :=
  document.withoutAll_sound sound _

theorem mergeSentences_eq (document : Document) (sound : document.Sound) (sentences : List Nat)
    (distinct : sentences.Nodup) :
    merger.mergeSentences document sentences =
      (document.withoutAll ((sentences.flatMap (merger.beatenIn document)).map Annotation.id),
        sentences.flatMap (merger.beatenIn document)) := by
  induction sentences generalizing document with
  | nil => rfl
  | cons sentence rest ih =>
    obtain ⟨new, tail⟩ := List.nodup_cons.mp distinct
    have others : rest.flatMap (merger.beatenIn (merger.merged document sentence)) =
        rest.flatMap (merger.beatenIn document) := by
      apply List.flatMap_congr
      intro other present
      exact merger.beatenIn_merged document sentence other fun same => new (same ▸ present)
    have following := ih (merger.merged document sentence)
      (merger.merged_sound document sound sentence) tail
    rw [others] at following
    simp only [mergeSentences, merger.mergeSentence_eq document sound, List.flatMap_cons,
      List.map_append, Document.withoutAll_append]
    rw [← merged, following]

/-- All that a merge takes out, by sentence and then by identity. -/
def beatenAnnotations (document : Document) : List Annotation :=
  (List.range document.sentences.length).flatMap (merger.beatenIn document)

theorem mergeDocument_eq (document : Document) (sound : document.Sound) :
    merger.mergeDocument document =
      (document.withoutAll ((merger.beatenAnnotations document).map Annotation.id),
        merger.beatenAnnotations document) :=
  merger.mergeSentences_eq document sound _ List.nodup_range

theorem mergeDocument_sound (document : Document) (sound : document.Sound) :
    (merger.mergeDocument document).1.Sound := by
  rw [merger.mergeDocument_eq document sound]
  exact document.withoutAll_sound sound _

theorem mem_beatenAnnotations (document : Document) (sound : document.Sound) (x : Annotation) :
    x ∈ merger.beatenAnnotations document ↔
      x ∈ document.annotations.entries ∧ merger.Beaten document x := by
  simp only [beatenAnnotations, List.mem_flatMap, List.mem_range, mem_beatenIn]
  constructor
  · rintro ⟨_, _, present, _, beaten⟩
    exact ⟨present, beaten⟩
  · rintro ⟨present, beaten⟩
    exact ⟨x.sentence, sound.sentence_lt x present, present, rfl, beaten⟩

theorem survivors_entries (document : Document) (sound : document.Sound) :
    (merger.mergeDocument document).1.annotations.entries =
      document.annotations.entries.filter fun x => ¬ merger.Beaten document x := by
  rw [mergeDocument_eq merger document sound, Document.withoutAll_entries]
  apply List.filter_congr
  intro x present
  have named : x.id ∈ (merger.beatenAnnotations document).map Annotation.id ↔
      merger.Beaten document x := by
    simp only [List.mem_map, mem_beatenAnnotations merger document sound]
    constructor
    · rintro ⟨y, ⟨yPresent, beaten⟩, same⟩
      exact document.annotations.eq_of_id_eq yPresent present same ▸ beaten
    · exact fun beaten => ⟨x, ⟨present, beaten⟩, rfl⟩
  rw [Bool.eq_iff_iff]
  simp [named]

theorem tie_of_not_beats (x y : Annotation) (xListed : x.category ∈ merger.priority)
    (yListed : y.category ∈ merger.priority) (here : x.sentence = y.sentence)
    (common : x.SharesToken y) (notLeft : ¬ merger.Beats x y) (notRight : ¬ merger.Beats y x) :
    x.size = y.size ∧ x.category = y.category := by
  simp only [Beats, xListed, yListed, here, common, common.symm, true_and, not_or, not_and]
    at notLeft notRight
  have size : x.size = y.size := by omega
  have place : merger.priority.idxOf x.category = merger.priority.idxOf y.category := by
    have left := notLeft.2 size.symm
    have right := notRight.2 size
    omega
  exact ⟨size, (List.idxOf_inj xListed).mp place⟩

theorem survivors_tie (document : Document) (sound : document.Sound) (x y : Annotation)
    (xLeft : x ∈ (merger.mergeDocument document).1.annotations.entries)
    (yLeft : y ∈ (merger.mergeDocument document).1.annotations.entries)
    (xListed : x.category ∈ merger.priority) (yListed : y.category ∈ merger.priority)
    (here : x.sentence = y.sentence) (common : x.SharesToken y) :
    x.size = y.size ∧ x.category = y.category := by
  rw [merger.survivors_entries document sound] at xLeft yLeft
  simp only [List.mem_filter, decide_not, Bool.not_eq_true', decide_eq_false_iff_not] at *
  exact merger.tie_of_not_beats x y xListed yListed here common
    (fun beats => yLeft.2 ⟨x, xLeft.1, beats⟩) fun beats => xLeft.2 ⟨y, yLeft.1, beats⟩

/-- A merge takes out the beaten annotations of the document as it was, with the relations that
touch them, and nothing else; what is left of the group overlaps only in ties. -/
theorem mergeDocument_removes_exactly_beaten (document final : Document)
    (removed : List Annotation) (valid : document.validate = .ok ())
    (run : merger.mergeDocument document = (final, removed)) :
    (∀ x ∈ document.annotations.entries, x ∈ removed ↔ merger.Beaten document x) ∧
      removed = (List.range document.sentences.length).flatMap (merger.beatenIn document) ∧
      final.annotations.entries =
        document.annotations.entries.filter (fun x => ¬ merger.Beaten document x) ∧
      final.relations =
        document.relations.filter (fun relation => !removed.any fun x => relation.touches x.id) ∧
      final.id = document.id ∧ final.sentences = document.sentences ∧
      final.nextId = document.nextId ∧
      ∀ x ∈ final.annotations.entries, ∀ y ∈ final.annotations.entries,
        x.category ∈ merger.priority → y.category ∈ merger.priority →
          x.sentence = y.sentence → x.SharesToken y →
            x.size = y.size ∧ x.category = y.category := by
  have sound := document.validate_eq_ok_iff.mp valid
  have entries := merger.survivors_entries document sound
  have ties := merger.survivors_tie document sound
  have effect := merger.mergeDocument_eq document sound
  rw [run] at entries effect ties
  obtain ⟨rfl, rfl⟩ := Prod.mk.inj effect
  refine ⟨?_, rfl, entries, ?_, by simp, by simp, by simp, ?_⟩
  · intro x present
    simp [mem_beatenAnnotations merger document sound, present]
  · rw [Document.withoutAll_relations]
    simp [List.any_map, Function.comp_def]
  · intro x xLeft y yLeft
    exact ties x y xLeft yLeft

/-- The first annotation beats the second, which still beats the third. -/
def chainOfConflicts : Document :=
  { Document.ofSentences "d"
      [⟨"s1", ["Jan", "i", "Ana", "Lis"].map fun orth => Token.ofOrth orth 0, .empty 4⟩] with
    annotations :=
      ⟨[⟨0, 0, 0, 2, "PERSON", none, 0, ""⟩, ⟨1, 0, 2, 3, "PLACE", none, 0, ""⟩,
        ⟨2, 0, 3, 3, "PERSON", some 3, 0, ""⟩, ⟨3, 0, 0, 3, "EVENT", none, 0, ""⟩], by decide⟩
    relations := [.coreference 2 0, .ofKind 3 0 "part"]
    nextId := 4 }

theorem mergeDocument_removes_chainOfConflicts :
    chainOfConflicts.validate = .ok () ∧
      ((Merger.ranking ["PERSON", "PLACE"]).mergeDocument chainOfConflicts).2.map Annotation.id =
        [1, 2] := by
  have valid : chainOfConflicts.validate = .ok () := by decide
  have removed := (mergeDocument_removes_exactly_beaten (ranking ["PERSON", "PLACE"])
    chainOfConflicts _ _ valid (Prod.eta _).symm).2.1
  refine ⟨valid, ?_⟩
  rw [removed]
  decide

end Merger

end SpanAnnotation
