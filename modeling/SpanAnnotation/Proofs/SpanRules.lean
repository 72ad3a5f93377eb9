import SpanAnnotation.Document
import SpanAnnotation.Proofs.Identity
import SpanAnnotation.Proofs.Outcome

/-!
The rules of the span model as a property of documents. A document is valid exactly when they all
hold. Of its sentences the rules see only the sizes.
-/

set_option autoImplicit false

namespace SpanAnnotation

/-- The span lies in its sentence, the head in the span, and there is a category. -/
structure Annotation.Fits (sizes : List Nat) (a : Annotation) : Prop where
  inside : ∃ size, sizes[a.sentence]? = some size ∧ a.last < size
  upright : a.first ≤ a.last
  head : ∀ head, a.head = some head → a.covers head = true
  category : a.category ≠ ""

namespace Document

def sizes (document : Document) : List Nat := document.sentences.map Sentence.size

/-- The number of tokens; none for a sentence that does not exist. -/
def sentenceSize (document : Document) (sentence : Nat) : Nat :=
  ((document.sentence? sentence).map Sentence.size).getD 0

theorem sentenceSize_eq (document : Document) (place : Nat) (sentence : Sentence)
    (found : document.sentence? place = some sentence) :
    document.sentenceSize place = sentence.size := by
  simp [sentenceSize, found]

structure Sound (document : Document) : Prop where
  tables : ∀ sentence ∈ document.sentences, sentence.attributes.tokenCount = sentence.size
  identities : ∀ a ∈ document.annotations.entries, a.id < document.nextId
  spans : ∀ a ∈ document.annotations.entries, a.Fits document.sizes
  endpoints : ∀ relation ∈ document.relations,
    document.annotations.contains relation.source = true ∧
      document.annotations.contains relation.target = true

theorem Sound.sentence_lt {document : Document} (sound : document.Sound) (a : Annotation)
    (present : a ∈ document.annotations.entries) : a.sentence < document.sentences.length := by
  obtain ⟨size, found, _⟩ := (sound.spans a present).inside
  simpa [sizes] using (List.getElem?_eq_some_iff.mp found).1

theorem checkAnnotation_eq_ok_iff (sentences : List Sentence) (a : Annotation) :
    checkAnnotation sentences a = .ok () ↔ a.Fits (sentences.map Sentence.size) := by
  unfold checkAnnotation
  constructor
  · intro accepted
    split at accepted
    · simp at accepted
    next sentence found =>
      split at accepted
      · simp at accepted
      next bounds =>
        split at accepted
        · simp at accepted
        next headInside =>
          split at accepted
          · simp at accepted
          next named =>
            simp only [Bool.or_eq_true, decide_eq_true_eq, not_or, Nat.not_lt, Nat.not_le] at bounds
            refine ⟨⟨sentence.size, by simp [found], bounds.2⟩, bounds.1, ?_, ?_⟩
            · intro head present
              simpa [present, Option.filter] using headInside
            · simpa using named
  · rintro ⟨⟨size, found, bound⟩, upright, headInside, named⟩
    rw [List.getElem?_map, Option.map_eq_some_iff] at found
    obtain ⟨sentence, found, rfl⟩ := found
    have outside : a.head.filter (fun head => !a.covers head) = none := by
      cases present : a.head with
      | none => rfl
      | some head => simp [Option.filter, headInside head present]
    simp [found, Nat.not_lt_of_le upright, Nat.not_le_of_lt bound, outside, named]

theorem checkTable_eq_ok_iff (sentence : Sentence) :
    checkTable sentence = .ok () ↔ sentence.attributes.tokenCount = sentence.size := by
  simp [checkTable]

theorem checkIdentity_eq_ok_iff (document : Document) (a : Annotation) :
    document.checkIdentity a = .ok () ↔ a.id < document.nextId ∧ a.Fits document.sizes := by
  unfold checkIdentity
  split
  next small => simp [small, checkAnnotation_eq_ok_iff, sizes]
  next large => simp [large]

theorem checkRelation_eq_ok_iff (annotations : Arena) (relation : Relation) :
    checkRelation annotations relation = .ok () ↔
      annotations.contains relation.source = true ∧
        annotations.contains relation.target = true := by
  unfold checkRelation
  cases annotations.contains relation.source <;>
    cases annotations.contains relation.target <;> simp

theorem check_eq_ok_iff (document : Document) : document.check = .ok () ↔ document.Sound := by
  simp only [check, check_bind_eq_ok_iff, forM_eq_ok_iff, checkTable_eq_ok_iff,
    checkIdentity_eq_ok_iff, checkRelation_eq_ok_iff]
  constructor
  · rintro ⟨tables, annotations, relations⟩
    exact ⟨tables, fun a present => (annotations a present).1,
      fun a present => (annotations a present).2, relations⟩
  · rintro ⟨tables, identities, spans, endpoints⟩
    exact ⟨tables, fun a present => ⟨identities a present, spans a present⟩, endpoints⟩

theorem validate_eq_ok_iff (document : Document) :
    document.validate = .ok () ↔ document.Sound := by
  rw [← check_eq_ok_iff, validate]
  cases document.check <;> simp

theorem addRelation_eq_ok_iff (document longer : Document) (relation : Relation) :
    document.addRelation relation = .ok longer ↔
      (document.annotations.contains relation.source = true ∧
        document.annotations.contains relation.target = true) ∧
        longer = { document with relations := document.relations ++ [relation] } := by
  rw [← checkRelation_eq_ok_iff, addRelation]
  cases checkRelation document.annotations relation <;> simp [eq_comm]

/-- The relations that are added are the first of those given, and all of them on success. -/
theorem addRelations_spec (document : Document) (relations : List Relation) :
    ∃ added, added <+: relations ∧
      (∀ relation ∈ added, document.annotations.contains relation.source = true ∧
        document.annotations.contains relation.target = true) ∧
      (document.addRelations relations).1 =
        { document with relations := document.relations ++ added } ∧
      ((document.addRelations relations).2 = .ok () → added = relations) := by
  induction relations generalizing document with
  | nil => exact ⟨[], by simp [addRelations]⟩
  | cons relation rest ih =>
    unfold addRelations
    split
    next => exact ⟨[], by simp⟩
    next longer accepted =>
      obtain ⟨known, rfl⟩ := (document.addRelation_eq_ok_iff longer relation).mp accepted
      obtain ⟨added, first, endpoints, effect, complete⟩ :=
        ih { document with relations := document.relations ++ [relation] }
      refine ⟨relation :: added, (List.prefix_cons_inj relation).mpr first, ?_, ?_, ?_⟩
      · simpa using ⟨known, endpoints⟩
      · simpa using effect
      · exact fun success => congrArg _ (complete success)

theorem addRelations_eq (document : Document) (relations : List Relation)
    (known : ∀ relation ∈ relations, document.annotations.contains relation.source = true ∧
      document.annotations.contains relation.target = true) :
    document.addRelations relations =
      ({ document with relations := document.relations ++ relations }, .ok ()) := by
  induction relations generalizing document with
  | nil => simp [addRelations]
  | cons relation rest ih =>
    have accepted := (document.addRelation_eq_ok_iff _ relation).mpr ⟨known relation (by simp), rfl⟩
    simp only [addRelations, accepted]
    have later := ih { document with relations := document.relations ++ [relation] }
      fun other present => known other (List.mem_cons_of_mem relation present)
    simpa using later

end Document

end SpanAnnotation
