import Mathlib.Data.List.Pairwise
import SpanAnnotation.Proofs.Operations

/-!
Histories: a document and what becomes of it under any operations in any order, whether they
succeed or fail. As long as identities do not run out the document stays valid, and an identity
denotes the same annotation wherever it turns up.
-/

set_option autoImplicit false

namespace SpanAnnotation

inductive Operation where
  | add (sentence : Nat) (proposal : Proposal) (source : String)
  | remove (id : Nat)
  | relate (relation : Relation)
  | chunk (chunker : Chunker)
  | mergeSentence (merger : Merger) (sentence : Nat)
  | merge (merger : Merger)
  | resolve (resolver : Resolver) (clock : Clock)
  | process (pipeline : Pipeline) (clock : Clock)
  | writeTags (sentence : Nat) (category name : String)
  | register (sentence : Nat) (name : String)
  | setAttribute (sentence token : Nat) (key : AttributeKey) (value : String)
  | clearAttribute (sentence token : Nat) (key : AttributeKey)
  -- The document is written as JSON and read again.
  | reload

namespace Document

def changeTable (document : Document) (sentence : Nat) (change : AttributeTable → AttributeTable) :
    Document :=
  match document.sentence? sentence with
  | none => document
  | some target => document.withTable sentence (change target.attributes)

theorem changeTable_evolves (document : Document) (sound : document.Sound) (sentence : Nat)
    (change : AttributeTable → AttributeTable)
    (sameCount : ∀ table, (change table).tokenCount = table.tokenCount) :
    document.Evolves [] (document.changeTable sentence change) := by
  unfold changeTable
  split
  next => exact .refl sound
  next target found =>
    exact document.withTable_evolves sound sentence target _ found (sameCount target.attributes)

theorem reloaded_evolves (document found : Document) (sound : document.Sound)
    (accepted : Wire.Json.decode ofValue (Wire.Json.render document.toValue) = .ok found) :
    document.Evolves [] found := by
  obtain ⟨foundSound, annotations, _, counter⟩ := document.reloaded found sound accepted
  exact .of_subset foundSound counter (by rw [annotations]; exact List.Subset.refl _)

end Document

namespace Operation

/-- What an operation leaves; one that fails leaves the document that it was given, except that
a chunker does not give back the identities that it used. Where identities run out the program ends,
and there is nothing to go on with. -/
def after (document : Document) : Operation → Document
  | .add sentence proposal source =>
      match document.add sentence proposal source with
      | .ok (longer, _) => longer
      | .error _ => document
  | .remove id => (document.remove id).1
  | .relate relation => (document.addRelation relation).toOption.getD document
  | .chunk chunker => (document.applyChunker chunker).1
  | .mergeSentence merger sentence => (merger.mergeSentence document sentence).1
  | .merge merger => (merger.mergeDocument document).1
  | .resolve resolver clock => (resolver.resolve document clock).1
  | .process pipeline clock => (pipeline.process clock document).1
  | .writeTags sentence category name => (Bio.writeAttribute document sentence category name).1
  | .register sentence name =>
      document.changeTable sentence fun table => (table.register name).1
  | .setAttribute sentence token key value =>
      document.changeTable sentence fun table =>
        (table.set token key value).1
  | .clearAttribute sentence token key =>
      document.changeTable sentence fun table => table.clear token key
  | .reload =>
      (Wire.Json.decode Document.ofValue (Wire.Json.render document.toValue)).toOption.getD document

def issued (document : Document) : Operation → List Nat
  | .add sentence proposal source =>
      match document.add sentence proposal source with
      | .ok (_, id) => [id]
      | .error _ => []
  | .chunk chunker => document.chunkedIds chunker
  | .process pipeline clock => pipeline.issuedIds clock document
  | _ => []

theorem after_evolves (operation : Operation) (document : Document) (sound : document.Sound) :
    document.Evolves (operation.issued document) (operation.after document) := by
  cases operation with
  | add sentence proposal source =>
    simp only [issued, after]
    split
    next longer id added =>
      exact document.add_evolves longer sound sentence id proposal source added
    next => exact .refl sound
  | remove id =>
    have single := document.withoutAll_evolves sound [id]
    rw [after, document.remove_eq sound]
    exact single
  | relate relation =>
    rw [after]
    cases added : document.addRelation relation with
    | error e => exact .refl sound
    | ok longer => exact document.addRelation_evolves longer sound relation added
  | chunk chunker => exact document.applyChunker_evolves sound chunker
  | mergeSentence merger sentence => exact merger.mergeSentence_evolves document sound sentence
  | merge merger => exact merger.mergeDocument_evolves document sound
  | resolve resolver clock => exact resolver.resolve_evolves document sound clock
  | process pipeline clock => exact pipeline.process_evolves clock document sound
  | writeTags sentence category name =>
    exact Bio.writeAttribute_evolves document sound sentence category name
  | register sentence name =>
    exact document.changeTable_evolves sound sentence _ fun table => table.register_tokenCount name
  | setAttribute sentence token key value =>
    exact document.changeTable_evolves sound sentence _ fun table =>
      table.set_tokenCount token key value
  | clearAttribute sentence token key =>
    exact document.changeTable_evolves sound sentence _ fun table =>
      table.clear_tokenCount token key
  | reload =>
    rw [after]
    cases read : Wire.Json.decode Document.ofValue (Wire.Json.render document.toValue) with
    | error e => exact .refl sound
    | ok found => exact document.reloaded_evolves found sound read

end Operation

namespace Document

def history (document : Document) : List Operation → List Document
  | [] => [document]
  | operation :: rest => document :: (operation.after document).history rest

def issuedOver (document : Document) : List Operation → List Nat
  | [] => []
  | operation :: rest =>
      operation.issued document ++ (operation.after document).issuedOver rest

/-- The counter never comes to its last value, even in the middle of an operation. -/
def HasRoom (document : Document) (operations : List Operation) : Prop :=
  document.nextId + (document.issuedOver operations).length < maxIndex

instance (document : Document) (operations : List Operation) :
    Decidable (document.HasRoom operations) :=
  inferInstanceAs (Decidable (_ < _))

theorem HasRoom.rest {document : Document} {operation : Operation} {rest : List Operation}
    (room : document.HasRoom (operation :: rest)) (sound : document.Sound) :
    (operation.after document).HasRoom rest := by
  rw [HasRoom, issuedOver, List.length_append] at room
  rwa [HasRoom, (operation.after_evolves document sound).counter, Nat.add_assoc]

/-- Every state comes from the first one, with identities among those given out. -/
theorem history_evolves (document : Document) (sound : document.Sound)
    (operations : List Operation) :
    ∀ state ∈ document.history operations, ∃ ids, ids <+: document.issuedOver operations ∧
      document.Evolves ids state := by
  induction operations generalizing document with
  | nil =>
    intro state present
    rw [List.mem_singleton.mp present]
    exact ⟨[], List.nil_prefix, .refl sound⟩
  | cons operation rest ih =>
    have step := operation.after_evolves document sound
    intro state present
    rcases List.mem_cons.mp present with rfl | later
    · exact ⟨[], List.nil_prefix, .refl sound⟩
    · obtain ⟨ids, first, evolves⟩ := ih (operation.after document) step.sound state later
      exact ⟨_, (List.prefix_append_right_inj _).mpr first, step.trans evolves⟩

theorem history_pairwise (document : Document) (sound : document.Sound)
    (operations : List Operation) :
    (document.history operations).Pairwise fun earlier later =>
      earlier.Sound ∧ ∃ ids, earlier.Evolves ids later := by
  induction operations generalizing document with
  | nil => exact List.pairwise_singleton _ _
  | cons operation rest ih =>
    have all := document.history_evolves sound (operation :: rest)
    have step := operation.after_evolves document sound
    refine List.pairwise_cons.mpr ⟨?_, ih (operation.after document) step.sound⟩
    intro later present
    obtain ⟨ids, _, evolves⟩ := all later (List.mem_cons_of_mem _ present)
    exact ⟨sound, ids, evolves⟩

theorem issuedOver_consecutive (document : Document) (sound : document.Sound)
    (operations : List Operation) :
    document.issuedOver operations =
      List.range' document.nextId (document.issuedOver operations).length := by
  induction operations generalizing document with
  | nil => rfl
  | cons operation rest ih =>
    have step := operation.after_evolves document sound
    rw [issuedOver, List.length_append, ← List.range'_append_1, ← step.consecutive, ← step.counter,
      ← ih (operation.after document) step.sound]

theorem history_hasRoom (document : Document) (sound : document.Sound)
    (operations : List Operation) (room : document.HasRoom operations) :
    ∀ state ∈ document.history operations, state.nextId < maxIndex := by
  intro state present
  obtain ⟨ids, first, evolves⟩ := document.history_evolves sound operations state present
  have few := first.length_le
  have counter := evolves.counter
  unfold HasRoom at room
  omega

/-- No identity denotes two different annotations in two documents. -/
def Agrees (one other : Document) : Prop :=
  ∀ a ∈ one.annotations.entries, ∀ b ∈ other.annotations.entries, a.id = b.id → a = b

theorem Agrees.symm {one other : Document} (agrees : one.Agrees other) : other.Agrees one :=
  fun a there b here same => (agrees b here a there same.symm).symm

instance : Std.Symm Agrees := ⟨fun _ _ => Agrees.symm⟩

theorem Agrees.refl (document : Document) : document.Agrees document :=
  fun _ here _ there => document.annotations.eq_of_id_eq here there

/-- Whatever is done to a valid document, every state is valid and has an identity for the next
annotation, the counter never goes back, the identities that are given out increase, and no identity
denotes two different annotations. -/
theorem history_keeps_identities (start : Document) (operations : List Operation)
    (valid : start.validate = .ok ()) (room : start.HasRoom operations) :
    (∀ state ∈ start.history operations, state.validate = .ok () ∧ state.Sound ∧
      ∀ sentence proposal source cause,
        state.add sentence proposal source ≠ .error (.panic cause)) ∧
      (start.history operations).Pairwise (fun earlier later =>
        earlier.nextId ≤ later.nextId ∧
          ∀ a ∈ later.annotations.entries,
            a ∈ earlier.annotations.entries ∨ earlier.nextId ≤ a.id) ∧
      (start.issuedOver operations).Pairwise (fun earlier later => earlier < later) ∧
      (∀ id ∈ start.issuedOver operations, start.nextId ≤ id) ∧
      (∀ state ∈ start.history operations, ∀ a ∈ state.annotations.entries,
        a ∈ start.annotations.entries ∨ a.id ∈ start.issuedOver operations) ∧
      ∀ one ∈ start.history operations, ∀ other ∈ start.history operations, one.Agrees other := by
  have sound := start.validate_eq_ok_iff.mp valid
  have states := start.history_evolves sound operations
  have pairs := start.history_pairwise sound operations
  have consecutive := start.issuedOver_consecutive sound operations
  refine ⟨?_, ?_, ?_, ?_, ?_, ?_⟩
  · intro state present
    obtain ⟨_, _, evolves⟩ := states state present
    have below := start.history_hasRoom sound operations room state present
    exact ⟨state.validate_eq_ok_iff.mpr evolves.sound, evolves.sound, state.add_ne_panic below⟩
  · refine pairs.imp ?_
    rintro earlier later ⟨_, ids, evolves⟩
    refine ⟨evolves.nextId_le, fun a present => (evolves.known a present).imp_right fun new => ?_⟩
    exact ((evolves.mem_ids_iff a.id).mp new).1
  · rw [consecutive]
    exact List.pairwise_lt_range'
  · intro id issued
    rw [consecutive, List.mem_range'_1] at issued
    exact issued.1
  · intro state present a there
    obtain ⟨ids, first, evolves⟩ := states state present
    exact (evolves.known a there).imp_right fun issued => first.subset issued
  · have agree : (start.history operations).Pairwise Agrees :=
      pairs.imp fun ⟨earlierSound, _, evolves⟩ _ before _ after =>
        evolves.eq_of_id_eq earlierSound before after
    exact fun one present other there =>
      agree.forall_of_forall (fun state _ => Agrees.refl state) present there

/-- A chunker whose second proposal is refused, a merge that takes relations along, and one more
annotation. -/
def refusalMergeAdd : List Operation :=
  [.chunk ⟨"names", fun _ => [.plain 0 0 "PERSON", .plain 9 9 "PERSON"]⟩,
    .merge (.ranking ["PERSON", "PLACE"]), .writeTags 0 "PERSON" "tag",
    .add 0 (.plain 1 1 "PLACE") "hand", .remove 0]

theorem refusalMergeAdd_keeps_identities :
    Merger.chainOfConflicts.issuedOver refusalMergeAdd = [4, 5] ∧
      ∀ state ∈ Merger.chainOfConflicts.history refusalMergeAdd,
        state.validate = .ok () ∧ state.Sound ∧ ∀ sentence proposal source cause,
          state.add sentence proposal source ≠ .error (.panic cause) := by
  have valid : Merger.chainOfConflicts.validate = .ok () := by decide
  have room : Merger.chainOfConflicts.HasRoom refusalMergeAdd := by decide +kernel
  exact ⟨by decide +kernel, (history_keeps_identities _ _ valid room).1⟩

end Document

end SpanAnnotation
