import SpanAnnotation.Proofs.AllOrNothing
import SpanAnnotation.Proofs.History
import SpanAnnotation.Proofs.RoundTrip

/-!
Every document that can come about is portable: one made from text or tokens, one that was
accepted, and whatever any operations make of it. Its text can be read again at any time, and gives
the same document.
-/

set_option autoImplicit false

namespace SpanAnnotation

open Wire

-- Annotations and relations.

namespace Document

/-- The sentences are the same, and the channels of new annotations can be written. -/
structure SameText (before after : Document) : Prop where
  sentences : after.sentences = before.sentences
  channels : ∀ a ∈ after.annotations.entries,
    a ∈ before.annotations.entries ∨ a.channel < natLimit

namespace SameText

variable {first second third : Document}

theorem refl (document : Document) : document.SameText document :=
  ⟨rfl, fun _ present => .inl present⟩

theorem trans (left : first.SameText second) (right : second.SameText third) :
    first.SameText third where
  sentences := right.sentences.trans left.sentences
  channels a present := (right.channels a present).elim (left.channels a) .inr

theorem of_subset (sentences : second.sentences = first.sentences)
    (subset : second.annotations.entries ⊆ first.annotations.entries) : first.SameText second :=
  ⟨sentences, fun _ present => .inl (subset present)⟩

theorem portable (same : first.SameText second) (portable : first.Portable) : second.Portable where
  sentences := by simpa only [same.sentences] using portable.sentences
  count := by simpa only [same.sentences] using portable.count
  channels a present := (same.channels a present).elim (portable.channels a) fun small => small

end SameText

variable (document : Document)

theorem remove_sameText (id : Nat) : document.SameText (document.remove id).1 := by
  unfold remove
  split
  · exact .refl document
  · exact .of_subset rfl (List.filter_subset_self _)

theorem removeAll_sameText (ids : List Nat) : document.SameText (document.removeAll ids).1 := by
  induction ids generalizing document with
  | nil => exact .refl document
  | cons id rest ih => exact (document.remove_sameText id).trans (ih _)

theorem add_sameText (longer : Document) (sentence id : Nat) (proposal : Proposal)
    (source : String) (small : proposal.channel < natLimit)
    (added : document.add sentence proposal source = .ok (longer, id)) :
    document.SameText longer := by
  obtain ⟨_, _, rfl, _⟩ := (document.add_eq_ok_iff longer sentence id proposal source).mp added
  refine ⟨rfl, fun a present => ?_⟩
  rcases mem_insertById _ a _ present with rfl | old
  · exact .inr small
  · exact .inl old

theorem addPlaced_sameText (source : String) (placed : List (Nat × Proposal))
    (small : ∀ entry ∈ placed, entry.2.channel < natLimit) :
    document.SameText (document.addPlaced source placed).1 := by
  induction placed generalizing document with
  | nil => exact .refl document
  | cons entry rest ih =>
    unfold addPlaced
    split
    next => exact .refl document
    next longer id added =>
      have step := document.add_sameText longer _ id entry.2 source (small entry (by simp)) added
      exact step.trans (ih longer fun other present => small other (List.mem_cons_of_mem _ present))

end Document

/-- The channels of all proposals can be written. -/
def Chunker.Small (chunker : Chunker) : Prop :=
  ∀ sentence, ∀ proposal ∈ chunker.propose sentence, proposal.channel < natLimit

namespace Document

variable (document : Document)

theorem applyChunker_sameText (chunker : Chunker) (small : chunker.Small) :
    document.SameText (document.applyChunker chunker).1 := by
  have proposed := document.addPlaced_sameText chunker.name (chunker.placed 0 document.sentences)
    fun entry present => by
      obtain ⟨s, _, proposed⟩ := (chunker.mem_placed document.sentences _ _).mp present
      exact small s entry.2 proposed
  rw [applyChunker, chunkFrom_eq_addPlaced]
  split
  next final ids added => rwa [added] at proposed
  next partway ids cause ended => rwa [ended] at proposed
  next partway ids e _ refused =>
    rw [refused] at proposed
    exact proposed.trans (partway.removeAll_sameText ids)

theorem addRelation_sameText (relation : Relation) :
    document.SameText ((document.addRelation relation).toOption.getD document) := by
  cases added : document.addRelation relation with
  | error e => exact .refl document
  | ok longer =>
    obtain ⟨_, rfl⟩ := (document.addRelation_eq_ok_iff longer relation).mp added
    exact .of_subset rfl (List.Subset.refl _)

end Document

theorem Merger.mergeSentences_sameText (merger : Merger) (document : Document)
    (places : List Nat) : document.SameText (merger.mergeSentences document places).1 := by
  induction places generalizing document with
  | nil => exact .refl document
  | cons place rest ih => exact (document.removeAll_sameText _).trans (ih _)

theorem Resolver.resolve_sameText (resolver : Resolver) (document : Document) (clock : Clock) :
    document.SameText (resolver.resolve document clock).1 := by
  cases run : resolver.resolve document clock with
  | mk final outcome =>
    cases outcome with
    | error e =>
      have kept := resolver.resolve_keeps_document document clock e (by rw [run])
      rw [run] at kept
      exact kept ▸ .refl document
    | ok report =>
      rw [resolver.resolve_adds_all_links document clock final report run]
      exact .of_subset rfl (List.Subset.refl _)

namespace Pipeline

variable (pipeline : Pipeline)

def Small : Prop := ∀ chunker, pipeline.chunker = some chunker → chunker.Small

theorem runChunker_sameText (small : pipeline.Small) (document : Document)
    (summary : ProcessSummary) : document.SameText (pipeline.runChunker document summary).1 := by
  unfold runChunker
  split
  · exact .refl document
  next chunker present =>
    have chunked := document.applyChunker_sameText chunker (small chunker present)
    split <;> simp_all

theorem runMerger_sameText (document : Document) (summary : ProcessSummary) :
    document.SameText (pipeline.runMerger document summary).1 := by
  unfold runMerger
  split
  · exact .refl document
  next merger _ => exact merger.mergeSentences_sameText document _

theorem runResolver_sameText (clock : Clock) (document : Document) (summary : ProcessSummary) :
    document.SameText (pipeline.runResolver clock document summary).1 := by
  unfold runResolver
  split
  · exact .refl document
  next resolver _ =>
    have resolved := resolver.resolve_sameText document clock
    split <;> simp_all

theorem andThen_sameText (before : Stage) (stage : Document → ProcessSummary → Stage)
    (each : ∀ (document : Document) (summary : ProcessSummary),
      document.SameText (stage document summary).1) :
    before.1.SameText (andThen before stage).1 := by
  obtain ⟨document, events, outcome⟩ := before
  cases outcome with
  | error e => exact .refl document
  | ok summary => exact each document summary

theorem process_sameText (small : pipeline.Small) (clock : Clock) (document : Document) :
    document.SameText (pipeline.process clock document).1 := by
  obtain ⟨e, failed⟩ | ⟨summary, succeeded⟩ := pipeline.process_cases clock document
  · rw [failed]
    exact .refl document
  · rw [succeeded]
    have chunked := andThen_sameText (document, [], .ok (.initial document.id)) pipeline.runChunker
      (pipeline.runChunker_sameText small)
    have merged := chunked.trans (andThen_sameText _ _ pipeline.runMerger_sameText)
    exact merged.trans (andThen_sameText _ _ (pipeline.runResolver_sameText _))

end Pipeline

-- Attribute tables, which never lose a name.

namespace AttributeTable

theorem modifyValues_names (table : AttributeTable) (index : Nat)
    (change : List (Option String) → List (Option String))
    (same : ∀ values, (change values).length = values.length) :
    (table.modifyValues index change same).names = table.names := by
  apply List.ext_getElem?
  intro i
  simp only [names, modifyValues, List.getElem?_map, List.getElem?_modify]
  split <;> cases table.columns[i]? <;> rfl

theorem register_of_find? (table : AttributeTable) (name : String) (i : Nat)
    (found : table.find? name = some i) : table.register name = (table, i) := by
  unfold register
  split
  next index known => rw [Option.some.inj (known.symm.trans found)]
  next missing => simp [missing] at found

theorem register_names_eq (table : AttributeTable) (name : String) :
    (table.register name).1.names =
      if name ∈ table.names then table.names else table.names ++ [name] := by
  split
  next known =>
    obtain ⟨i, found⟩ := Option.ne_none_iff_exists'.mp fun missing =>
      (table.find?_eq_none_iff name).mp missing known
    rw [table.register_of_find? name i found]
  next new => simp [names, (table.register_new name new).1]

theorem register_names (table : AttributeTable) (name : String) :
    table.names ⊆ (table.register name).1.names ∧ name ∈ (table.register name).1.names := by
  rw [register_names_eq]
  split
  next known => exact ⟨List.Subset.refl _, known⟩
  next => simp

theorem set_names (table : AttributeTable) (token : Nat) (key : AttributeKey) (value : String) :
    table.names ⊆ (table.set token key value).1.names := by
  unfold set
  split
  · exact List.Subset.refl _
  · cases key with
    | name s =>
      dsimp only
      rw [modifyValues_names]
      exact (table.register_names s).1
    | index i =>
      dsimp only
      split
      · rw [modifyValues_names]
        exact List.Subset.refl _
      · exact List.Subset.refl _

theorem clear_names (table : AttributeTable) (token : Nat) (key : AttributeKey) :
    (table.clear token key).names = table.names := by
  unfold clear
  split
  · exact modifyValues_names _ _ _ _
  · rfl

end AttributeTable

theorem Bio.writeTags_names (table : AttributeTable) (index token : Nat) (tags : List Tag) :
    table.names ⊆ (writeTags table index token tags).1.names := by
  induction tags generalizing table token with
  | nil => exact List.Subset.refl _
  | cons tag rest ih =>
    have first := table.set_names token (.index index) tag.label
    unfold writeTags
    split
    next written _ success =>
      rw [success] at first
      exact List.Subset.trans first (ih written (token + 1))
    next partway _ failure => rwa [failure] at first

namespace Document

variable (document : Document)

theorem withTable_portable (portable : document.Portable) (place : Nat) (sentence : Sentence)
    (table : AttributeTable) (found : document.sentence? place = some sentence)
    (kept : sentence.attributes.names ⊆ table.names) :
    (document.withTable place table).Portable := by
  refine ⟨fun changed present => ?_, by simpa [withTable] using portable.count, portable.channels⟩
  obtain ⟨i, there⟩ := List.mem_iff_getElem?.mp present
  rw [withTable, List.getElem?_modify, Option.map_eq_map, Option.map_eq_some_iff] at there
  obtain ⟨old, before, rfl⟩ := there
  have fits := portable.sentences old (List.mem_of_getElem? before)
  split
  next same =>
    subst same
    obtain rfl : sentence = old := Option.some.inj (found.symm.trans before)
    exact ⟨fits.numbered, fits.offsets, fits.size, kept fits.written⟩
  next => exact fits

theorem changeTable_portable (portable : document.Portable) (sentence : Nat)
    (change : AttributeTable → AttributeTable) (kept : ∀ table, table.names ⊆ (change table).names) :
    (document.changeTable sentence change).Portable := by
  unfold changeTable
  split
  next => exact portable
  next target found =>
    exact document.withTable_portable portable sentence target _ found (kept target.attributes)

theorem writeAttribute_portable (portable : document.Portable) (sentence : Nat)
    (category name : String) :
    (Bio.writeAttribute document sentence category name).1.Portable := by
  unfold Bio.writeAttribute
  split
  next => exact portable
  next target found =>
    have registered := (target.attributes.register_names name).1
    exact document.withTable_portable portable sentence target _ found
      (List.Subset.trans registered (Bio.writeTags_names _ _ _ _))

end Document

-- Operations.

namespace Operation

def Small : Operation → Prop
  | .add _ proposal _ => proposal.channel < natLimit
  | .chunk chunker => chunker.Small
  | .process pipeline _ => pipeline.Small
  | _ => True

theorem after_portable (operation : Operation) (document : Document) (sound : document.Sound)
    (portable : document.Portable) (counter : document.nextId < natLimit)
    (small : operation.Small) : (operation.after document).Portable := by
  cases operation with
  | add sentence proposal source =>
    rw [after]
    split
    next longer id added =>
      exact (document.add_sameText longer sentence id proposal source small added).portable portable
    next => exact portable
  | remove id => exact (document.remove_sameText id).portable portable
  | relate relation => exact (document.addRelation_sameText relation).portable portable
  | chunk chunker => exact (document.applyChunker_sameText chunker small).portable portable
  | mergeSentence merger sentence =>
    exact (document.removeAll_sameText _).portable portable
  | merge merger => exact (merger.mergeSentences_sameText document _).portable portable
  | resolve resolver clock => exact (resolver.resolve_sameText document clock).portable portable
  | process pipeline clock =>
    exact (pipeline.process_sameText small clock document).portable portable
  | writeTags sentence category name =>
    exact document.writeAttribute_portable portable sentence category name
  | register sentence name =>
    exact document.changeTable_portable portable sentence _ fun table =>
      (table.register_names name).1
  | setAttribute sentence token key value =>
    rw [after]
    exact document.changeTable_portable portable sentence _ fun table =>
      table.set_names token key value
  | clearAttribute sentence token key =>
    rw [after]
    refine document.changeTable_portable portable sentence _ fun table => ?_
    rw [table.clear_names token key]
    exact List.Subset.refl _
  -- The text of a portable document gives that document again.
  | reload =>
    rw [after, document.decode_render sound portable counter]
    exact portable

end Operation

theorem Document.history_portable (document : Document) (sound : document.Sound)
    (portable : document.Portable) (operations : List Operation)
    (small : ∀ operation ∈ operations, operation.Small) (room : document.HasRoom operations) :
    ∀ state ∈ document.history operations,
      state.Sound ∧ state.Portable ∧ state.nextId < natLimit := by
  have limits : maxIndex < natLimit := by decide
  induction operations generalizing document with
  | nil =>
    intro state present
    rw [List.mem_singleton.mp present]
    exact ⟨sound, portable, Nat.lt_trans (Nat.lt_of_le_of_lt (Nat.le_add_right _ _) room) limits⟩
  | cons operation rest ih =>
    have counter : document.nextId < natLimit :=
      Nat.lt_trans (Nat.lt_of_le_of_lt (Nat.le_add_right _ _) room) limits
    have step := operation.after_evolves document sound
    intro state present
    rcases List.mem_cons.mp present with rfl | later
    · exact ⟨sound, portable, counter⟩
    · exact ih (operation.after document) step.sound
        (operation.after_portable document sound portable counter (small operation (by simp)))
        (fun other there => small other (List.mem_cons_of_mem _ there))
        (room.rest sound) state later

end SpanAnnotation
