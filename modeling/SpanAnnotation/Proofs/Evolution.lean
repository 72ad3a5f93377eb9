import SpanAnnotation.Proofs.PlacedProposals
import SpanAnnotation.Proofs.Removal

/-!
How a document may change. It stays sound, its counter moves on by the identities that were given
out, which follow each other from the old counter on, and what it holds afterwards was there before
or carries one of them.
-/

set_option autoImplicit false

namespace SpanAnnotation

namespace Document

structure Evolves (before : Document) (ids : List Nat) (after : Document) : Prop where
  sound : after.Sound
  consecutive : ids = List.range' before.nextId ids.length
  counter : after.nextId = before.nextId + ids.length
  known : ∀ a ∈ after.annotations.entries, a ∈ before.annotations.entries ∨ a.id ∈ ids

namespace Evolves

variable {first second third : Document} {ids more : List Nat}

theorem of_subset (sound : second.Sound) (counter : second.nextId = first.nextId)
    (subset : second.annotations.entries ⊆ first.annotations.entries) :
    first.Evolves [] second where
  sound := sound
  consecutive := rfl
  counter := counter
  known _ present := .inl (subset present)

theorem refl (sound : first.Sound) : first.Evolves [] first :=
  of_subset sound rfl (List.Subset.refl _)

theorem trans (left : first.Evolves ids second) (right : second.Evolves more third) :
    first.Evolves (ids ++ more) third where
  sound := right.sound
  consecutive := by
    rw [List.length_append, ← List.range'_append_1, ← left.counter, ← left.consecutive,
      ← right.consecutive]
  counter := by
    rw [right.counter, left.counter, List.length_append, Nat.add_assoc]
  known a present := by
    rcases right.known a present with old | new
    · rcases left.known a old with older | issued
      · exact .inl older
      · exact .inr (List.mem_append_left more issued)
    · exact .inr (List.mem_append_right ids new)

theorem nextId_le (evolves : first.Evolves ids second) : first.nextId ≤ second.nextId := by
  rw [evolves.counter]
  exact Nat.le_add_right _ _

theorem mem_ids_iff (evolves : first.Evolves ids second) (id : Nat) :
    id ∈ ids ↔ first.nextId ≤ id ∧ id < second.nextId := by
  rw [evolves.consecutive, List.mem_range'_1, evolves.counter]

theorem eq_of_id_eq (evolves : first.Evolves ids second) (sound : first.Sound) {a b : Annotation}
    (before : a ∈ first.annotations.entries) (after : b ∈ second.annotations.entries)
    (same : a.id = b.id) : a = b := by
  rcases evolves.known b after with old | new
  · exact first.annotations.eq_of_id_eq before old same
  · have late := ((evolves.mem_ids_iff b.id).mp new).1
    have early := sound.identities a before
    omega

end Evolves

-- Adding annotations.

def proposed (document : Document) (sentence : Nat) (proposal : Proposal) (source : String) :
    Annotation :=
  .ofProposal document.nextId sentence source proposal

theorem add_eq_ok_iff (document longer : Document) (sentence id : Nat) (proposal : Proposal)
    (source : String) :
    document.add sentence proposal source = .ok (longer, id) ↔
      (document.proposed sentence proposal source).Fits document.sizes ∧
        document.nextId < maxIndex ∧
        longer = { document with
          annotations := document.annotations.insert (document.proposed sentence proposal source)
          nextId := document.nextId + 1 } ∧
        id = document.nextId := by
  rw [sizes, ← checkAnnotation_eq_ok_iff, add, ← proposed]
  cases checkAnnotation document.sentences (document.proposed sentence proposal source) with
  | error fault => simp
  | ok =>
    unfold successor?
    by_cases room : document.nextId < maxIndex <;> simp [room, eq_comm]

/-- An addition is refused by a rule, or it comes when the identities are used up. -/
theorem add_fails (document : Document) (sentence : Nat) (proposal : Proposal) (source : String)
    (e : Error) (failed : document.add sentence proposal source = .error e) :
    (∃ fault, checkAnnotation document.sentences (document.proposed sentence proposal source) =
        .error fault ∧ e = .invalidDocument fault) ∨
      (maxIndex ≤ document.nextId ∧ e = .panic .overflow) := by
  rw [add, ← proposed] at failed
  cases checked : checkAnnotation document.sentences
    (document.proposed sentence proposal source) with
  | error fault =>
    simp only [checked] at failed
    exact .inl ⟨fault, rfl, (Except.error.inj failed).symm⟩
  | ok =>
    simp only [checked] at failed
    split at failed
    next full =>
      exact .inr ⟨(successor?_eq_none_iff _).mp full, (Except.error.inj failed).symm⟩
    next => simp at failed

/-- An addition that finds an identity is made or refused by a rule. -/
theorem add_ne_panic (document : Document) (room : document.nextId < maxIndex) (sentence : Nat)
    (proposal : Proposal) (source : String) (cause : Panic) :
    document.add sentence proposal source ≠ .error (.panic cause) := by
  intro failed
  obtain ⟨_, _, other⟩ | ⟨full, _⟩ := document.add_fails sentence proposal source _ failed
  · simp at other
  · exact Nat.not_lt.mpr full room

theorem add_entries (document longer : Document) (sound : document.Sound) (sentence id : Nat)
    (proposal : Proposal) (source : String)
    (added : document.add sentence proposal source = .ok (longer, id)) :
    longer.annotations.entries =
      document.annotations.entries ++ [document.proposed sentence proposal source] := by
  obtain ⟨_, _, rfl, _⟩ := (document.add_eq_ok_iff longer sentence id proposal source).mp added
  exact document.annotations.entries_insert_last _ sound.identities

theorem add_evolves (document longer : Document) (sound : document.Sound) (sentence id : Nat)
    (proposal : Proposal) (source : String)
    (added : document.add sentence proposal source = .ok (longer, id)) :
    document.Evolves [id] longer := by
  have entries := document.add_entries longer sound sentence id proposal source added
  obtain ⟨fits, _, rfl, rfl⟩ :=
    (document.add_eq_ok_iff longer sentence id proposal source).mp added
  have members (a : Annotation) :
      a ∈ (document.annotations.insert (document.proposed sentence proposal source)).entries ↔
        a ∈ document.annotations.entries ∨ a = document.proposed sentence proposal source := by
    rw [entries, List.mem_append, List.mem_singleton]
  have kept (id : Nat) (present : document.annotations.contains id = true) :
      (document.annotations.insert (document.proposed sentence proposal source)).contains id =
        true := by
    rw [Arena.contains_iff] at present ⊢
    obtain ⟨a, there, named⟩ := present
    exact ⟨a, (members a).mpr (.inl there), named⟩
  refine ⟨⟨sound.tables, ?_, ?_, ?_⟩, rfl, rfl, ?_⟩
  · intro a present
    rcases (members a).mp present with old | rfl
    · exact Nat.lt_succ_of_lt (sound.identities a old)
    · exact Nat.lt_succ_self _
  · intro a present
    rcases (members a).mp present with old | rfl
    · exact sound.spans a old
    · exact fits
  · intro relation present
    obtain ⟨source, target⟩ := sound.endpoints relation present
    exact ⟨kept _ source, kept _ target⟩
  · intro a present
    rcases (members a).mp present with old | rfl
    · exact .inl old
    · exact .inr (List.mem_singleton.mpr rfl)

theorem addPlaced_evolves (document : Document) (sound : document.Sound) (source : String)
    (placed : List (Nat × Proposal)) :
    document.Evolves (document.addPlaced source placed).2.1
      (document.addPlaced source placed).1 := by
  induction placed generalizing document with
  | nil => exact .refl sound
  | cons entry rest ih =>
    simp only [addPlaced]
    split
    next => exact .refl sound
    next longer id added =>
      have step := add_evolves document longer sound entry.1 id entry.2 source added
      exact step.trans (ih longer step.sound)

/-- Additions run over only when they have used up the identities. -/
theorem addPlaced_panics (document : Document) (source : String) (placed : List (Nat × Proposal))
    (cause : Panic) (failed : (document.addPlaced source placed).2.2 = .error (.panic cause)) :
    maxIndex ≤ document.nextId + (document.addPlaced source placed).2.1.length := by
  induction placed generalizing document with
  | nil => simp [addPlaced] at failed
  | cons entry rest ih =>
    simp only [addPlaced] at failed ⊢
    split at failed
    next e refused =>
      obtain rfl : e = .panic cause := Except.error.inj failed
      exact Nat.le_of_not_lt fun room =>
        document.add_ne_panic room entry.1 entry.2 source cause refused
    next longer id added =>
      have counter : longer.nextId = document.nextId + 1 := by
        rw [((document.add_eq_ok_iff longer _ id _ source).mp added).2.2.1]
      have later := ih longer failed
      rw [counter] at later
      show maxIndex ≤ document.nextId + ((longer.addPlaced source rest).2.1.length + 1)
      omega

-- Taking annotations away.

theorem withoutAll_evolves (document : Document) (sound : document.Sound) (ids : List Nat) :
    document.Evolves [] (document.withoutAll ids) :=
  .of_subset (document.withoutAll_sound sound ids) (document.withoutAll_nextId ids) (by
    rw [withoutAll_entries]
    exact List.filter_subset_self _)

theorem removeAll_evolves (document : Document) (sound : document.Sound) (ids : List Nat) :
    document.Evolves [] (document.removeAll ids).1 := by
  rw [removeAll_fst document sound]
  exact document.withoutAll_evolves sound ids

/-- The identities that a chunker uses up, also those that go again when a proposal is refused. -/
def chunkedIds (document : Document) (chunker : Chunker) : List Nat :=
  (document.chunkFrom chunker 0 document.sentences).2.1

theorem applyChunker_evolves (document : Document) (sound : document.Sound) (chunker : Chunker) :
    document.Evolves (document.chunkedIds chunker) (document.applyChunker chunker).1 := by
  have proposed := document.addPlaced_evolves sound chunker.name
    (chunker.placed 0 document.sentences)
  rw [chunkedIds, applyChunker, chunkFrom_eq_addPlaced]
  split
  next final ids added => simpa [added] using proposed
  next partway ids cause ended => simpa [ended] using proposed
  -- The rollback takes away what came in, and the counter stays where it came to.
  next partway ids e _ refused =>
    simp only [refused] at proposed ⊢
    simpa using proposed.trans (partway.removeAll_evolves proposed.sound ids)

theorem applyChunker_panics (document : Document) (chunker : Chunker) (cause : Panic)
    (failed : (document.applyChunker chunker).2 = .error (.panic cause)) :
    maxIndex ≤ document.nextId + (document.chunkedIds chunker).length := by
  have panics := document.addPlaced_panics chunker.name (chunker.placed 0 document.sentences) cause
  rw [chunkedIds, chunkFrom_eq_addPlaced]
  rw [applyChunker, chunkFrom_eq_addPlaced] at failed
  split at failed
  next => simp at failed
  next partway ids other ended => exact panics (by rw [ended, Except.error.inj failed])
  next partway ids e refused ended => exact absurd (Except.error.inj failed) (refused cause)

-- Relations.

theorem addRelations_evolves (document : Document) (sound : document.Sound)
    (relations : List Relation) : document.Evolves [] (document.addRelations relations).1 := by
  obtain ⟨added, _, endpoints, effect, _⟩ := document.addRelations_spec relations
  rw [effect]
  refine .of_subset ⟨sound.tables, sound.identities, sound.spans, ?_⟩ rfl (List.Subset.refl _)
  intro relation present
  rcases List.mem_append.mp present with old | new
  · exact sound.endpoints relation old
  · exact endpoints relation new

theorem addRelation_evolves (document longer : Document) (sound : document.Sound)
    (relation : Relation) (added : document.addRelation relation = .ok longer) :
    document.Evolves [] longer := by
  have single := document.addRelations_evolves sound [relation]
  simpa [addRelations, added] using single

-- Attribute tables.

theorem withTable_evolves (document : Document) (sound : document.Sound) (place : Nat)
    (sentence : Sentence) (table : AttributeTable)
    (found : document.sentence? place = some sentence)
    (sameCount : table.tokenCount = sentence.attributes.tokenCount) :
    document.Evolves [] (document.withTable place table) := by
  have sizes : (document.withTable place table).sizes = document.sizes := by
    apply List.ext_getElem?
    intro i
    simp only [Document.sizes, withTable, List.getElem?_map, List.getElem?_modify]
    cases document.sentences[i]? <;> simp [Sentence.size, apply_ite]
  refine .of_subset ⟨?_, sound.identities, ?_, sound.endpoints⟩ rfl (List.Subset.refl _)
  · intro changed present
    obtain ⟨i, there⟩ := List.mem_iff_getElem?.mp present
    rw [withTable, List.getElem?_modify, Option.map_eq_map, Option.map_eq_some_iff] at there
    obtain ⟨old, before, rfl⟩ := there
    have fits := sound.tables old (List.mem_of_getElem? before)
    split
    next same =>
      subst same
      obtain rfl : sentence = old := Option.some.inj (found.symm.trans before)
      exact sameCount.trans fits
    next => exact fits
  · rw [sizes]
    exact sound.spans

end Document

end SpanAnnotation
