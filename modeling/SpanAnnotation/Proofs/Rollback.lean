import SpanAnnotation.Proofs.Chunking

/-!
A chunker gets all of its proposals into a document or none. When one of them is refused, the
annotations that were added before it carry identities that nothing else in the document has, so that
taking them away brings back the document as it was, save for the counter.
-/

set_option autoImplicit false

namespace SpanAnnotation

theorem numbered_eq_zipWith (source : String) (next : Nat) (placed : List (Nat × Proposal)) :
    numbered source next placed =
      List.zipWith (fun id entry => .ofProposal id entry.1 source entry.2)
        (List.range' next placed.length) placed := by
  induction placed generalizing next with
  | nil => rfl
  | cons entry rest ih =>
    rw [List.length_cons, List.range'_succ, List.zipWith_cons_cons, ← ih]
    rfl

namespace Document

-- The document with some of its identities used up.
def past (document : Document) (used : Nat) : Document :=
  { document with nextId := document.nextId + used }

theorem add_past_eq_error_iff (document other : Document) (used place : Nat) (proposal : Proposal)
    (source : String) (e : Error) (sentences : other.sentences = document.sentences)
    (counter : other.nextId = document.nextId + used) :
    (document.past used).add place proposal source = .error e ↔
      other.add place proposal source = .error e := by
  simp only [add, past, sentences, counter]
  cases checkAnnotation document.sentences
    (.ofProposal (document.nextId + used) place source proposal) with
  | error fault => simp
  | ok => cases successor? (document.nextId + used) <;> simp

theorem touches_new_eq_false (document : Document) (sound : document.Sound) (relation : Relation)
    (present : relation ∈ document.relations) (id : Nat) (new : document.nextId ≤ id) :
    relation.touches id = false := by
  refine document.touches_absent_eq_false sound id ?_ relation present
  rw [find?_eq_none_iff]
  intro a there
  have old := sound.identities a there
  omega

theorem withoutAll_extended (document : Document) (sound : document.Sound)
    (added : List Annotation) (new : ∀ a ∈ added, document.nextId ≤ a.id)
    (entries : (document.extended added).annotations.entries =
      document.annotations.entries ++ added) :
    (document.extended added).withoutAll (added.map Annotation.id) =
      document.past added.length := by
  have unnamed : document.annotations.entries.filter
      (fun a => !(added.map Annotation.id).contains a.id) = document.annotations.entries := by
    rw [List.filter_eq_self]
    intro a present
    have old := sound.identities a present
    simp only [Bool.not_eq_true', Bool.eq_false_iff, ne_eq, List.contains_iff_mem, List.mem_map]
    rintro ⟨b, there, same⟩
    have later := new b there
    omega
  have named : added.filter (fun a => !(added.map Annotation.id).contains a.id) = [] := by
    rw [List.filter_eq_nil_iff]
    intro a present
    have listed : (added.map Annotation.id).contains a.id = true :=
      List.contains_iff_mem.mpr (List.mem_map_of_mem present)
    simp only [listed, Bool.not_true, Bool.false_eq_true, not_false_eq_true]
  have untouched : document.relations.filter
      (fun relation => !(added.map Annotation.id).any relation.touches) = document.relations := by
    rw [List.filter_eq_self]
    intro relation present
    rw [Bool.not_eq_true', List.any_eq_false]
    intro id there
    obtain ⟨a, listed, rfl⟩ := List.mem_map.mp there
    simp [document.touches_new_eq_false sound relation present a.id (new a listed)]
  apply eq_of_parts
  case id => rw [withoutAll_id]; rfl
  case sentences => rw [withoutAll_sentences]; rfl
  case annotations =>
    apply Arena.ext_entries
    rw [withoutAll_entries, entries, List.filter_append, unnamed, named, List.append_nil]
    rfl
  case relations => rw [withoutAll_relations]; exact untouched
  case nextId => rw [withoutAll_nextId]; rfl

/-- A refusal that comes after some proposals were added is taken back to the start. -/
theorem applyChunker_of_refused (document partway : Document) (sound : document.Sound)
    (chunker : Chunker) (before : List (Nat × Proposal)) (ids : List Nat) (e : Error)
    (broken : ∀ cause, e ≠ .panic cause)
    (run : document.addPlaced chunker.name before = (partway, ids, .ok ()))
    (whole : document.addPlaced chunker.name (chunker.placed 0 document.sentences) =
      (partway, ids, .error e)) :
    document.applyChunker chunker = (document.past before.length, .error e) := by
  have evolves := document.addPlaced_evolves sound chunker.name before
  rw [run] at evolves
  obtain ⟨effect, named⟩ := document.addPlaced_succeeded partway _ before ids run
  have removed := document.withoutAll_extended sound (numbered chunker.name document.nextId before)
    (fun a present => by
      have listed := List.mem_map_of_mem (f := Annotation.id) present
      rw [numbered_ids] at listed
      exact (List.mem_range'_1.mp listed).1)
    (document.extended_numbered_entries sound _ before)
  rw [numbered_ids, numbered_length, ← named, ← effect] at removed
  have undone : (partway.removeAll ids).1 = document.past before.length := by
    rw [partway.removeAll_fst evolves.sound, removed]
  rw [applyChunker, chunkFrom_eq_addPlaced, whole]
  cases e with
  | panic cause => exact absurd rfl (broken cause)
  | _ => simp only [undone]

theorem forall_placed_iff (document : Document) (chunker : Chunker) :
    (∀ entry ∈ chunker.placed 0 document.sentences, document.Accepts chunker.name entry) ↔
      ∀ place s, document.sentences[place]? = some s → ∀ proposal ∈ chunker.propose s,
        document.Accepts chunker.name (place, proposal) := by
  constructor
  next =>
    intro accepted place s found proposal proposed
    exact accepted _ ((chunker.mem_placed _ place proposal).mpr ⟨s, found, proposed⟩)
  next =>
    intro accepted entry present
    obtain ⟨s, found, proposed⟩ := (chunker.mem_placed _ entry.1 entry.2).mp present
    exact accepted entry.1 s found entry.2 proposed

/-- A chunker succeeds when the document takes each of its proposals. It has then added them in order,
under the identities that come next, and nothing else; otherwise it has used up identities only, and
the error is that of the first proposal that is not taken. -/
theorem applyChunker_all_or_nothing (document final : Document) (chunker : Chunker)
    (outcome : Except Error (List Nat)) (valid : document.validate = .ok ())
    (room : document.nextId + (document.chunkedIds chunker).length < maxIndex)
    (run : document.applyChunker chunker = (final, outcome)) :
    ((∃ ids, outcome = .ok ids) ↔
      ∀ place s, document.sentences[place]? = some s → ∀ proposal ∈ chunker.propose s,
        ∃ longer id, document.add place proposal chunker.name = .ok (longer, id)) ∧
    (∀ ids, outcome = .ok ids →
      ids = List.range' document.nextId (chunker.placed 0 document.sentences).length ∧
      final.annotations.entries = document.annotations.entries ++
        List.zipWith (fun id entry => .ofProposal id entry.1 chunker.name entry.2) ids
          (chunker.placed 0 document.sentences) ∧
      final = { document with
        annotations := final.annotations, nextId := document.nextId + ids.length }) ∧
    ∀ e, outcome = .error e →
      final = { document with nextId := final.nextId } ∧
      ∃ before place proposal after,
        chunker.placed 0 document.sentences = before ++ (place, proposal) :: after ∧
        (∀ entry ∈ before, ∃ longer id,
          document.add entry.1 entry.2 chunker.name = .ok (longer, id)) ∧
        ({ document with nextId := final.nextId }).add place proposal chunker.name = .error e ∧
        final.nextId = document.nextId + before.length := by
  have sound := document.validate_eq_ok_iff.mp valid
  have every := document.forall_placed_iff chunker
  rw [chunkedIds, chunkFrom_eq_addPlaced] at room
  obtain ⟨longer, ids, whole⟩ | ⟨before, entry, after, partway, ids, e, parts, added, refused, whole⟩ :=
    document.addPlaced_cases chunker.name (chunker.placed 0 document.sentences)
  next =>
    obtain ⟨counted, _, accepted⟩ := document.addPlaced_accepts longer _ _ ids whole
    obtain ⟨effect, named⟩ := document.addPlaced_succeeded longer _ _ ids whole
    rw [applyChunker, chunkFrom_eq_addPlaced, whole] at run
    cases run
    refine ⟨⟨fun _ => every.mp accepted, fun _ => ⟨ids, rfl⟩⟩, ?_, by simp⟩
    intro others same
    cases same
    refine ⟨named, ?_, ?_⟩
    next =>
      rw [effect, document.extended_numbered_entries sound, numbered_eq_zipWith, named]
    next =>
      rw [effect, counted]
      simp [extended]
  next =>
    obtain ⟨counted, kept, accepted⟩ := document.addPlaced_accepts partway _ _ ids added
    obtain ⟨effect, _⟩ := document.addPlaced_succeeded partway _ before ids added
    have counter : partway.nextId = document.nextId + before.length := by
      rw [effect, extended, numbered_length]
    rw [whole, counted, ← counter] at room
    have broken (cause : Panic) : e ≠ .panic cause := by
      rintro rfl
      exact partway.add_ne_panic room entry.1 entry.2 chunker.name cause refused
    have back :=
      document.applyChunker_of_refused partway sound chunker before ids e broken added whole
    rw [back] at run
    cases run
    refine ⟨⟨by simp, fun all => ?_⟩, by simp, ?_⟩
    next =>
      have taken := every.mpr all entry (by rw [parts]; simp)
      obtain ⟨fits, _⟩ := (document.accepts_iff chunker.name entry 0).mp taken
      rw [sizes, ← kept] at fits
      obtain ⟨_, _, taken⟩ := (partway.accepts_iff chunker.name entry 0).mpr ⟨fits, room⟩
      simp [refused] at taken
    next =>
      intro cause same
      cases same
      refine ⟨rfl, before, entry.1, entry.2, after, parts, accepted, ?_, rfl⟩
      exact (document.add_past_eq_error_iff partway _ _ _ _ e kept counter).mpr refused

/-- Two names of which one is a mention of the other; the last annotation was taken away again. -/
def janThenAna : Document :=
  { ofSentences "d" [⟨"s1", ["Jan", "śpi"].map fun orth => Token.ofOrth orth 0, .empty 2⟩,
      ⟨"s2", ["on"].map fun orth => Token.ofOrth orth 0, .empty 1⟩] with
    annotations :=
      ⟨[⟨0, 0, 0, 0, "PERSON", none, 0, ""⟩, ⟨1, 1, 0, 0, "PERSON", none, 0, ""⟩], by decide⟩
    relations := [.coreference 1 0]
    nextId := 3 }

-- In the second sentence the longer span has no room.
def everyPair : Chunker := ⟨"pairs", fun _ => [.plain 0 0 "NAME", .plain 0 1 "NAME"]⟩

theorem everyPair_taken_back :
    janThenAna.applyChunker everyPair =
        ({ janThenAna with nextId := 6 }, .error (.invalidDocument (.spanOutside 6 0 1 "s2" 1))) ∧
      ∃ before place proposal after,
        everyPair.placed 0 janThenAna.sentences = before ++ (place, proposal) :: after ∧
        before.length = 3 ∧
        ({ janThenAna with nextId := 6 }).add place proposal "pairs" =
          .error (.invalidDocument (.spanOutside 6 0 1 "s2" 1)) := by
  have run : janThenAna.applyChunker everyPair =
      ({ janThenAna with nextId := 6 }, .error (.invalidDocument (.spanOutside 6 0 1 "s2" 1))) := by
    decide
  obtain ⟨_, before, place, proposal, after, parts, _, refused, counter⟩ :=
    (applyChunker_all_or_nothing janThenAna _ everyPair _ (by decide) (by decide) run).2.2 _ rfl
  exact ⟨run, before, place, proposal, after, parts, (Nat.add_left_cancel counter).symm, refused⟩

end Document

end SpanAnnotation
