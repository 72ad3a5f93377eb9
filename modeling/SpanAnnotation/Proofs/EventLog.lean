import SpanAnnotation.Proofs.Chunking
import SpanAnnotation.Proofs.CoreferencePass
import SpanAnnotation.Proofs.Operations

/-!
The events of a run as its log: what they tell, replayed on the document that the run was given,
gives the document that it left. A run that fails tells only of stages that were thrown away, and
then of the failure.
-/

set_option autoImplicit false

namespace SpanAnnotation

-- Annotations by sentence.

/-- The annotations of each sentence that has any. -/
def batches (sentences : Nat) (added : List Annotation) : List (Nat × List Annotation) :=
  ((List.range sentences).map fun place => (place, added.filter fun a => a.sentence == place)).filter
    fun batch => !batch.2.isEmpty

theorem mem_batches (sentences : Nat) (added : List Annotation) (batch : Nat × List Annotation) :
    batch ∈ batches sentences added ↔
      batch.1 < sentences ∧ batch.2 = added.filter (fun a => a.sentence == batch.1) ∧
        batch.2 ≠ [] := by
  obtain ⟨place, annotations⟩ := batch
  simp only [batches, List.mem_filter, List.mem_map, List.mem_range, Prod.mk.injEq,
    Bool.not_eq_true', List.isEmpty_eq_false_iff]
  constructor
  · rintro ⟨⟨_, bound, rfl, rfl⟩, some⟩
    exact ⟨bound, rfl, some⟩
  · rintro ⟨bound, rfl, some⟩
    exact ⟨⟨place, bound, rfl, rfl⟩, some⟩

theorem mem_batches_places (sentences : Nat) (added : List Annotation) (place : Nat) :
    place ∈ (batches sentences added).map Prod.fst ↔
      place < sentences ∧ ∃ a ∈ added, a.sentence = place := by
  simp only [List.mem_map, mem_batches, Prod.exists, exists_and_right, exists_eq_right]
  constructor
  · rintro ⟨annotations, bound, rfl, some⟩
    obtain ⟨a, present⟩ := List.exists_mem_of_ne_nil _ some
    exact ⟨bound, a, by simpa using present⟩
  · rintro ⟨bound, a, present, here⟩
    refine ⟨_, bound, rfl, List.ne_nil_of_mem (List.mem_filter.mpr ⟨present, ?_⟩)⟩
    simpa using here

theorem batches_places (sentences : Nat) (added : List Annotation) :
    ((batches sentences added).map Prod.fst).Pairwise (· < ·) := by
  have places : (((List.range sentences).map fun place =>
      (place, added.filter fun a => a.sentence == place)).map Prod.fst) = List.range sentences := by
    simp [Function.comp_def]
  have within : ((batches sentences added).map Prod.fst).Sublist (List.range sentences) :=
    places ▸ List.filter_sublist.map Prod.fst
  exact List.pairwise_lt_range.sublist within

/-- A list in the order of a key is put together from its parts with equal keys. -/
theorem flatMap_filter_key {α : Type} (key : α → Nat) (list : List α) (limit : Nat)
    (ordered : list.Pairwise fun a b => key a ≤ key b) (bound : ∀ a ∈ list, key a < limit) :
    ((List.range limit).flatMap fun k => list.filter fun a => key a == k) = list := by
  induction limit generalizing list with
  | zero =>
    cases list with
    | nil => rfl
    | cons a rest => exact absurd (bound a (by simp)) (Nat.not_lt_zero _)
  | succ limit ih =>
    have parts : list.filter (fun a => key a < limit) ++ list.filter (fun a => key a == limit) =
        list := by
      clear ih
      induction list with
      | nil => rfl
      | cons a rest split =>
        obtain ⟨above, tail⟩ := List.pairwise_cons.mp ordered
        have joined := split tail fun b present => bound b (List.mem_cons_of_mem a present)
        have small := bound a (by simp)
        by_cases last : key a < limit
        · have other : ¬ key a = limit := by omega
          simp [last, other, joined]
        · -- From the first of the last key on all keys are the last one.
          have none : rest.filter (fun b => key b < limit) = [] := by
            rw [List.filter_eq_nil_iff]
            intro b present
            have := above b present
            simp only [decide_eq_true_eq]
            omega
          have same : key a = limit := by omega
          rw [none, List.nil_append] at joined
          simp [same, none, joined]
    have earlier := ih (list.filter fun a => key a < limit) (ordered.filter _) (by simp)
    have keys : ((List.range limit).flatMap fun k =>
        (list.filter fun a => key a < limit).filter fun a => key a == k) =
          (List.range limit).flatMap fun k => list.filter fun a => key a == k := by
      apply List.flatMap_congr
      intro k present
      rw [List.filter_filter]
      apply List.filter_congr
      intro a _
      by_cases here : key a = k
      · simp [here, List.mem_range.mp present]
      · simp [here]
    rw [List.range_succ, List.flatMap_append, ← keys, earlier, List.flatMap_singleton]
    exact parts

theorem flatMap_batches (sentences : Nat) (added : List Annotation)
    (ordered : added.Pairwise fun a b => a.sentence ≤ b.sentence)
    (bound : ∀ a ∈ added, a.sentence < sentences) :
    (batches sentences added).flatMap Prod.snd = added := by
  let parts := (List.range sentences).map fun place =>
    (place, added.filter fun a => a.sentence == place)
  calc (batches sentences added).flatMap Prod.snd
      = ((parts.map Prod.snd).filter fun part => !part.isEmpty).flatten := by
        rw [List.filter_map, List.flatMap_def]
        rfl
    _ = (parts.map Prod.snd).flatten := List.flatten_filter_not_isEmpty
    _ = (List.range sentences).flatMap fun place => added.filter fun a => a.sentence == place := by
        rw [List.map_map, List.flatMap_def]
        rfl
    _ = added := flatMap_filter_key Annotation.sentence added sentences ordered bound

-- Replaying.

namespace PipelineEvent

def proposal (batch : Nat × List Annotation) : PipelineEvent := .chunksProposed batch.1 batch.2

def removal (document : Document) (a : Annotation) : PipelineEvent :=
  .chunkRemoved a (document.spanText a)

/-- What becomes of a document by what an event tells. -/
def replay (document : Document) : PipelineEvent → Document
  | .chunksProposed _ annotations => document.extended annotations
  | .chunkRemoved removed _ => document.without removed.id
  | .mentionResolved link _ _ =>
      { document with relations := document.relations ++ [link.relation] }
  | .done _ => document
  | .failed _ => document

theorem replay_proposals (document : Document) (found : List (Nat × List Annotation)) :
    (found.map proposal).foldl replay document =
      document.extended (found.flatMap Prod.snd) := by
  induction found generalizing document with
  | nil => rfl
  | cons batch rest ih =>
    rw [List.map_cons, List.foldl_cons, ih, List.flatMap_cons, ← Document.extended_append]
    rfl

theorem replay_removals (texts document : Document) (removed : List Annotation) :
    (removed.map (removal texts)).foldl replay document =
      document.withoutAll (removed.map Annotation.id) := by
  induction removed generalizing document with
  | nil => rfl
  | cons a rest ih => exact ih (document.without a.id)

theorem replay_resolutions (texts document : Document) (links : List Link) :
    (links.map (Pipeline.resolvedEvent texts)).foldl replay document =
      { document with relations := document.relations ++ links.map Link.relation } := by
  induction links generalizing document with
  | nil => simp
  | cons link rest ih =>
    rw [List.map_cons, List.foldl_cons, ih]
    simp [Pipeline.resolvedEvent, replay]

-- Events of the stages that work on annotations.
def IsEarly : PipelineEvent → Prop
  | .chunksProposed _ _ => True
  | .chunkRemoved _ _ => True
  | _ => False

end PipelineEvent

theorem Document.spanText_congr (document other : Document)
    (same : document.sentences = other.sentences) : document.spanText = other.spanText := by
  funext a
  simp only [spanText, sentence?, same]

-- Links run over nothing.

theorem Document.addRelations_ne_panic (document : Document) (relations : List Relation)
    (cause : Panic) : (document.addRelations relations).2 ≠ .error (.panic cause) := by
  induction relations generalizing document with
  | nil => simp [addRelations]
  | cons relation rest ih =>
    unfold addRelations addRelation
    cases checkRelation document.annotations relation with
    | error fault => simp
    | ok => exact ih _

namespace Resolver

variable (resolver : Resolver) (document : Document) (clock : Clock)

theorem visitAll_ne_panic {σ : Type} (onLink : σ → Link → σ) (reading : Nat) (seen : σ)
    (pass : Pass) (mentions : List Annotation) (cause : Panic) :
    (resolver.visitAll document clock onLink reading seen pass mentions).2 ≠
      .error (.panic cause) := by
  induction mentions generalizing reading seen pass with
  | nil => simp [visitAll]
  | cons mention rest ih =>
    obtain ⟨next, link?, step⟩ := resolver.visit_succeeds document mention pass
    have timed : resolver.checkTime clock reading ≠ .error (.panic cause) := by
      unfold checkTime
      split
      next => simp
      next => split <;> simp
    simp only [visitAll, step]
    split
    next e late => simpa [late] using timed
    next => exact ih _ _ _

theorem resolve_ne_panic (cause : Panic) :
    (resolver.resolve document clock).2 ≠ .error (.panic cause) := by
  have visits := resolver.visitAll_ne_panic document clock (fun seen _ => seen) 1 () .initial
    (resolver.selector.select document) cause
  simp only [resolve, resolveWith, Document.validate]
  cases document.check with
  | error fault => simp
  | ok =>
    dsimp only
    split
    next seen e failed => simpa [failed] using visits
    next seen pass reached =>
      have linked := document.addRelations_ne_panic (pass.links.map Link.relation) cause
      split
      next partway e refused => simpa [refused] using linked
      next => simp

end Resolver

namespace Pipeline

open PipelineEvent

variable (pipeline : Pipeline) (clock : Clock)

-- What each stage does to the document that it is given.

def proposedTo (document : Document) : List Annotation :=
  match pipeline.chunker with
  | none => []
  | some chunker => document.chunked chunker

def removedFrom (document : Document) : List Annotation :=
  match pipeline.merger with
  | none => []
  | some merger => (merger.mergeDocument document).2

def Links (document : Document) (links : List Link) : Prop :=
  match pipeline.resolver with
  | none => links = []
  | some resolver =>
      ∃ report, (resolver.resolve document clock).2 = .ok report ∧ report.links = links

theorem proposedEvents_eq (document : Document) (ids : List Nat) (added : List Annotation)
    (known : ids.filterMap document.find? = added) :
    proposedEvents document ids = (batches document.sentences.length added).map proposal := by
  simp only [proposedEvents, known, batches, List.filter_map, List.map_map]
  rw [← List.filterMap_eq_map, ← List.filterMap_eq_filter, List.filterMap_filterMap]
  apply List.filterMap_congr
  intro place _
  simp only [Option.guard, Function.comp_apply]
  split <;> simp_all [proposal]

theorem runChunker_succeeded (document final : Document) (sound : document.Sound)
    (summary next : ProcessSummary) (events : List PipelineEvent)
    (run : pipeline.runChunker document summary = (final, events, .ok next)) :
    final = document.extended (pipeline.proposedTo document) ∧
      events =
        (batches document.sentences.length (pipeline.proposedTo document)).map proposal ∧
      ∀ chunker, pipeline.chunker = some chunker → document.applyChunker chunker =
        (final, .ok ((pipeline.proposedTo document).map Annotation.id)) := by
  unfold runChunker at run
  unfold proposedTo
  cases present : pipeline.chunker with
  | none =>
    simp only [present] at run ⊢
    cases run
    exact ⟨rfl, by simp [batches], by simp⟩
  | some chunker =>
    simp only [present] at run ⊢
    split at run
    next => simp at run
    next longer ids chunked =>
      cases run
      obtain ⟨rfl, rfl⟩ := document.applyChunker_eq_extended final chunker ids chunked
      refine ⟨rfl, proposedEvents_eq _ _ _ ?_, fun _ same => Option.some.inj same ▸ chunked⟩
      apply Arena.filterMap_find?_ids
      intro a added
      have entries := document.extended_numbered_entries sound chunker.name
        (chunker.placed 0 document.sentences)
      rw [Document.chunked, entries]
      exact List.mem_append_right _ added

theorem runMerger_eq (document : Document) (sound : document.Sound) (summary : ProcessSummary) :
    ∃ next, pipeline.runMerger document summary =
      (document.withoutAll ((pipeline.removedFrom document).map Annotation.id),
        (pipeline.removedFrom document).map (removal document), .ok next) := by
  unfold runMerger removedFrom
  cases present : pipeline.merger with
  | none => exact ⟨summary, rfl⟩
  | some merger =>
    have effect := merger.mergeDocument_eq document sound
    have texts := Document.spanText_congr _ document (document.withoutAll_sentences
      ((merger.beatenAnnotations document).map Annotation.id))
    refine ⟨{ summary with removed := (merger.beatenAnnotations document).length }, ?_⟩
    simp only [effect, texts]
    rfl

theorem runResolver_succeeded (document final : Document) (summary next : ProcessSummary)
    (events : List PipelineEvent)
    (run : pipeline.runResolver clock document summary = (final, events, .ok next)) :
    ∃ links, pipeline.Links clock document links ∧
      final = { document with relations := document.relations ++ links.map Link.relation } ∧
      events = links.map (resolvedEvent final) := by
  unfold runResolver at run
  unfold Links
  cases present : pipeline.resolver with
  | none =>
    simp only [present] at run ⊢
    cases run
    exact ⟨[], rfl, by simp, rfl⟩
  | some resolver =>
    simp only [present] at run ⊢
    split at run
    next => simp at run
    next resolved report success =>
      cases run
      obtain ⟨effect, outcome⟩ := Prod.mk.inj (show _ = (final, _) from success)
      obtain ⟨pass, elapsed, _, linked, rfl⟩ := resolver.resolveWith_succeeded document clock _ ()
        _ final report (Prod.ext effect (Prod.ext rfl outcome))
      exact ⟨pass.links, ⟨_, by rw [success], rfl⟩, linked, rfl⟩

theorem runChunker_early (document : Document) (summary : ProcessSummary) :
    ∀ event ∈ (pipeline.runChunker document summary).2.1, event.IsEarly := by
  unfold runChunker
  split
  · simp
  · split
    · simp
    · intro event present
      obtain ⟨place, _, told⟩ := List.mem_filterMap.mp present
      dsimp only at told
      split at told
      · simp at told
      · obtain rfl := Option.some.inj told
        trivial

theorem runMerger_early (document : Document) (summary : ProcessSummary) :
    ∀ event ∈ (pipeline.runMerger document summary).2.1, event.IsEarly := by
  unfold runMerger
  split
  · simp
  · intro event present
    obtain ⟨a, _, rfl⟩ := List.mem_map.mp present
    trivial

theorem runResolver_failed (document final : Document) (summary : ProcessSummary)
    (events : List PipelineEvent) (e : Error)
    (run : pipeline.runResolver clock document summary = (final, events, .error e)) :
    events = [] := by
  unfold runResolver at run
  split at run
  · simp at run
  · split at run
    · cases run
      rfl
    · simp at run

theorem andThen_cases (before : Stage) (stage : Document → ProcessSummary → Stage)
    (final : Document) (events : List PipelineEvent) (outcome : Except Error ProcessSummary)
    (run : andThen before stage = (final, events, outcome)) :
    (∃ e, outcome = .error e ∧ before = (final, events, .error e)) ∨
      ∃ document earlier middle later, before = (document, earlier, .ok middle) ∧
        stage document middle = (final, later, outcome) ∧ events = earlier ++ later := by
  obtain ⟨document, earlier, reached⟩ := before
  cases reached with
  | error e =>
    cases run
    exact .inl ⟨e, rfl, rfl⟩
  | ok middle =>
    obtain ⟨rfl, rest⟩ := Prod.mk.inj run
    obtain ⟨rfl, rfl⟩ := Prod.mk.inj rest
    exact .inr ⟨document, earlier, middle, _, rfl, rfl, rfl⟩

theorem andThen_early (before : Stage) (stage : Document → ProcessSummary → Stage)
    (early : ∀ event ∈ before.2.1, event.IsEarly)
    (each : ∀ document summary, ∀ event ∈ (stage document summary).2.1, event.IsEarly) :
    ∀ event ∈ (andThen before stage).2.1, event.IsEarly := by
  obtain ⟨_, _, failed⟩ | ⟨document, earlier, middle, later, rfl, follows, events⟩ :=
    andThen_cases before stage _ _ _ (Prod.eta _).symm
  · have same : before.2.1 = (andThen before stage).2.1 :=
      congrArg (fun reached => reached.2.1) failed
    rwa [← same]
  · intro event present
    rw [events] at present
    rcases List.mem_append.mp present with old | new
    · exact early event old
    · exact each document middle event (follows ▸ new)

theorem stages_failed (document final : Document) (events : List PipelineEvent) (e : Error)
    (run : pipeline.stages clock document = (final, events, .error e)) :
    ∀ event ∈ events, event.IsEarly := by
  have chunked := andThen_early (document, [], .ok (.initial document.id)) pipeline.runChunker
    (by simp) pipeline.runChunker_early
  have merged := andThen_early _ pipeline.runMerger chunked pipeline.runMerger_early
  obtain ⟨_, _, failed⟩ | ⟨_, earlier, _, later, before, resolved, rfl⟩ :=
    andThen_cases _ _ _ _ _ run
  · simpa [failed] using merged
  · rw [pipeline.runResolver_failed _ _ _ _ _ e resolved, List.append_nil]
    simpa [before] using merged

theorem runResolver_ne_panic (document : Document) (summary : ProcessSummary) (cause : Panic) :
    (pipeline.runResolver clock document summary).2.2 ≠ .error (.panic cause) := by
  unfold runResolver
  split
  next => simp
  next resolver _ =>
    have resolved := resolver.resolve_ne_panic document clock cause
    split
    next partway e failed => simpa [failed] using resolved
    next => simp

theorem runMerger_ne_panic (document : Document) (summary : ProcessSummary) (cause : Panic) :
    (pipeline.runMerger document summary).2.2 ≠ .error (.panic cause) := by
  unfold runMerger
  split <;> simp

theorem andThen_panics (before : Stage) (stage : Document → ProcessSummary → Stage) (cause : Panic)
    (safe : ∀ document summary, (stage document summary).2.2 ≠ .error (.panic cause))
    (failed : (andThen before stage).2.2 = .error (.panic cause)) :
    before.2.2 = .error (.panic cause) := by
  obtain ⟨document, events, outcome⟩ := before
  cases outcome with
  | error e => exact failed
  | ok summary => exact absurd failed (safe document summary)

/-- Only a chunker can end a run in the middle, and only when it has used up the identities. -/
theorem stages_panics (document : Document) (cause : Panic)
    (failed : (pipeline.stages clock document).2.2 = .error (.panic cause)) :
    maxIndex ≤ document.nextId + (pipeline.chunkedIds document).length := by
  have merged := andThen_panics _ _ cause
    (fun reached summary => pipeline.runResolver_ne_panic _ reached summary cause) failed
  have chunked := andThen_panics _ _ cause
    (fun reached summary => pipeline.runMerger_ne_panic reached summary cause) merged
  exact pipeline.runChunker_panics document _ cause chunked

theorem proposedTo_entries (document : Document) (sound : document.Sound) :
    (document.extended (pipeline.proposedTo document)).annotations.entries =
      document.annotations.entries ++ pipeline.proposedTo document := by
  unfold proposedTo
  split
  · simp
  · exact document.extended_numbered_entries sound _ _

theorem proposedTo_ids (document : Document) :
    (pipeline.proposedTo document).map Annotation.id =
      List.range' document.nextId (pipeline.proposedTo document).length := by
  unfold proposedTo
  split
  · rfl
  · rw [Document.chunked, numbered_ids, numbered_length]

theorem exists_proposedTo_iff (document : Document) (place : Nat) :
    (∃ a ∈ pipeline.proposedTo document, a.sentence = place) ↔
      ∃ chunker s, pipeline.chunker = some chunker ∧ document.sentences[place]? = some s ∧
        chunker.propose s ≠ [] := by
  unfold proposedTo
  split
  next absent => simp [absent]
  next chunker present => simp [present, document.exists_chunked_iff]

theorem flatMap_batches_proposedTo (document : Document) :
    (batches document.sentences.length (pipeline.proposedTo document)).flatMap Prod.snd =
      pipeline.proposedTo document := by
  refine flatMap_batches _ _ ?_ fun a added => ?_
  · unfold proposedTo
    split
    · exact List.Pairwise.nil
    · exact document.chunked_ordered _
  · obtain ⟨_, _, _, found, _⟩ :=
      (pipeline.exists_proposedTo_iff document a.sentence).mp ⟨a, added, rfl⟩
    exact (List.getElem?_eq_some_iff.mp found).1

theorem removedFrom_subset (document : Document) (sound : document.Sound) :
    pipeline.removedFrom document ⊆ document.annotations.entries := by
  unfold removedFrom
  split
  · simp
  next merger _ =>
    intro a removed
    rw [merger.mergeDocument_eq document sound] at removed
    exact ((merger.mem_beatenAnnotations document sound a).mp removed).1

-- What the resolver is given.
def prepared (document : Document) : Document :=
  (document.extended (pipeline.proposedTo document)).withoutAll
    ((pipeline.removedFrom (document.extended (pipeline.proposedTo document))).map Annotation.id)

theorem prepared_entries (document : Document) (sound : document.Sound)
    (extendedSound : (document.extended (pipeline.proposedTo document)).Sound) :
    (pipeline.prepared document).annotations.entries =
      (document.annotations.entries ++ pipeline.proposedTo document).filter fun a =>
        !(pipeline.removedFrom (document.extended (pipeline.proposedTo document))).contains a := by
  rw [prepared, Document.withoutAll_entries, ← pipeline.proposedTo_entries document sound]
  apply List.filter_congr
  intro a present
  have removed := pipeline.removedFrom_subset _ extendedSound
  rw [Bool.eq_iff_iff]
  simp only [Bool.not_eq_true', Bool.eq_false_iff, ne_eq, List.contains_iff_mem, List.mem_map]
  refine not_congr ⟨?_, fun named => ⟨a, named, rfl⟩⟩
  rintro ⟨b, there, same⟩
  exact Arena.eq_of_id_eq _ (removed there) present same ▸ there

theorem stages_reached (document final : Document) (sound : document.Sound)
    (summary : ProcessSummary) (events : List PipelineEvent)
    (run : pipeline.stages clock document = (final, events, .ok summary)) :
    (document.extended (pipeline.proposedTo document)).Sound ∧
      ∃ first second third proposed removed,
        pipeline.runChunker document (.initial document.id) =
          (document.extended (pipeline.proposedTo document), first, .ok proposed) ∧
        pipeline.runMerger (document.extended (pipeline.proposedTo document)) proposed =
          (pipeline.prepared document, second, .ok removed) ∧
        pipeline.runResolver (fun reading => clock (reading + 1)) (pipeline.prepared document)
          removed = (final, third, .ok summary) ∧
        events = first ++ second ++ third := by
  obtain ⟨_, impossible, _⟩ | ⟨merged, told, middle, last, before, resolved, rfl⟩ :=
    andThen_cases _ _ _ _ _ run
  · cases impossible
  obtain ⟨_, impossible, _⟩ | ⟨chunked, first, start, second, earlier, merging, rfl⟩ :=
    andThen_cases _ _ _ _ _ before
  · cases impossible
  obtain ⟨_, impossible, _⟩ | ⟨_, _, _, third, started, chunking, rfl⟩ :=
    andThen_cases _ _ _ _ _ earlier
  · cases impossible
  cases started
  have chunkedSound := (pipeline.runChunker_evolves document sound (.initial document.id)).sound
  rw [chunking] at chunkedSound
  obtain ⟨rfl, _⟩ := pipeline.runChunker_succeeded document chunked sound _ _ _ chunking
  obtain ⟨_, effect⟩ := pipeline.runMerger_eq _ chunkedSound start
  have same := effect.symm.trans merging
  cases same
  exact ⟨chunkedSound, _, _, _, _, _, chunking, effect, resolved, rfl⟩

theorem stages_succeeded (document final : Document) (sound : document.Sound)
    (summary : ProcessSummary) (events : List PipelineEvent)
    (run : pipeline.stages clock document = (final, events, .ok summary)) :
    (document.extended (pipeline.proposedTo document)).Sound ∧ ∃ links,
      (∀ chunker, pipeline.chunker = some chunker → document.applyChunker chunker =
        (document.extended (pipeline.proposedTo document),
          .ok ((pipeline.proposedTo document).map Annotation.id))) ∧
      pipeline.Links (fun reading => clock (reading + 1)) (pipeline.prepared document) links ∧
      events = (batches document.sentences.length (pipeline.proposedTo document)).map proposal ++
        (pipeline.removedFrom (document.extended (pipeline.proposedTo document))).map
          (removal document) ++ links.map (resolvedEvent final) ∧
      final = { pipeline.prepared document with
        relations := (pipeline.prepared document).relations ++ links.map Link.relation } := by
  obtain ⟨chunkedSound, _, _, _, proposed, _, chunking, merging, resolving, rfl⟩ :=
    pipeline.stages_reached clock document final sound summary events run
  obtain ⟨_, rfl, added⟩ :=
    pipeline.runChunker_succeeded document _ sound _ _ _ chunking
  obtain ⟨_, effect⟩ := pipeline.runMerger_eq _ chunkedSound proposed
  rw [effect] at merging
  cases merging
  obtain ⟨links, linked, rfl, rfl⟩ := pipeline.runResolver_succeeded _ _ final _ _ _ resolving
  exact ⟨chunkedSound, links, added, linked, rfl, rfl⟩

theorem processStreaming_cases (document final : Document) (events : List PipelineEvent)
    (outcome : Except Error ProcessSummary) (valid : document.validate = .ok ())
    (run : pipeline.processStreaming clock document = (final, events, outcome)) :
    (∃ reached told e, pipeline.stages clock document = (reached, told, .error e) ∧
      final = document ∧ events = told ++ finalEvents (.error e) ∧ outcome = .error e) ∨
    ∃ told figures summary, pipeline.stages clock document = (final, told, .ok figures) ∧
      events = told ++ [.done summary] ∧ outcome = .ok summary := by
  unfold processStreaming Pipeline.run at run
  simp only [valid] at run
  split at run
  next reached told e failed =>
    cases run
    exact .inl ⟨reached, told, e, failed, rfl, rfl, rfl⟩
  next reached told figures succeeded =>
    cases run
    exact .inr ⟨told, figures, _, succeeded, rfl, rfl⟩

/-- The events of a run that succeeds are what each sentence was given, what was taken out, what
was linked, and the end; replayed on the document at the start they give the document at the end.
A run that fails tells only of early stages before the failure, and leaves the document alone. -/
theorem processStreaming_tells_run (document final : Document) (events : List PipelineEvent)
    (outcome : Except Error ProcessSummary) (valid : document.validate = .ok ())
    (room : document.nextId + (pipeline.chunkedIds document).length < maxIndex)
    (run : pipeline.processStreaming clock document = (final, events, outcome)) :
    pipeline.process clock document = (final, outcome) ∧
      (∀ summary, outcome = .ok summary →
        ∃ (proposed : List (Nat × List Annotation)) (removed : List Annotation) (links : List Link),
          events = (proposed.map fun batch => .chunksProposed batch.1 batch.2) ++
            (removed.map fun a => .chunkRemoved a (document.spanText a)) ++
            links.map (resolvedEvent final) ++ [.done summary] ∧
          (proposed.map Prod.fst).Pairwise (· < ·) ∧
          (∀ batch ∈ proposed, batch.2 ≠ [] ∧ ∀ a ∈ batch.2, a.sentence = batch.1) ∧
          (∀ place s, document.sentences[place]? = some s →
            (place ∈ proposed.map Prod.fst ↔
              ∃ chunker, pipeline.chunker = some chunker ∧ chunker.propose s ≠ [])) ∧
          proposed.flatMap Prod.snd = pipeline.proposedTo document ∧
          (proposed.flatMap Prod.snd).map Annotation.id =
            List.range' document.nextId (proposed.flatMap Prod.snd).length ∧
          (∀ chunker, pipeline.chunker = some chunker → document.applyChunker chunker =
            (document.extended (proposed.flatMap Prod.snd),
              .ok ((proposed.flatMap Prod.snd).map Annotation.id))) ∧
          removed =
            pipeline.removedFrom (document.extended (proposed.flatMap Prod.snd)) ∧
          pipeline.Links (fun reading => clock (reading + 1))
            ((document.extended (proposed.flatMap Prod.snd)).withoutAll
              (removed.map Annotation.id)) links ∧
          events.foldl replay document = final ∧
          final.annotations.entries =
            (document.annotations.entries ++ proposed.flatMap Prod.snd).filter
              (fun a => !removed.contains a) ∧
          final.relations =
            document.relations.filter (fun relation => !removed.any fun a => relation.touches a.id) ++
              links.map fun link => .coreference link.mention link.head) ∧
      ∀ e, outcome = .error e →
        final = document ∧ ∃ earlier, events = earlier ++ [.failed e.message] ∧
          ∀ event ∈ earlier, (∃ place annotations, event = .chunksProposed place annotations) ∨
            ∃ a text, event = .chunkRemoved a text := by
  have sound := document.validate_eq_ok_iff.mp valid
  refine ⟨?_, ?_, ?_⟩
  · obtain ⟨rfl, rest⟩ := Prod.mk.inj run
    obtain ⟨_, rfl⟩ := Prod.mk.inj rest
    rfl
  · rintro summary rfl
    obtain ⟨_, _, _, _, _, _, impossible⟩ | ⟨told, figures, _, succeeded, rfl, same⟩ :=
      pipeline.processStreaming_cases clock document final events _ valid run
    · simp at impossible
    cases same
    obtain ⟨extendedSound, links, added, linked, rfl, effect⟩ :=
      pipeline.stages_succeeded clock document final sound figures told succeeded
    have whole := pipeline.flatMap_batches_proposedTo document
    refine ⟨batches document.sentences.length (pipeline.proposedTo document),
      pipeline.removedFrom (document.extended (pipeline.proposedTo document)), links, rfl,
      batches_places _ _, ?_, ?_, whole, whole.symm ▸ pipeline.proposedTo_ids document,
      whole.symm ▸ added, by rw [whole], whole.symm ▸ linked, ?_, ?_, ?_⟩
    · intro batch present
      obtain ⟨_, annotations, some⟩ := (mem_batches _ _ batch).mp present
      refine ⟨some, fun a inBatch => ?_⟩
      rw [annotations] at inBatch
      simpa using (List.mem_filter.mp inBatch).2
    · intro place s found
      have within := (List.getElem?_eq_some_iff.mp found).1
      rw [mem_batches_places, pipeline.exists_proposedTo_iff document place]
      simp only [within, found, true_and, Option.some.injEq, exists_and_left, exists_eq_left']
    · simp only [List.foldl_append, replay_proposals, replay_removals, replay_resolutions, whole]
      exact effect.symm
    · rw [effect, whole]
      exact pipeline.prepared_entries document sound extendedSound
    · rw [effect, prepared, Document.withoutAll_relations]
      simp [Document.extended, Function.comp_def, Link.relation]
  · rintro e rfl
    obtain ⟨reached, told, _, failed, same, rfl, failure⟩ | ⟨_, _, _, _, _, impossible⟩ :=
      pipeline.processStreaming_cases clock document final events _ valid run
    · cases failure
      have whole (cause : Panic) : e ≠ .panic cause := by
        rintro rfl
        exact Nat.not_lt.mpr (pipeline.stages_panics clock document cause (by rw [failed])) room
      have last : finalEvents (.error e) = [.failed e.message] := by
        cases e with
        | panic cause => exact absurd rfl (whole cause)
        | _ => rfl
      refine ⟨same, told, by rw [last], fun event present => ?_⟩
      have early := pipeline.stages_failed clock document reached told e failed event present
      cases event with
      | chunksProposed place annotations => exact .inl ⟨place, annotations, rfl⟩
      | chunkRemoved a text => exact .inr ⟨a, text, rfl⟩
      | mentionResolved _ _ _ => exact early.elim
      | done _ => exact early.elim
      | failed _ => exact early.elim
    · simp at impossible

def spansThenLinks : Pipeline where
  chunker := some ⟨"spans", fun _ => [.plain 0 1 "PERSON", .plain 4 4 "PLACE"]⟩
  merger := some (.ranking ["PERSON", "PLACE"])
  resolver := some Resolver.acceptingLater

-- The chunker finds a longer name that beats a shorter one, and the last person is linked.
def threePersonsEvents : List PipelineEvent :=
  [.chunksProposed 0 [⟨4, 0, 0, 1, "PERSON", none, 0, "spans"⟩,
      ⟨5, 0, 4, 4, "PLACE", none, 0, "spans"⟩],
    .chunkRemoved ⟨1, 0, 0, 0, "PERSON", none, 0, ""⟩ "Jan",
    .mentionResolved ⟨0, 2, 1, 3⟩ "go" "Piotra", .done ⟨"d", 2, 1, 5, 3, 1, 2, 0, 0⟩]

theorem processStreaming_tells_threePersons :
    ∃ final,
      spansThenLinks.processStreaming (fun _ => 0) Resolver.threePersons =
        (final, threePersonsEvents, .ok ⟨"d", 2, 1, 5, 3, 1, 2, 0, 0⟩) ∧
      final.relations = [.ofKind 2 3 "lives in", .coreference 0 2] ∧
      final.annotations.entries.map Annotation.id = [0, 2, 3, 4, 5] ∧
      threePersonsEvents.foldl replay Resolver.threePersons = final := by
  have run : spansThenLinks.processStreaming (fun _ => 0) Resolver.threePersons =
      ((spansThenLinks.process (fun _ => 0) Resolver.threePersons).1, threePersonsEvents,
        .ok ⟨"d", 2, 1, 5, 3, 1, 2, 0, 0⟩) := by decide +kernel
  refine ⟨_, run, by decide +kernel, by decide +kernel, ?_⟩
  obtain ⟨_, _, _, _, _, _, _, _, _, _, _, _, replayed, _⟩ :=
    (processStreaming_tells_run spansThenLinks (fun _ => 0) Resolver.threePersons _ _ _
      (by decide +kernel) (by decide +kernel) run).2.1 _ rfl
  exact replayed

end Pipeline

end SpanAnnotation
