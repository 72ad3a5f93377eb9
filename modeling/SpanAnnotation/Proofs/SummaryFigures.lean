import SpanAnnotation.Proofs.EventLog
import SpanAnnotation.Proofs.Recovery
import SpanAnnotation.Proofs.StoredClusters

/-!
The figures of a run that succeeds. Each stage writes its own, and they balance: what a document held
and what it was given is what it holds now and what was taken out, and every mention either joined a
cluster or opened one.
-/

set_option autoImplicit false

namespace SpanAnnotation

-- Annotations taken out.

namespace Document

theorem withoutAll_entries_perm (document : Document) (removed : List Annotation)
    (distinct : removed.Nodup) (known : removed ⊆ document.annotations.entries) :
    ((document.withoutAll (removed.map Annotation.id)).annotations.entries ++ removed).Perm
      document.annotations.entries := by
  have named (a : Annotation) (present : a ∈ document.annotations.entries) :
      a.id ∈ removed.map Annotation.id ↔ a ∈ removed := by
    constructor
    next =>
      intro listed
      obtain ⟨b, there, same⟩ := List.mem_map.mp listed
      exact document.annotations.eq_of_id_eq (known there) present same ▸ there
    next => exact List.mem_map_of_mem
  have taken : removed.Perm (document.annotations.entries.filter fun a =>
      (removed.map Annotation.id).contains a.id) := by
    refine (List.perm_ext_iff_of_nodup distinct
      (document.annotations.ids_nodup.of_map.filter _)).mpr fun a => ?_
    rw [List.mem_filter, List.contains_iff_mem]
    constructor
    next => exact fun there => ⟨known there, (named a (known there)).mpr there⟩
    next => exact fun ⟨present, listed⟩ => (named a present).mp listed
  rw [document.withoutAll_entries]
  exact (List.Perm.append_left _ taken).trans
    (List.perm_append_comm.trans (List.filter_append_perm _ _))

theorem withoutAll_relations_length (document : Document) (ids : List Nat) :
    (document.withoutAll ids).relations.length +
        document.relations.countP (fun relation => ids.any relation.touches) =
      document.relations.length := by
  have parts :=
    document.relations.length_eq_countP_add_countP fun relation => ids.any relation.touches
  rw [document.withoutAll_relations, ← List.countP_eq_length_filter, parts, Nat.add_comm]
  congr 2
  funext relation
  cases ids.any relation.touches <;> rfl

end Document

theorem Merger.beatenAnnotations_nodup (merger : Merger) (document : Document) :
    (merger.beatenAnnotations document).Nodup := by
  refine List.nodup_flatMap.mpr ⟨fun place _ => ?_, ?_⟩
  next => exact document.annotations.ids_nodup.of_map.filter _
  next =>
    refine List.nodup_range.imp fun different a here there => different ?_
    rw [← ((merger.mem_beatenIn document _ a).mp here).2.1,
      ((merger.mem_beatenIn document _ a).mp there).2.1]

-- Failures of a classifier.

namespace Resolver

/-- A failure leaves its mention to open a cluster, and the first mention opened one without any. -/
structure Pass.Bounded (pass : Pass) : Prop where
  unopened : pass.clusters = [] → pass.recovered = 0
  opened : pass.clusters ≠ [] → pass.recovered < pass.unresolved

theorem Pass.Bounded.initial : Pass.initial.Bounded where
  unopened _ := rfl
  opened := by simp [Pass.initial]

variable (resolver : Resolver) (document : Document)

theorem visit_bounded (mention : Annotation) (pass next : Pass) (link? : Option Link)
    (bounded : pass.Bounded) (step : resolver.visit document mention pass = .ok (next, link?)) :
    next.Bounded := by
  have opens := resolver.visit_opens document mention pass next link? step
  refine ⟨fun none => absurd none opens, fun _ => ?_⟩
  by_cases unopened : pass.clusters = []
  next =>
    have chosen := resolver.choose_of_none document mention pass unopened
    rw [resolver.visit_of_choice document mention pass pass none chosen] at step
    cases step
    simp [Pass.openCluster, bounded.unopened unopened]
  next =>
    have below := bounded.opened unopened
    obtain ⟨vectors, extracted, _⟩ := resolver.extractAll_clusters_succeeds document mention pass
    have chosen := resolver.choose_eq document mention pass vectors unopened extracted
    rw [resolver.visit_of_choice document mention pass _ _ chosen] at step
    cases answer : resolver.classifier.inFull? pass.asked vectors with
    | none =>
      simp only [answer, Option.bind_none] at step
      cases step
      simpa [Pass.openCluster, Pass.recover, Pass.ask] using below
    | some labels =>
      simp only [answer] at step
      split at step
      next =>
        cases step
        exact below
      next =>
        cases step
        exact Nat.lt_succ_of_lt below

theorem visitEach_bounded (pass done : Pass) (mentions : List Annotation) (bounded : pass.Bounded)
    (run : resolver.visitEach document pass mentions = .ok done) : done.Bounded := by
  induction mentions generalizing pass with
  | nil =>
    cases run
    exact bounded
  | cons mention rest ih =>
    obtain ⟨next, link?, step, later⟩ := resolver.visitEach_cons document pass done mention rest run
    exact ih next (resolver.visit_bounded document mention pass next link? bounded step) later

theorem resolve_balances (clock : Clock) (final : Document) (report : ResolutionReport)
    (run : resolver.resolve document clock = (final, .ok report)) :
    report.mentions = report.links.length + report.unresolved ∧
      (0 < report.mentions → report.recoveredErrors < report.unresolved) := by
  obtain ⟨_, done, elapsed, visits, _, rfl⟩ :=
    resolver.resolve_succeeded document clock final report run
  obtain ⟨covered, covering, covers, _⟩ := resolver.visitEach_covers document .initial []
    (resolver.selector.select document) (resolver.selector.select_ids_nodup document) .initial
  obtain rfl : done = covered := Except.ok.inj (visits.symm.trans covering)
  have consulted := resolver.visitEach_consulted document _ done visits
  have bounded := resolver.visitEach_bounded document .initial done _ .initial visits
  refine ⟨covers.decided.symm, fun some => ?_⟩
  exact bounded.opened (consulted.opened (List.length_pos_iff.mp some))

end Resolver

-- What the stages write.

namespace Pipeline

variable (pipeline : Pipeline) (clock : Clock)

theorem runChunker_figures (document final : Document) (sound : document.Sound)
    (next : ProcessSummary) (events : List PipelineEvent)
    (run : pipeline.runChunker document (.initial document.id) = (final, events, .ok next)) :
    next = { ProcessSummary.initial document.id with
      proposed := (pipeline.proposedTo document).length } := by
  obtain ⟨_, _, added⟩ := pipeline.runChunker_succeeded document final sound _ _ _ run
  unfold runChunker at run
  split at run
  next absent =>
    cases run
    simp [ProcessSummary.initial, proposedTo, absent]
  next chunker present =>
    rw [added chunker present] at run
    cases run
    rw [List.length_map]

theorem runMerger_figures (document final : Document)
    (summary next : ProcessSummary) (events : List PipelineEvent) (fresh : summary.removed = 0)
    (run : pipeline.runMerger document summary = (final, events, .ok next)) :
    next = { summary with removed := (pipeline.removedFrom document).length } := by
  unfold runMerger at run
  unfold removedFrom
  cases present : pipeline.merger with
  | none =>
    simp only [present] at run ⊢
    cases run
    simp [← fresh]
  | some merger =>
    simp only [present] at run ⊢
    cases run
    rfl

theorem runResolver_figures (document final : Document) (summary next : ProcessSummary)
    (events : List PipelineEvent)
    (fresh : summary.mentions = 0 ∧ summary.relations = 0 ∧ summary.unresolved = 0)
    (run : pipeline.runResolver clock document summary = (final, events, .ok next)) :
    final.annotations = document.annotations ∧
      final.relations.length = document.relations.length + next.relations ∧
      next.proposed = summary.proposed ∧ next.removed = summary.removed ∧
      next.mentions = next.relations + next.unresolved ∧
      (0 < next.mentions → next.recoveredErrors < next.unresolved) := by
  obtain ⟨mentions, relations, unresolved⟩ := fresh
  unfold runResolver at run
  split at run
  next =>
    cases run
    exact ⟨rfl, by rw [relations, Nat.add_zero], rfl, rfl, by omega, by omega⟩
  next resolver _ =>
    split at run
    next => simp at run
    next resolved report success =>
      cases run
      obtain ⟨counted, bounded⟩ := resolver.resolve_balances document clock final report success
      obtain ⟨_, done, _, _, rfl, rfl⟩ :=
        resolver.resolve_succeeded document clock final report success
      exact ⟨rfl, by simp [Resolver.reportOf], rfl, rfl, counted, bounded⟩

theorem process_succeeded (document final : Document) (summary : ProcessSummary)
    (run : pipeline.process clock document = (final, .ok summary)) :
    document.Sound ∧ ∃ events figures elapsed,
      pipeline.stages clock document = (final, events, .ok figures) ∧
      summary = { figures with kept := final.annotationCount, processingMs := elapsed } := by
  unfold process Pipeline.run at run
  cases valid : document.validate with
  | error e => simp [valid] at run
  | ok =>
    simp only [valid] at run
    refine ⟨document.validate_eq_ok_iff.mp valid, ?_⟩
    split at run
    next => simp at run
    next reached events figures succeeded =>
      cases run
      exact ⟨events, figures, _, succeeded, rfl⟩

theorem removedFrom_nodup (document : Document) (sound : document.Sound) :
    (pipeline.removedFrom document).Nodup := by
  unfold removedFrom
  split
  next => exact List.nodup_nil
  next merger _ =>
    rw [merger.mergeDocument_eq document sound]
    exact merger.beatenAnnotations_nodup document

theorem prepared_entries_perm (document : Document) (sound : document.Sound)
    (extendedSound : (document.extended (pipeline.proposedTo document)).Sound) :
    ((pipeline.prepared document).annotations.entries ++
        pipeline.removedFrom (document.extended (pipeline.proposedTo document))).Perm
      (document.annotations.entries ++ pipeline.proposedTo document) := by
  rw [← pipeline.proposedTo_entries document sound]
  exact (document.extended (pipeline.proposedTo document)).withoutAll_entries_perm _
    (pipeline.removedFrom_nodup _ extendedSound) (pipeline.removedFrom_subset _ extendedSound)

theorem prepared_eq_merged (document : Document) (merger : Merger)
    (present : pipeline.merger = some merger)
    (extendedSound : (document.extended (pipeline.proposedTo document)).Sound) :
    pipeline.prepared document =
      (merger.mergeDocument (document.extended (pipeline.proposedTo document))).1 := by
  simp [prepared, removedFrom, present, merger.mergeDocument_eq _ extendedSound]

/-- The figures of a run that succeeds balance. What the document had and what was proposed is what
was kept and what was removed, every mention was linked or not, and the classifier failed less often
than mentions stayed without a link. -/
theorem process_balances (document final : Document) (summary : ProcessSummary)
    (run : pipeline.process clock document = (final, .ok summary)) :
    (∃ removed : List Annotation,
      (final.annotations.entries ++ removed).Perm
        (document.annotations.entries ++ pipeline.proposedTo document) ∧
      summary.proposed = (pipeline.proposedTo document).length ∧
      summary.removed = removed.length ∧
      summary.kept = final.annotationCount ∧
      summary.kept + summary.removed = document.annotationCount + summary.proposed ∧
      final.relations.length +
          document.relations.countP (fun relation => removed.any fun a => relation.touches a.id) =
        document.relations.length + summary.relations) ∧
      summary.mentions = summary.relations + summary.unresolved ∧
      (0 < summary.mentions → summary.recoveredErrors + 1 ≤ summary.unresolved) ∧
      (∀ relation ∈ final.relations, final.annotations.contains relation.source = true ∧
        final.annotations.contains relation.target = true) ∧
      ∀ merger, pipeline.merger = some merger →
        ∀ x ∈ final.annotations.entries, ∀ y ∈ final.annotations.entries,
          x.category ∈ merger.priority → y.category ∈ merger.priority → x.overlaps y = true →
            x.size = y.size ∧ x.category = y.category := by
  obtain ⟨sound, events, figures, _, reached, rfl⟩ :=
    pipeline.process_succeeded clock document final summary run
  have finalSound : final.Sound := by
    have evolves := pipeline.stages_evolves clock document sound
    rw [reached] at evolves
    exact evolves.sound
  obtain ⟨extendedSound, _, _, _, proposed, merged, chunking, merging, resolving, _⟩ :=
    pipeline.stages_reached clock document final sound figures events reached
  obtain rfl := pipeline.runChunker_figures document _ sound proposed _ chunking
  obtain rfl := pipeline.runMerger_figures _ _ _ merged _ rfl merging
  obtain ⟨annotations, relations, added, removed, mentions, recovered⟩ :=
    pipeline.runResolver_figures _ _ final _ figures _ ⟨rfl, rfl, rfl⟩ resolving
  have entries := pipeline.prepared_entries_perm document sound extendedSound
  rw [← annotations] at entries
  have balance := entries.length_eq
  rw [List.length_append, List.length_append] at balance
  refine ⟨⟨_, entries, added, removed, rfl, ?_, ?_⟩, mentions, recovered, finalSound.endpoints, ?_⟩
  next =>
    rw [removed, added]
    exact balance
  next =>
    have dropped := (document.extended (pipeline.proposedTo document)).withoutAll_relations_length
      ((pipeline.removedFrom (document.extended (pipeline.proposedTo document))).map Annotation.id)
    simp only [List.any_map] at dropped
    rw [relations, Nat.add_right_comm]
    exact congrArg (· + figures.relations) dropped
  next =>
    intro merger present x xLeft y yLeft xListed yListed overlap
    obtain ⟨here, common⟩ := (x.overlaps_iff y (finalSound.spans x xLeft).upright
      (finalSound.spans y yLeft).upright).mp overlap
    rw [annotations, pipeline.prepared_eq_merged document merger present extendedSound]
      at xLeft yLeft
    exact merger.survivors_tie _ extendedSound x y xLeft yLeft xListed yListed here common

theorem spansThenLinks_balances :
    ∃ final,
      spansThenLinks.process (fun _ => 0) Resolver.threePersons =
        (final, .ok ⟨"d", 2, 1, 5, 3, 1, 2, 0, 0⟩) ∧
      final.relations.length +
        Resolver.threePersons.relations.countP (fun relation => relation.touches 1) = 1 + 1 ∧
      ∀ x ∈ final.annotations.entries, ∀ y ∈ final.annotations.entries,
        x.category ∈ ["PERSON", "PLACE"] → y.category ∈ ["PERSON", "PLACE"] →
          x.overlaps y = true → x.size = y.size ∧ x.category = y.category := by
  have run : spansThenLinks.process (fun _ => 0) Resolver.threePersons =
      ((spansThenLinks.process (fun _ => 0) Resolver.threePersons).1,
        .ok ⟨"d", 2, 1, 5, 3, 1, 2, 0, 0⟩) := by decide +kernel
  obtain ⟨_, _, _, _, ties⟩ := process_balances spansThenLinks (fun _ => 0) Resolver.threePersons _ _
    run
  exact ⟨_, run, by decide +kernel, ties _ rfl⟩

end Pipeline

end SpanAnnotation
