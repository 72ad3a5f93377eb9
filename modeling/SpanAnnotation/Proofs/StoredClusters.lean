import Mathlib.Data.List.Induction
import SpanAnnotation.Proofs.LeftToRight

/-!
Clusters read back from the relations of a document. Every relation leads to the head of its
cluster and the relations stand in the order of the links, which is the order in which the mentions
joined, so the relations alone tell each cluster with at least two mentions. A relation that is
stored once more tells nothing new.
-/

set_option autoImplicit false

namespace SpanAnnotation

theorem eraseDups_concat (list : List Nat) (last : Nat) :
    (list ++ [last]).eraseDups =
      if last ∈ list then list.eraseDups else list.eraseDups ++ [last] := by
  rw [List.eraseDups_append]
  by_cases old : last ∈ list <;> simp [List.removeAll, List.eraseDups_cons, old]

theorem eraseDups_inOrder (list : List Nat) :
    list.eraseDups.Pairwise fun a b => list.idxOf a < list.idxOf b := by
  induction list using List.reverseRecOn with
  | nil => simp
  | append_singleton list last ih =>
    have kept : ∀ a ∈ list, (list ++ [last]).idxOf a = list.idxOf a :=
      fun a present => List.idxOf_append_of_mem present
    have old := ih.imp_of_mem fun {a b} first second earlier => by
      rw [List.mem_eraseDups] at first second
      rwa [← kept a first, ← kept b second] at earlier
    rw [eraseDups_concat]
    split
    next => exact old
    next new =>
      refine List.pairwise_append.mpr ⟨old, by simp, ?_⟩
      intro a present b here
      rw [List.mem_eraseDups] at present
      rw [List.mem_singleton.mp here, kept a present, List.idxOf_append, if_neg new]
      have within := List.idxOf_lt_length_iff.mpr present
      omega

theorem eraseDups_nodup (list : List Nat) : list.eraseDups.Nodup :=
  (eraseDups_inOrder list).imp fun earlier same => by simp [same] at earlier

namespace Cluster

theorem push_of_mem (cluster : Cluster) (id : Nat) (present : id ∈ cluster.mentions) :
    cluster.push id = cluster := by
  simp [push, contains, present]

theorem mem_push (cluster : Cluster) (id other : Nat) :
    other ∈ (cluster.push id).mentions ↔ other ∈ cluster.mentions ∨ other = id := by
  by_cases old : id ∈ cluster.mentions
  · rw [push_of_mem cluster id old]
    constructor
    · exact Or.inl
    · rintro (present | rfl)
      · exact present
      · exact old
  · simp [push_mentions cluster id old]

/-- The cluster of a head: the head and whatever is related to it, in the order of the relations. -/
def gathered (relations : List Relation) (head : Nat) : Cluster :=
  relations.foldl
    (fun cluster relation =>
      if relation.target = head then cluster.push relation.source else cluster)
    (single head)

section Gathered

variable (relations : List Relation) (head : Nat)

theorem gathered_concat (relation : Relation) :
    gathered (relations ++ [relation]) head =
      if relation.target = head then (gathered relations head).push relation.source
      else gathered relations head := by
  simp [gathered]

@[simp] theorem gathered_head : (gathered relations head).head = head := by
  induction relations using List.reverseRecOn with
  | nil => rfl
  | append_singleton relations relation ih =>
    rw [gathered_concat]
    split
    · rw [push_head, ih]
    · exact ih

theorem gathered_of_unrelated (unrelated : head ∉ relations.map Relation.target) :
    gathered relations head = single head := by
  induction relations using List.reverseRecOn with
  | nil => rfl
  | append_singleton relations relation ih =>
    simp only [List.map_append, List.mem_append, not_or, List.map_cons, List.map_nil,
      List.mem_singleton] at unrelated
    rw [gathered_concat, if_neg (Ne.symm unrelated.2), ih unrelated.1]

theorem mem_gathered (relation : Relation) (present : relation ∈ relations) :
    relation.source ∈ (gathered relations relation.target).mentions := by
  induction relations using List.reverseRecOn with
  | nil => simp at present
  | append_singleton relations last ih =>
    rw [gathered_concat]
    rcases List.mem_append.mp present with earlier | here
    · split
      · exact (mem_push _ _ _).mpr (.inl (ih earlier))
      · exact ih earlier
    · obtain rfl := List.mem_singleton.mp here
      rw [if_pos rfl]
      exact (mem_push _ _ _).mpr (.inr rfl)

end Gathered

theorem joinRelation_map (group : Nat → Cluster) (heads : List Nat) (relation : Relation)
    (headed : ∀ head, (group head).head = head) (distinct : heads.Nodup) :
    joinRelation (heads.map group) relation =
      if relation.target ∈ heads then
        heads.map fun head =>
          if relation.target = head then (group head).push relation.source else group head
      else heads.map group ++ [(single relation.target).push relation.source] := by
  induction heads with
  | nil => rfl
  | cons head rest ih =>
    obtain ⟨new, distinct⟩ := List.nodup_cons.mp distinct
    rw [List.map_cons, joinRelation, headed head]
    by_cases here : relation.target = head
    · have others : ∀ other ∈ rest, relation.target ≠ other := fun other present same =>
        new (here ▸ same ▸ present)
      simp only [here, beq_self_eq_true, if_true, List.mem_cons_self, List.map_cons]
      congr 1
      apply List.map_congr_left
      intro other present
      rw [if_neg (here ▸ others other present)]
    · simp only [beq_eq_false_iff_ne.mpr (Ne.symm here), Bool.false_eq_true, if_false,
        ih distinct, List.mem_cons, here, false_or, List.map_cons]
      split <;> rfl

/-- One cluster for each head, in the order in which the heads first occur. -/
theorem foldl_joinRelation (relations : List Relation) :
    relations.foldl joinRelation [] =
      (relations.map Relation.target).eraseDups.map (gathered relations) := by
  induction relations using List.reverseRecOn with
  | nil => rfl
  | append_singleton relations relation ih =>
    have step : gathered (relations ++ [relation]) = fun head =>
        if relation.target = head then (gathered relations head).push relation.source
        else gathered relations head :=
      funext fun head => gathered_concat relations head relation
    rw [List.foldl_append, ih, List.foldl_cons, List.foldl_nil,
      joinRelation_map _ _ _ (gathered_head relations) (eraseDups_nodup _), List.map_append,
      List.map_singleton, eraseDups_concat, step]
    simp only [List.mem_eraseDups]
    by_cases known : relation.target ∈ relations.map Relation.target
    · rw [if_pos known, if_pos known]
    · rw [if_neg known, if_neg known, List.map_append, List.map_singleton, if_pos rfl,
        gathered_of_unrelated relations relation.target known]
      congr 1
      apply List.map_congr_left
      intro head present
      have other : relation.target ≠ head := fun same =>
        known (same ▸ List.mem_eraseDups.mp present)
      rw [if_neg other]

theorem joinRelation_again (relations : List Relation) (relation : Relation)
    (present : relation ∈ relations) :
    joinRelation (relations.foldl joinRelation []) relation =
      relations.foldl joinRelation [] := by
  have known : relation.target ∈ (relations.map Relation.target).eraseDups :=
    List.mem_eraseDups.mpr (List.mem_map_of_mem present)
  rw [foldl_joinRelation, joinRelation_map _ _ _ (gathered_head relations) (eraseDups_nodup _),
    if_pos known]
  apply List.map_congr_left
  intro head _
  split
  next here =>
    subst here
    exact push_of_mem _ _ (mem_gathered relations relation present)
  next => rfl

theorem foldl_joinRelation_again (relations more : List Relation) (within : more ⊆ relations) :
    (relations ++ more).foldl joinRelation [] = relations.foldl joinRelation [] := by
  rw [List.foldl_append]
  induction more with
  | nil => rfl
  | cons relation rest ih =>
    obtain ⟨present, within⟩ := List.cons_subset.mp within
    rw [List.foldl_cons, joinRelation_again relations relation present, ih within]

theorem heads_nodup (clusters : List Cluster)
    (distinct : (clusters.flatMap Cluster.mentions).Nodup)
    (headed : ∀ cluster ∈ clusters, cluster.head ∈ cluster.mentions) :
    (clusters.map head).Nodup := by
  induction clusters with
  | nil => simp
  | cons cluster rest ih =>
    rw [List.flatMap_cons, List.nodup_append] at distinct
    obtain ⟨_, restDistinct, apart⟩ := distinct
    rw [List.map_cons, List.nodup_cons]
    refine ⟨?_, ih restDistinct fun other present => headed other (List.mem_cons_of_mem _ present)⟩
    intro again
    obtain ⟨other, present, same⟩ := List.mem_map.mp again
    have inOther := headed other (List.mem_cons_of_mem _ present)
    exact apart cluster.head (headed cluster List.mem_cons_self) other.head
      (List.mem_flatMap_of_mem present inOther) same.symm

end Cluster

theorem Link.targets (links : List Link) :
    (links.map Link.relation).map Relation.target = links.map Link.head := by
  rw [List.map_map]
  rfl

namespace Resolver

/-- Every cluster of a pass is what the links so far gather at its head. -/
def Pass.Gathers (pass : Pass) : Prop :=
  ∀ cluster ∈ pass.clusters,
    cluster = Cluster.gathered (pass.links.map Link.relation) cluster.head

namespace Pass

variable {pass : Pass} {visited : List Annotation}

theorem Covers.head_mem (covers : pass.Covers visited) (cluster : Cluster)
    (present : cluster ∈ pass.clusters) : cluster.head ∈ cluster.mentions :=
  List.mem_of_mem_head? (covers.clusters cluster present).headed

theorem Covers.heads_nodup (covers : pass.Covers visited)
    (distinct : (visited.map Annotation.id).Nodup) : (pass.clusters.map Cluster.head).Nodup :=
  Cluster.heads_nodup pass.clusters (covers.partition.nodup_iff.mpr distinct) covers.head_mem

theorem Covers.targets_visited (covers : pass.Covers visited) :
    (pass.links.map Link.relation).map Relation.target ⊆ visited.map Annotation.id := by
  rw [Link.targets]
  intro id present
  obtain ⟨link, linked, rfl⟩ := List.mem_map.mp present
  obtain ⟨cluster, found, headed, _⟩ := covers.links link linked
  have known := List.mem_of_getElem? found
  have visited := (covers.clusters cluster known).chronological.subset (covers.head_mem cluster known)
  rwa [headed] at visited

theorem Gathers.initial : Pass.initial.Gathers := by simp [Pass.Gathers, Pass.initial]

theorem Gathers.openCluster (gathers : pass.Gathers) (covers : pass.Covers visited)
    (mention : Annotation) (new : mention.id ∉ visited.map Annotation.id) :
    (pass.openCluster mention.id).Gathers := by
  intro cluster present
  rcases List.mem_append.mp present with old | last
  · exact gathers cluster old
  · rw [List.mem_singleton.mp last]
    exact (Cluster.gathered_of_unrelated _ mention.id fun related =>
      new (covers.targets_visited related)).symm

theorem Gathers.join (gathers : pass.Gathers) (covers : pass.Covers visited)
    (distinct : (visited.map Annotation.id).Nodup) (link : Link) (cluster : Cluster)
    (known : pass.clusters[link.cluster]? = some cluster) (headed : cluster.head = link.head) :
    (pass.join link).Gathers := by
  intro changed present
  obtain ⟨place, found⟩ := List.mem_iff_getElem?.mp present
  rw [Pass.join, List.getElem?_modify, Option.map_eq_map, Option.map_eq_some_iff] at found
  obtain ⟨old, before, rfl⟩ := found
  have gathered := gathers old (List.mem_of_getElem? before)
  simp only [Pass.join, List.map_append, List.map_singleton]
  rw [Cluster.gathered_concat]
  by_cases here : link.cluster = place
  · obtain rfl : old = cluster := by
      rw [here, before] at known
      exact Option.some.inj known
    have target : link.relation.target = old.head := headed.symm
    simp only [if_pos here, Cluster.push_head, if_pos target, ← gathered]
    rfl
  · -- No two clusters have one head, so that the link tells nothing of this one.
    have other : link.relation.target ≠ old.head := by
      intro same
      have sameHead : (pass.clusters.map Cluster.head)[link.cluster]? =
          (pass.clusters.map Cluster.head)[place]? := by
        rw [List.getElem?_map, List.getElem?_map, known, before]
        exact congrArg some (headed.trans same)
      have within : link.cluster < (pass.clusters.map Cluster.head).length := by
        rw [List.length_map]
        exact (List.getElem?_eq_some_iff.mp known).1
      exact here ((List.getElem?_inj within (covers.heads_nodup distinct)).mp sameHead)
    simp only [if_neg here, if_neg other, ← gathered]

end Pass

section Run

variable (resolver : Resolver) (document : Document)

theorem visit_gathers (visited : List Annotation) (mention : Annotation) (pass next : Pass)
    (link? : Option Link) (gathers : pass.Gathers) (covers : pass.Covers visited)
    (distinct : ((visited ++ [mention]).map Annotation.id).Nodup)
    (step : resolver.visit document mention pass = .ok (next, link?)) : next.Gathers := by
  have new := Annotation.new_of_nodup visited [] mention distinct
  rw [List.map_append] at distinct
  have before := (List.nodup_append.mp distinct).1
  obtain ⟨answered, answers, ⟨_, rfl⟩ | ⟨link, cluster, _, rfl, _, known, headed⟩⟩ :=
    resolver.visit_cases document mention pass next link? step
  all_goals
    have gathers : answered.Gathers := by
      unfold Pass.Gathers
      rwa [answers.clusters, answers.links]
  · exact gathers.openCluster (covers.answered answers) mention new
  · rw [← answers.clusters] at known
    exact gathers.join (covers.answered answers) before link cluster known headed

theorem visitEach_gathers (visited rest : List Annotation) (pass done : Pass)
    (gathers : pass.Gathers) (covers : pass.Covers visited)
    (distinct : ((visited ++ rest).map Annotation.id).Nodup)
    (run : resolver.visitEach document pass rest = .ok done) : done.Gathers := by
  induction rest generalizing pass visited with
  | nil =>
    cases run
    exact gathers
  | cons mention rest ih =>
    have new := Annotation.new_of_nodup visited rest mention distinct
    obtain ⟨next, link?, step, later⟩ := resolver.visitEach_cons document pass done mention rest run
    obtain ⟨stepCovers, _⟩ :=
      resolver.visit_covers document visited mention pass next link? covers new step
    rw [List.append_cons] at distinct
    have soFar := distinct
    rw [List.map_append] at soFar
    have stepGathers := resolver.visit_gathers document visited mention pass next link? gathers
      covers (List.nodup_append.mp soFar).1 step
    exact ih (visited ++ [mention]) next stepGathers stepCovers distinct later

theorem visitEach_of_visitAll {σ : Type} (clock : Clock) (onLink : σ → Link → σ) (reading : Nat)
    (seen final : σ) (pass done : Pass) (mentions : List Annotation)
    (run : resolver.visitAll document clock onLink reading seen pass mentions =
      (final, .ok done)) : resolver.visitEach document pass mentions = .ok done := by
  induction mentions generalizing reading seen pass with
  | nil => exact (Prod.mk.inj run).2
  | cons mention rest ih =>
    obtain ⟨next, link?, step⟩ := resolver.visit_succeeds document mention pass
    simp only [visitAll, step] at run
    split at run
    next => simp at run
    next =>
      rw [visitEach, step]
      exact ih _ _ next run

theorem resolve_succeeded (clock : Clock) (final : Document) (report : ResolutionReport)
    (run : resolver.resolve document clock = (final, .ok report)) :
    document.Sound ∧ ∃ done elapsed,
      resolver.visitEach document .initial (resolver.selector.select document) = .ok done ∧
      final = { document with relations := document.relations ++ done.links.map Link.relation } ∧
      report = reportOf (resolver.selector.select document) done elapsed := by
  have sound : document.Sound := by
    cases valid : document.validate with
    | error fault =>
      rw [resolver.resolve_of_invalid document clock fault valid] at run
      simp at run
    | ok => exact document.validate_eq_ok_iff.mp valid
  obtain ⟨effect, outcome⟩ := Prod.mk.inj (show _ = (final, _) from run)
  obtain ⟨done, elapsed, visits, linked, reported⟩ := resolver.resolveWith_succeeded document clock
    (fun seen _ => seen) () _ final report (Prod.ext effect (Prod.ext rfl outcome))
  exact ⟨sound, done, elapsed, resolver.visitEach_of_visitAll document clock _ 1 () _ .initial done _ visits,
    linked, reported⟩

end Run

end Resolver

/-- Relations stored a number of times behind those of a document. -/
def Document.storing (document : Document) (relations : List Relation) (times : Nat) : Document :=
  { document with relations := document.relations ++ (List.replicate times relations).flatten }

namespace Document

variable (document : Document) (relations : List Relation)

theorem storing_storing (times more : Nat) :
    (document.storing relations times).storing relations more =
      document.storing relations (times + more) := by
  simp only [storing, List.replicate_add, List.flatten_append, List.append_assoc]

theorem storing_one : document.storing relations 1 =
    { document with relations := document.relations ++ relations } := by
  simp [storing]

theorem storing_sound (times : Nat) (sound : (document.storing relations 1).Sound) :
    (document.storing relations times).Sound where
  tables := sound.tables
  identities := sound.identities
  spans := sound.spans
  endpoints relation present := by
    apply sound.endpoints relation
    simp only [storing, List.mem_append, List.mem_flatten, List.mem_replicate] at present ⊢
    grind

theorem ofRelations_storing (times : Nat)
    (fresh : ∀ relation ∈ document.relations, relation.kind ≠ Relation.coreferenceKind)
    (coreference : ∀ relation ∈ relations, relation.kind = Relation.coreferenceKind) :
    Cluster.ofRelations (document.storing relations (times + 1)) =
      relations.foldl Cluster.joinRelation [] := by
  have none : document.relations.filter (fun r => r.kind == Relation.coreferenceKind) = [] := by
    simpa using fresh
  have all : (List.replicate (times + 1) relations).flatten.filter
      (fun r => r.kind == Relation.coreferenceKind) =
        (List.replicate (times + 1) relations).flatten := by
    rw [List.filter_eq_self]
    intro relation present
    obtain ⟨copy, copied, present⟩ := List.mem_flatten.mp present
    rw [List.eq_of_mem_replicate copied] at present
    simpa using coreference relation present
  rw [Cluster.ofRelations, relationsOfKind, storing, List.filter_append, none, all, List.nil_append,
    List.replicate_succ, List.flatten_cons]
  apply Cluster.foldl_joinRelation_again
  intro relation present
  obtain ⟨copy, copied, present⟩ := List.mem_flatten.mp present
  rwa [List.eq_of_mem_replicate copied] at present

end Document

namespace Resolver

/-- Passes over a document one after another, with the reports of those that succeed. -/
def resolveAgain (resolver : Resolver) (document : Document) :
    List Clock → Document × List ResolutionReport
  | [] => (document, [])
  | clock :: rest =>
      let (next, outcome) := resolver.resolve document clock
      let (final, reports) := resolver.resolveAgain next rest
      (final, outcome.toOption.toList ++ reports)

variable (resolver : Resolver) (document : Document) (done : Pass)

theorem visitEach_storing (relations : List Relation) (times : Nat)
    (reads : ∀ feature ∈ resolver.features.features, feature.Local) :
    resolver.visitEach (document.storing relations times) .initial
        (resolver.selector.select document) =
      resolver.visitEach document .initial (resolver.selector.select document) :=
  resolver.visitEach_congr (document.storing relations times) document .initial [] _ reads
    (resolver.selector.select_ids_nodup document) .initial ⟨rfl, fun _ _ => rfl⟩

theorem storing_sound_of_covers (sound : document.Sound)
    (covers : done.Covers (resolver.selector.select document)) :
    (document.storing (done.links.map Link.relation) 1).Sound := by
  have accepted := resolver.addRelations_of_covers document done covers
  obtain ⟨added, _, endpoints, _, complete⟩ :=
    document.addRelations_spec (done.links.map Link.relation)
  obtain rfl := complete (by rw [accepted])
  rw [Document.storing_one]
  refine ⟨sound.tables, sound.identities, sound.spans, ?_⟩
  intro relation present
  rcases List.mem_append.mp present with old | new
  · exact sound.endpoints relation old
  · exact endpoints relation new

section Again

variable (reads : ∀ feature ∈ resolver.features.features, feature.Local)
  (sound : (document.storing (done.links.map Link.relation) 1).Sound)
  (run : resolver.visitEach document .initial (resolver.selector.select document) = .ok done)

include reads sound run

theorem resolve_storing (clock : Clock) (times : Nat) :
    (∃ e, resolver.limit ≠ none ∧
      resolver.resolve (document.storing (done.links.map Link.relation) times) clock =
        (document.storing (done.links.map Link.relation) times, .error e)) ∨
    ∃ elapsed, resolver.resolve (document.storing (done.links.map Link.relation) times) clock =
      (document.storing (done.links.map Link.relation) (times + 1),
        .ok (reportOf (resolver.selector.select document) done elapsed)) := by
  have visits := (resolver.visitEach_storing document (done.links.map Link.relation) times
    reads).trans run
  cases again : resolver.resolve (document.storing (done.links.map Link.relation) times) clock with
  | mk final outcome =>
    cases outcome with
    | error e =>
      have kept := resolver.resolve_keeps_document _ clock e (congrArg Prod.snd again)
      rw [again] at kept
      refine .inl ⟨e, ?_, by rw [← kept]⟩
      intro unlimited
      have valid := (Document.validate_eq_ok_iff _).mpr
        (document.storing_sound (done.links.map Link.relation) times sound)
      obtain ⟨elapsed, succeeded⟩ :=
        resolver.resolve_of_unlimited unlimited _ clock valid done visits
      simp [again] at succeeded
    | ok report =>
      obtain ⟨_, redone, elapsed, revisits, linked, reported⟩ :=
        resolver.resolve_succeeded _ clock final report again
      obtain rfl : done = redone := Except.ok.inj (visits.symm.trans revisits)
      refine .inr ⟨elapsed, ?_⟩
      rw [linked, reported, ← Document.storing_storing, Document.storing_one]
      rfl

theorem resolveAgain_storing (clocks : List Clock) (times : Nat) :
    ∃ reports,
      resolver.resolveAgain (document.storing (done.links.map Link.relation) times) clocks =
        (document.storing (done.links.map Link.relation) (times + reports.length), reports) ∧
      (∀ later ∈ reports, ∃ elapsed,
        later = reportOf (resolver.selector.select document) done elapsed) ∧
      (resolver.limit = none → reports.length = clocks.length) := by
  induction clocks generalizing times with
  | nil => exact ⟨[], rfl, by simp, fun _ => rfl⟩
  | cons clock rest ih =>
    obtain ⟨e, limited, failed⟩ | ⟨elapsed, succeeded⟩ :=
      resolver.resolve_storing document done reads sound run clock times
    · obtain ⟨reports, again, same, _⟩ := ih times
      refine ⟨reports, ?_, same, fun unlimited => absurd unlimited limited⟩
      simp only [resolveAgain, failed, again]
      rfl
    · obtain ⟨reports, again, same, all⟩ := ih (times + 1)
      refine ⟨reportOf (resolver.selector.select document) done elapsed :: reports, ?_, ?_, ?_⟩
      · simp only [resolveAgain, succeeded, again, List.length_cons, Nat.add_assoc,
          Nat.add_comm 1]
        rfl
      · intro later present
        rcases List.mem_cons.mp present with rfl | present
        · exact ⟨elapsed, rfl⟩
        · exact same later present
      · intro unlimited
        rw [List.length_cons, List.length_cons, all unlimited]

end Again

theorem Pass.mem_joined (visited : List Annotation) (covers : done.Covers visited)
    (gathers : done.Gathers) (cluster : Cluster) :
    cluster ∈ (done.links.map Link.head).eraseDups.map
        (Cluster.gathered (done.links.map Link.relation)) ↔
      cluster ∈ done.clusters ∧ 2 ≤ cluster.mentions.length := by
  simp only [List.mem_map, List.mem_eraseDups]
  constructor
  · rintro ⟨_, ⟨link, linked, rfl⟩, rfl⟩
    obtain ⟨cluster, found, headed, behind⟩ := covers.links link linked
    have present := List.mem_of_getElem? found
    rw [← headed, ← gathers cluster present]
    have positive := List.length_pos_of_mem behind
    rw [List.length_tail] at positive
    exact ⟨present, by omega⟩
  · rintro ⟨present, many⟩
    refine ⟨cluster.head, ?_, (gathers cluster present).symm⟩
    by_contra unlinked
    have unrelated : cluster.head ∉ (done.links.map Link.relation).map Relation.target := by
      rw [Link.targets]
      simpa using unlinked
    have alone := gathers cluster present
    rw [Cluster.gathered_of_unrelated _ _ unrelated] at alone
    rw [alone] at many
    simp [Cluster.single] at many

/-- The relations of the links make up the clusters that have links, in the order of the links. -/
theorem Pass.joined_links (visited : List Annotation) (covers : done.Covers visited)
    (distinct : (visited.map Annotation.id).Nodup) (gathers : done.Gathers) :
    ((done.links.map Link.relation).foldl Cluster.joinRelation []).Perm
        (done.clusters.filter fun cluster => 2 ≤ cluster.mentions.length) ∧
      ((done.links.map Link.relation).foldl Cluster.joinRelation []).Pairwise fun a b =>
        (done.links.map Link.head).idxOf a.head < (done.links.map Link.head).idxOf b.head := by
  rw [Cluster.foldl_joinRelation, Link.targets]
  have inOrder : ((done.links.map Link.head).eraseDups.map
      (Cluster.gathered (done.links.map Link.relation))).Pairwise fun a b =>
        (done.links.map Link.head).idxOf a.head < (done.links.map Link.head).idxOf b.head := by
    rw [List.pairwise_map]
    simpa using eraseDups_inOrder (done.links.map Link.head)
  refine ⟨(List.perm_ext_iff_of_nodup ?_ ?_).mpr fun cluster => ?_, inOrder⟩
  · exact inOrder.imp fun earlier same => by simp [same] at earlier
  · have heads := List.pairwise_map.mp (covers.heads_nodup distinct)
    exact (heads.imp fun differ same => differ (congrArg Cluster.head same)).filter _
  · rw [Pass.mem_joined done visited covers gathers cluster, List.mem_filter, decide_eq_true_iff]

/-- The relations that a pass stores tell its clusters with at least two mentions, in the order of
their first links. They tell the same when further passes store them again; a classifier knows only
of the pass that asks it, so that it answers those as it answered the first. -/
theorem resolve_stores_clusters (clock : Clock) (final : Document) (report : ResolutionReport)
    (fresh : ∀ relation ∈ document.relations, relation.kind ≠ Relation.coreferenceKind)
    (run : resolver.resolve document clock = (final, .ok report)) :
    (Cluster.ofRelations final).Perm
        (report.clusters.filter fun cluster => 2 ≤ cluster.mentions.length) ∧
      (Cluster.ofRelations final).Pairwise (fun a b =>
        (report.links.map Link.head).idxOf a.head < (report.links.map Link.head).idxOf b.head) ∧
      ∀ (categories : List String) (clocks : List Clock),
        (∀ feature ∈ resolver.features.features, feature ∈ Builtin.features categories) →
        ∃ last reports, resolver.resolveAgain final clocks = (last, reports) ∧
          (resolver.limit = none → reports.length = clocks.length) ∧
          (∀ later ∈ reports, later.untimed = report.untimed) ∧
          last = { document with
            relations := document.relations ++ (List.replicate (reports.length + 1)
              (report.links.map fun link => .coreference link.mention link.head)).flatten } ∧
          Cluster.ofRelations last = Cluster.ofRelations final := by
  obtain ⟨sound, done, elapsed, visits, rfl, rfl⟩ :=
    resolver.resolve_succeeded document clock final report run
  have distinct := resolver.selector.select_ids_nodup document
  obtain ⟨covered, covering, covers, _⟩ :=
    resolver.visitEach_covers document .initial [] _ distinct .initial
  obtain rfl : done = covered := Except.ok.inj (visits.symm.trans covering)
  have gathers := resolver.visitEach_gathers document [] _ .initial done .initial .initial distinct
    visits
  have kinds : ∀ relation ∈ done.links.map Link.relation,
      relation.kind = Relation.coreferenceKind := by
    intro relation present
    obtain ⟨link, _, rfl⟩ := List.mem_map.mp present
    rfl
  have told := fun times =>
    document.ofRelations_storing (done.links.map Link.relation) times fresh kinds
  have joined := done.joined_links _ covers distinct gathers
  rw [← Document.storing_one, told 0]
  refine ⟨joined.1, joined.2, fun categories clocks builtin => ?_⟩
  have reads := fun feature present =>
    Builtin.local_of_mem categories feature (builtin feature present)
  have storing := resolver.storing_sound_of_covers document done sound covers
  obtain ⟨reports, again, same, all⟩ :=
    resolver.resolveAgain_storing document done reads storing visits clocks 1
  refine ⟨_, reports, again, all, ?_, ?_, ?_⟩
  · intro later present
    obtain ⟨_, rfl⟩ := same later present
    rfl
  · rw [Nat.add_comm]
    rfl
  · rw [Nat.add_comm, told]

theorem threePersons_stores_cluster :
    ∃ last reports,
      acceptingLater.resolveAgain (acceptingLater.resolve threePersons (fun _ => 0)).1
        [fun _ => 0, fun _ => 0] = (last, reports) ∧
      reports.length = 2 ∧ Cluster.ofRelations last = [⟨2, [2, 0]⟩] := by
  have run : acceptingLater.resolve threePersons (fun _ => 0) =
      ({ threePersons with relations := [.ofKind 2 3 "lives in", .coreference 0 2] },
        .ok ⟨3, [⟨0, 2, 1, 3⟩], 2, 0, [⟨1, [1]⟩, ⟨2, [2, 0]⟩], 0⟩) := by
    decide +kernel
  obtain ⟨told, _, again⟩ := acceptingLater.resolve_stores_clusters threePersons (fun _ => 0) _ _
    (by decide) run
  obtain ⟨last, reports, passes, all, _, _, same⟩ := again [] [fun _ => 0, fun _ => 0]
    (by simp [acceptingLater, Builtin.features])
  rw [run]
  exact ⟨last, reports, passes, all rfl, same.trans (List.perm_singleton.mp told)⟩

end Resolver

end SpanAnnotation
