import Mathlib.Data.List.Basic
import SpanAnnotation.Feature.Builtin
import SpanAnnotation.Proofs.AntecedentChoice
import SpanAnnotation.Proofs.SpanRules
import SpanAnnotation.Proofs.TextOrder

/-!
What a pass has built after some of the mentions. Every mention visited so far is in one cluster,
where the mentions stand in text order behind the head, and every link leads from a mention to the
head of its cluster. Each visit keeps this, hence so does the whole pass.
-/

set_option autoImplicit false

namespace SpanAnnotation

namespace MentionSelector

variable (selector : MentionSelector) (document : Document)

theorem select_perm :
    (selector.select document).Perm
      (document.annotations.entries.filter fun a => selector.accepts a.category) :=
  List.Perm.filter _ <| Annotation.inOrder_perm document.annotations.entries

theorem select_ordered : Annotation.Ordered (selector.select document) :=
  List.Pairwise.filter _ document.annotationsInOrder_ordered

theorem mem_of_mem_select (a : Annotation) (selected : a ∈ selector.select document) :
    a ∈ document.annotations.entries :=
  (List.mem_filter.mp ((selector.select_perm document).mem_iff.mp selected)).1

theorem select_ids_nodup : ((selector.select document).map Annotation.id).Nodup := by
  have ids := (selector.select_perm document).map Annotation.id
  refine ids.nodup_iff.mpr (document.annotations.ids_nodup.sublist ?_)
  exact List.filter_sublist.map _

end MentionSelector

namespace Cluster

/-- The mentions are some of those visited, in the order of the visits, and the head comes first. -/
structure Follows (visited : List Annotation) (cluster : Cluster) : Prop where
  chronological : cluster.mentions.Sublist (visited.map Annotation.id)
  headed : cluster.mentions.head? = some cluster.head

theorem push_mentions (cluster : Cluster) (id : Nat) (new : id ∉ cluster.mentions) :
    (cluster.push id).mentions = cluster.mentions ++ [id] := by
  simp [push, contains, new]

@[simp] theorem push_head (cluster : Cluster) (id : Nat) :
    (cluster.push id).head = cluster.head := by
  unfold push
  split <;> rfl

theorem mem_tail_push (cluster : Cluster) (id mention : Nat)
    (present : mention ∈ cluster.mentions.tail) : mention ∈ (cluster.push id).mentions.tail := by
  unfold push
  split
  · exact present
  · cases known : cluster.mentions with
    | nil => simp [known] at present
    | cons first rest =>
      rw [known] at present
      simpa using Or.inl present

theorem single_follows (visited : List Annotation) (mention : Annotation) :
    (single mention.id).Follows (visited ++ [mention]) where
  chronological := by simp [single]
  headed := rfl

theorem Follows.later {visited : List Annotation} {cluster : Cluster}
    (follows : cluster.Follows visited) (mention : Annotation) :
    cluster.Follows (visited ++ [mention]) where
  chronological := by
    rw [List.map_append]
    exact follows.chronological.trans (List.sublist_append_left _ _)
  headed := follows.headed

theorem Follows.push {visited : List Annotation} {cluster : Cluster}
    (follows : cluster.Follows visited) (mention : Annotation)
    (new : mention.id ∉ visited.map Annotation.id) :
    (cluster.push mention.id).Follows (visited ++ [mention]) := by
  have absent : mention.id ∉ cluster.mentions := fun present =>
    new (follows.chronological.subset present)
  constructor
  · rw [push_mentions cluster mention.id absent, List.map_append]
    exact follows.chronological.append (List.Sublist.refl _)
  · rw [push_mentions cluster mention.id absent, push_head, List.head?_append, follows.headed]
    rfl

theorem Follows.members_eq {visited : List Annotation} {cluster : Cluster} (document : Document)
    (follows : cluster.Follows visited)
    (known : ∀ a ∈ visited, a ∈ document.annotations.entries) :
    (cluster.members document).Sublist visited ∧
      (cluster.members document).map Annotation.id = cluster.mentions := by
  obtain ⟨members, within, mentions⟩ := List.sublist_map_iff.mp follows.chronological
  have same : cluster.members document = members := by
    rw [Cluster.members, mentions]
    exact document.annotations.filterMap_find?_ids members fun a present =>
      known a (within.subset present)
  rw [same]
  exact ⟨within, mentions.symm⟩

end Cluster

theorem flatMap_modify_push (clusters : List Cluster) (place id : Nat) (cluster : Cluster)
    (known : clusters[place]? = some cluster) (new : id ∉ cluster.mentions) :
    ((clusters.modify place fun c => c.push id).flatMap Cluster.mentions).Perm
      (clusters.flatMap Cluster.mentions ++ [id]) := by
  induction clusters generalizing place with
  | nil => simp at known
  | cons first rest ih =>
    cases place with
    | zero =>
      obtain rfl : first = cluster := by simpa using known
      simp only [List.modify_zero_cons, List.flatMap_cons, Cluster.push_mentions first id new,
        List.append_assoc]
      exact List.Perm.append_left _ List.perm_append_comm
    | succ place =>
      simp only [List.modify_succ_cons, List.flatMap_cons, List.append_assoc]
      exact (ih place (by simpa using known)).append_left _

/-- The link leads from a mention behind the head of its cluster to that head. -/
def Link.Leads (clusters : List Cluster) (link : Link) : Prop :=
  ∃ cluster, clusters[link.cluster]? = some cluster ∧ cluster.head = link.head ∧
    link.mention ∈ cluster.mentions.tail

namespace Link.Leads

theorem append {clusters : List Cluster} {link : Link} (leads : link.Leads clusters)
    (more : List Cluster) : link.Leads (clusters ++ more) := by
  obtain ⟨cluster, known, headed⟩ := leads
  have within := (List.getElem?_eq_some_iff.mp known).1
  exact ⟨cluster, (List.getElem?_append_left within).trans known, headed⟩

theorem push {clusters : List Cluster} {link : Link} (leads : link.Leads clusters)
    (place id : Nat) : link.Leads (clusters.modify place fun c => c.push id) := by
  obtain ⟨cluster, known, headed, behind⟩ := leads
  by_cases here : place = link.cluster
  · refine ⟨cluster.push id, by simp [here, known], ?_, cluster.mem_tail_push id _ behind⟩
    rw [cluster.push_head, headed]
  · exact ⟨cluster, by simp [here, known], headed, behind⟩

theorem of_push {clusters : List Cluster} {link : Link} {cluster : Cluster}
    (known : clusters[link.cluster]? = some cluster) (headed : cluster.head = link.head)
    (new : link.mention ∉ cluster.mentions) (nonempty : cluster.mentions ≠ []) :
    link.Leads (clusters.modify link.cluster fun c => c.push link.mention) := by
  refine ⟨cluster.push link.mention, by simp [known], ?_, ?_⟩
  · rw [cluster.push_head, headed]
  · rw [cluster.push_mentions link.mention new, List.tail_append_of_ne_nil nonempty]
    exact List.mem_append_right _ (List.mem_singleton.mpr rfl)

end Link.Leads

namespace Resolver

/-- What holds of a pass after it has visited some mentions. -/
structure Pass.Covers (visited : List Annotation) (pass : Pass) : Prop where
  partition : (pass.clusters.flatMap Cluster.mentions).Perm (visited.map Annotation.id)
  counted : pass.clusters.length = pass.unresolved
  decided : pass.links.length + pass.unresolved = visited.length
  clusters : ∀ cluster ∈ pass.clusters, cluster.Follows visited
  links : ∀ link ∈ pass.links, link.Leads pass.clusters
  linkedOnce : (pass.links.map Link.mention).Sublist (visited.map Annotation.id)

namespace Pass.Covers

variable {visited : List Annotation} {pass : Pass}

theorem initial : Pass.initial.Covers [] where
  partition := List.Perm.refl _
  counted := rfl
  decided := rfl
  clusters := by simp [Pass.initial]
  links := by simp [Pass.initial]
  linkedOnce := List.Sublist.refl _

theorem answered (covers : pass.Covers visited) {answered : Pass}
    (answers : Answers pass answered) : answered.Covers visited where
  partition := by simpa [answers.clusters] using covers.partition
  counted := by simpa [answers.clusters, answers.unresolved] using covers.counted
  decided := by simpa [answers.links, answers.unresolved] using covers.decided
  clusters := by simpa [answers.clusters] using covers.clusters
  links := by simpa [answers.links, answers.clusters] using covers.links
  linkedOnce := by simpa [answers.links] using covers.linkedOnce

theorem openCluster (covers : pass.Covers visited) (mention : Annotation) :
    (pass.openCluster mention.id).Covers (visited ++ [mention]) where
  partition := by
    simp only [Pass.openCluster, List.flatMap_append, List.flatMap_singleton, List.map_append]
    exact covers.partition.append (List.Perm.refl _)
  counted := by simp [Pass.openCluster, covers.counted]
  decided := by
    have decided := covers.decided
    simp only [Pass.openCluster, List.length_append, List.length_singleton]
    omega
  clusters cluster present := by
    rcases List.mem_append.mp present with old | new
    · exact (covers.clusters cluster old).later mention
    · rw [List.mem_singleton.mp new]
      exact Cluster.single_follows visited mention
  links link present := (covers.links link present).append _
  linkedOnce := by
    rw [List.map_append]
    exact covers.linkedOnce.trans (List.sublist_append_left _ _)

/-- The mention joins a cluster; it must not have been visited before. -/
theorem join (covers : pass.Covers visited) (mention : Annotation)
    (new : mention.id ∉ visited.map Annotation.id) (link : Link) (cluster : Cluster)
    (named : link.mention = mention.id) (known : pass.clusters[link.cluster]? = some cluster)
    (headed : cluster.head = link.head) : (pass.join link).Covers (visited ++ [mention]) := by
  have follows := covers.clusters cluster (List.mem_of_getElem? known)
  have absent : link.mention ∉ cluster.mentions := fun present =>
    new (named ▸ follows.chronological.subset present)
  have nonempty : cluster.mentions ≠ [] := by
    intro empty
    simpa [empty] using follows.headed
  constructor
  case partition =>
    rw [List.map_append, List.map_singleton, ← named]
    exact (flatMap_modify_push _ _ _ cluster known absent).trans
      (covers.partition.append (List.Perm.refl _))
  case counted => simpa [Pass.join] using covers.counted
  case decided =>
    have decided := covers.decided
    simp only [Pass.join, List.length_append, List.length_singleton]
    omega
  case clusters =>
    intro changed present
    obtain ⟨place, found⟩ := List.mem_iff_getElem?.mp present
    rw [Pass.join, List.getElem?_modify, Option.map_eq_map, Option.map_eq_some_iff] at found
    obtain ⟨old, before, rfl⟩ := found
    have oldFollows := covers.clusters old (List.mem_of_getElem? before)
    split
    · rw [named]
      exact oldFollows.push mention new
    · exact oldFollows.later mention
  case links =>
    intro other present
    rcases List.mem_append.mp present with old | last
    · exact (covers.links other old).push _ _
    · rw [List.mem_singleton.mp last]
      exact .of_push known headed absent nonempty
  case linkedOnce =>
    rw [Pass.join, List.map_append, List.map_append, List.map_singleton, named]
    exact covers.linkedOnce.append (List.Sublist.refl _)

end Pass.Covers

section Run

variable (resolver : Resolver) (document : Document)

theorem visit_covers (visited : List Annotation) (mention : Annotation) (pass next : Pass)
    (link? : Option Link) (covers : pass.Covers visited)
    (new : mention.id ∉ visited.map Annotation.id)
    (step : resolver.visit document mention pass = .ok (next, link?)) :
    next.Covers (visited ++ [mention]) ∧ next.links = pass.links ++ link?.toList := by
  obtain ⟨answered, answers, opened | joined⟩ :=
    resolver.visit_cases document mention pass next link? step
  · obtain ⟨rfl, rfl⟩ := opened
    exact ⟨(covers.answered answers).openCluster mention, by simp [Pass.openCluster, answers.links]⟩
  · obtain ⟨link, cluster, rfl, rfl, named, known, headed⟩ := joined
    rw [← answers.clusters] at known
    exact ⟨(covers.answered answers).join mention new link cluster named known headed,
      by simp [Pass.join, answers.links]⟩

variable {σ : Type} (clock : Clock) (onLink : σ → Link → σ)

/-- A run keeps what holds of a pass; the observer has seen the links that the run has added. -/
theorem visitAll_covers (reading : Nat) (seen final : σ) (pass done : Pass)
    (visited rest : List Annotation) (distinct : ((visited ++ rest).map Annotation.id).Nodup)
    (covers : pass.Covers visited)
    (run : resolver.visitAll document clock onLink reading seen pass rest = (final, .ok done)) :
    done.Covers (visited ++ rest) ∧
      ∃ added, done.links = pass.links ++ added ∧ final = added.foldl onLink seen := by
  induction rest generalizing reading seen pass visited with
  | nil =>
    obtain ⟨rfl, rfl⟩ : seen = final ∧ pass = done := by simpa [visitAll] using run
    exact ⟨by simpa using covers, [], by simp, rfl⟩
  | cons mention rest ih =>
    have new : mention.id ∉ visited.map Annotation.id := by
      intro old
      rw [List.map_append, List.map_cons] at distinct
      exact (List.nodup_append.mp distinct).2.2 _ old _ (by simp) rfl
    obtain ⟨next, link?, step⟩ := resolver.visit_succeeds document mention pass
    obtain ⟨stepCovers, stepLinks⟩ :=
      resolver.visit_covers document visited mention pass next link? covers new step
    -- The mention moves from those to come to the end of those visited.
    rw [List.append_cons] at distinct ⊢
    simp only [visitAll, step] at run
    split at run
    · simp at run
    · obtain ⟨runCovers, added, links, observed⟩ := ih _ _ _ _ distinct stepCovers run
      refine ⟨runCovers, link?.toList ++ added, by rw [links, stepLinks, List.append_assoc], ?_⟩
      rw [observed]
      cases link? <;> rfl

theorem visitAll_append (reading : Nat) (seen : σ) (pass : Pass) (before after : List Annotation) :
    resolver.visitAll document clock onLink reading seen pass (before ++ after) =
      match resolver.visitAll document clock onLink reading seen pass before with
      | (partway, .error e) => (partway, .error e)
      | (partway, .ok reached) =>
          resolver.visitAll document clock onLink (reading + before.length) partway reached
            after := by
  induction before generalizing reading seen pass with
  | nil => simp [visitAll]
  | cons mention rest ih =>
    simp only [List.cons_append, visitAll, List.length_cons]
    split
    · rfl
    · obtain ⟨next, link?, step⟩ := resolver.visit_succeeds document mention pass
      simp only [step, ih, Nat.add_comm rest.length 1, Nat.add_assoc]

theorem resolveWith_succeeded (start seen : σ) (final : Document) (report : ResolutionReport)
    (run : resolver.resolveWith document clock onLink start = (final, seen, .ok report)) :
    ∃ pass elapsed,
      resolver.visitAll document clock onLink 1 start .initial
          (resolver.selector.select document) = (seen, .ok pass) ∧
        final =
          { document with relations := document.relations ++ pass.links.map Link.relation } ∧
        report = reportOf (resolver.selector.select document) pass elapsed := by
  unfold resolveWith at run
  split at run
  next => simp at run
  next =>
    dsimp only at run
    split at run
    next => simp at run
    next partway pass visits =>
      obtain ⟨added, _, _, effect, complete⟩ :=
        document.addRelations_spec (pass.links.map Link.relation)
      split at run
      next => simp at run
      next resolved linked =>
        obtain ⟨rfl, rfl, rfl⟩ : resolved = final ∧ partway = seen ∧ reportOf _ _ _ = report := by
          simpa using run
        obtain rfl := complete (by rw [linked])
        exact ⟨pass, _, visits, by rw [← effect, linked], rfl⟩

theorem visitAll_select_covers (start seen : σ) (pass : Pass)
    (visits : resolver.visitAll document clock onLink 1 start .initial
      (resolver.selector.select document) = (seen, .ok pass)) :
    pass.Covers (resolver.selector.select document) ∧ seen = pass.links.foldl onLink start := by
  obtain ⟨covers, added, links, observed⟩ := resolver.visitAll_covers document clock onLink 1
    start seen .initial pass [] _ (resolver.selector.select_ids_nodup document) .initial visits
  have all : pass.links = added := by simpa [Pass.initial] using links
  exact ⟨covers, all ▸ observed⟩

theorem head_precedes (visited : List Annotation) (cluster : Cluster) (mention : Nat)
    (known : ∀ a ∈ visited, a ∈ document.annotations.entries)
    (ordered : Annotation.Ordered visited) (follows : cluster.Follows visited)
    (behind : mention ∈ cluster.mentions.tail) :
    ∃ head a, document.find? cluster.head = some head ∧ document.find? mention = some a ∧
      head.precedes a = true := by
  obtain ⟨within, ids⟩ := follows.members_eq document known
  have chronological := ordered.sublist within
  have found : ∀ a ∈ cluster.members document, document.find? a.id = some a := fun a present =>
    document.annotations.find?_of_mem (known a (within.subset present))
  have headed := follows.headed
  rw [← ids] at behind headed
  cases members : cluster.members document with
  | nil => simp [members] at headed
  | cons head rest =>
    rw [members] at chronological found behind headed
    obtain ⟨a, inRest, rfl⟩ := List.mem_map.mp behind
    have first : head.id = cluster.head := by simpa using headed
    exact ⟨head, a, first ▸ found head (by simp), found a (List.mem_cons_of_mem _ inRest),
      (List.pairwise_cons.mp chronological).1 a inRest⟩

/-- A pass that succeeds partitions the selected mentions into clusters in text order, links all
but the heads to the head of their cluster, and adds one relation for each link. -/
theorem resolveWith_partitions_mentions (start seen : σ) (final : Document)
    (report : ResolutionReport)
    (run : resolver.resolveWith document clock onLink start = (final, seen, .ok report)) :
    report.mentions = document.annotations.entries.countP
        (fun a => resolver.selector.accepts a.category) ∧
      report.links.length + report.unresolved = report.mentions ∧
      report.clusters.length = report.unresolved ∧
      (report.clusters.flatMap Cluster.mentions).Nodup ∧
      (report.clusters.flatMap Cluster.mentions).Perm
        ((document.annotations.entries.filter
          fun a => resolver.selector.accepts a.category).map Annotation.id) ∧
      (∀ cluster ∈ report.clusters,
        (cluster.members document).map Annotation.id = cluster.mentions ∧
          Annotation.Ordered (cluster.members document) ∧
          cluster.mentions.head? = some cluster.head) ∧
      (∀ link ∈ report.links,
        (∃ cluster, report.clusters[link.cluster]? = some cluster ∧
          cluster.head = link.head ∧ link.mention ∈ cluster.mentions) ∧
        link.mention ≠ link.head ∧
        ∃ head mention, document.find? link.head = some head ∧
          document.find? link.mention = some mention ∧ head.precedes mention = true) ∧
      (report.links.map Link.mention).Nodup ∧
      final = { document with
        relations := document.relations ++
          report.links.map fun link => .coreference link.mention link.head } ∧
      seen = report.links.foldl onLink start := by
  obtain ⟨pass, elapsed, visits, rfl, rfl⟩ :=
    resolver.resolveWith_succeeded document clock onLink start seen final report run
  obtain ⟨covers, observed⟩ :=
    resolver.visitAll_select_covers document clock onLink start seen pass visits
  have perm := resolver.selector.select_perm document
  have distinct := resolver.selector.select_ids_nodup document
  have ordered := resolver.selector.select_ordered document
  have known := resolver.selector.mem_of_mem_select document
  refine ⟨?_, covers.decided, covers.counted, covers.partition.nodup_iff.mpr distinct,
    covers.partition.trans (perm.map _), ?_, ?_, distinct.sublist covers.linkedOnce, rfl, observed⟩
  · rw [List.countP_eq_length_filter]
    exact perm.length_eq
  · intro cluster present
    have follows := covers.clusters cluster present
    obtain ⟨within, ids⟩ := follows.members_eq document known
    exact ⟨ids, ordered.sublist within, follows.headed⟩
  · intro link present
    obtain ⟨cluster, found, headed, behind⟩ := covers.links link present
    have follows := covers.clusters cluster (List.mem_of_getElem? found)
    obtain ⟨head, mention, headFound, mentionFound, before⟩ :=
      head_precedes document _ cluster link.mention known ordered follows behind
    refine ⟨⟨cluster, found, headed, List.mem_of_mem_tail behind⟩, ?_, head, mention,
      headed ▸ headFound, mentionFound, before⟩
    intro same
    rw [headed, ← same, mentionFound] at headFound
    cases headFound
    simp [head.precedes_irrefl] at before

end Run

/-- Three persons and a place; the persons stand two and three tokens apart. -/
def threePersons : Document :=
  { Document.ofSentences "d"
      [⟨"s1", ["Jan", "zna", "Piotra", ",", "Lublin", "go"].map fun orth =>
        Token.ofOrth orth 0, .empty 6⟩] with
    annotations :=
      ⟨[⟨0, 0, 5, 5, "PERSON", none, 0, ""⟩, ⟨1, 0, 0, 0, "PERSON", none, 0, ""⟩,
        ⟨2, 0, 2, 2, "PERSON", none, 0, ""⟩, ⟨3, 0, 4, 4, "PLACE", none, 0, ""⟩], by decide⟩
    relations := [.ofKind 2 3 "lives in"]
    nextId := 4 }

/-- The classifier refuses at the first question and accepts every cluster at later ones. -/
def acceptingLater : Resolver where
  selector := (MentionSelector.ofPatterns ["PERSON"]).toOption.getD ⟨[]⟩
  features := ⟨.clusterMention, [Builtin.clusterSize], by decide⟩
  classifier asked batch := .ok (batch.map fun _ => if asked.isEmpty then 0 else 1)
  limit := none
  input := rfl

theorem resolveWith_partitions_threePersons :
    acceptingLater.resolveWith threePersons (fun _ => 0) (fun seen link => seen ++ [link]) [] =
      ({ threePersons with relations := [.ofKind 2 3 "lives in", .coreference 0 2] },
        [⟨0, 2, 1, 3⟩], .ok ⟨3, [⟨0, 2, 1, 3⟩], 2, 0, [⟨1, [1]⟩, ⟨2, [2, 0]⟩], 0⟩) ∧
      [1, 2, 0].Perm ((threePersons.annotations.entries.filter fun a =>
        acceptingLater.selector.accepts a.category).map Annotation.id) := by
  have run : acceptingLater.resolveWith threePersons (fun _ => 0)
      (fun seen link => seen ++ [link]) [] =
        ({ threePersons with relations := [.ofKind 2 3 "lives in", .coreference 0 2] },
          [⟨0, 2, 1, 3⟩], .ok ⟨3, [⟨0, 2, 1, 3⟩], 2, 0, [⟨1, [1]⟩, ⟨2, [2, 0]⟩], 0⟩) := by
    decide +kernel
  exact ⟨run, (resolveWith_partitions_mentions acceptingLater threePersons _ _ _ _ _ _
    run).2.2.2.2.1⟩

end Resolver

end SpanAnnotation
