import SpanAnnotation.Proofs.CoreferencePass

/-!
What a mention is linked to during a pass. The clusters found so far all end with a mention that
stands earlier in the text, so that the last mention to join a cluster decides how near it is. The
nearest accepted cluster is chosen, and of equally near ones the oldest.
-/

set_option autoImplicit false

namespace SpanAnnotation

def Cluster.latestMember? (cluster : Cluster) (document : Document) : Option Annotation :=
  cluster.mentions.getLast?.bind document.find?

namespace Resolver

def Pass.distance? (pass : Pass) (document : Document) (mention : Annotation) (place : Nat) :
    Option Nat :=
  (pass.clusters[place]?).bind fun cluster =>
    (cluster.latestMember? document).map fun latest => document.distance latest mention

variable (document : Document) (mention : Annotation)

theorem closestPreceding?_eq_latestMember? (visited : List Annotation) (cluster : Cluster)
    (known : ∀ a ∈ visited, a ∈ document.annotations.entries)
    (ordered : Annotation.Ordered visited) (earlier : ∀ a ∈ visited, a.precedes mention = true)
    (follows : cluster.Follows visited) :
    ∃ latest, cluster.latestMember? document = some latest ∧ latest.precedes mention = true ∧
      cluster.closestPreceding? document mention = some latest := by
  obtain ⟨within, ids⟩ := follows.members_eq document known
  have chronological := ordered.sublist within
  have all : (cluster.members document).filter (fun a => a.precedes mention) =
      cluster.members document :=
    List.filter_eq_self.mpr fun a present => earlier a (within.subset present)
  obtain empty | ⟨before, latest, members⟩ := List.eq_nil_or_concat (cluster.members document)
  · have headed := follows.headed
    simp [← ids, empty] at headed
  · rw [List.concat_eq_append] at members
    rw [members] at chronological all
    have last : latest ∈ visited := within.subset (by simp [members])
    refine ⟨latest, ?_, earlier latest last, ?_⟩
    · have found : document.find? latest.id = some latest :=
        document.annotations.find?_of_mem (known latest last)
      simpa [Cluster.latestMember?, ← ids, members] using found
    · rw [Cluster.closestPreceding?, members, all]
      refine Annotation.latest?_append_last before latest fun a present => ?_
      exact (List.pairwise_append.mp chronological).2.2 a present latest (by simp)

/-- Every cluster has an earlier mention, and the closest of them is the one that it was last
given. -/
def Pass.Preceded (pass : Pass) : Prop :=
  ∀ cluster ∈ pass.clusters, ∃ latest, cluster.latestMember? document = some latest ∧
    latest.precedes mention = true ∧ cluster.closestPreceding? document mention = some latest

theorem mem_candidates_iff (pass : Pass) (labels : List Int)
    (preceded : pass.Preceded document mention) (candidate : Candidate) :
    candidate ∈ candidates document mention pass.clusters labels ↔
      Accepts labels candidate.cluster ∧
        pass.distance? document mention candidate.cluster = some candidate.distance := by
  simp only [candidates, mem_candidatesFrom, Pass.distance?, Option.bind_eq_some_iff,
    Option.map_eq_some_iff]
  constructor
  · rintro ⟨place, cluster, closest, known, accepted, found, rfl⟩
    obtain ⟨latest, last, _, same⟩ := preceded cluster (List.mem_of_getElem? known)
    obtain rfl : closest = latest := Option.some.inj (found.symm.trans same)
    rw [Nat.zero_add]
    exact ⟨accepted, cluster, known, closest, last, rfl⟩
  · rintro ⟨accepted, cluster, known, latest, last, distance⟩
    obtain ⟨closest, same, _, found⟩ := preceded cluster (List.mem_of_getElem? known)
    obtain rfl : latest = closest := Option.some.inj (last.symm.trans same)
    exact ⟨candidate.cluster, cluster, latest, known, accepted, found, by
      rw [Nat.zero_add, distance]⟩

theorem exists_candidate_iff (pass : Pass) (labels : List Int)
    (preceded : pass.Preceded document mention) (sized : labels.length = pass.clusters.length) :
    (∃ candidate, candidate ∈ candidates document mention pass.clusters labels) ↔
      ∃ label ∈ labels, 0 < label := by
  rw [← exists_accepts_iff]
  constructor
  · rintro ⟨candidate, present⟩
    exact ⟨_, ((mem_candidates_iff document mention pass labels preceded candidate).mp present).1⟩
  · rintro ⟨place, accepted⟩
    obtain ⟨label, found, _⟩ := id accepted
    have bound : place < pass.clusters.length := sized ▸ (List.getElem?_eq_some_iff.mp found).1
    have known := List.getElem?_eq_getElem bound
    obtain ⟨latest, last, _⟩ := preceded _ (List.mem_of_getElem? known)
    refine ⟨⟨place, document.distance latest mention⟩, ?_⟩
    rw [mem_candidates_iff document mention pass labels preceded]
    exact ⟨accepted, by simp [Pass.distance?, known, last]⟩

variable (resolver : Resolver)

theorem visit_of_labels (pass next : Pass) (link? : Option Link) (vectors : List FeatureVector)
    (labels : List Int) (preceded : pass.Preceded document mention)
    (extracted : resolver.features.extractAll document
      (pass.clusters.map fun cluster => .clusterMention mention cluster) = .ok vectors)
    (complete : vectors.length = pass.clusters.length)
    (labelled : resolver.classifier pass.asked vectors = .ok labels)
    (sized : labels.length = pass.clusters.length)
    (step : resolver.visit document mention pass = .ok (next, link?)) :
    (link?.isSome = true ↔ ∃ label ∈ labels, 0 < label) ∧
      ∀ link, link? = some link →
        link.mention = mention.id ∧
          (∃ cluster, pass.clusters[link.cluster]? = some cluster ∧ cluster.head = link.head) ∧
          Accepts labels link.cluster ∧
          pass.distance? document mention link.cluster = some link.distance ∧
          ∀ other distance, Accepts labels other →
            pass.distance? document mention other = some distance →
              link.distance ≤ distance ∧ (other < link.cluster → link.distance < distance) := by
  have isCandidate := mem_candidates_iff document mention pass labels preceded
  rw [← exists_candidate_iff document mention pass labels preceded sized]
  obtain ⟨answered, answers, chosen⟩ := resolver.choose_of_labels document mention pass vectors
    labels extracted labelled (sized.trans complete.symm)
  rw [resolver.visit_of_choice document mention pass answered _ chosen] at step
  cases choice : nearest? (candidates document mention pass.clusters labels) with
  | none =>
    rw [nearest?_eq_none_iff] at choice
    simp only [choice, nearest?, Option.bind_none, Except.ok.injEq, Prod.mk.injEq] at step
    simp [← step.2, choice]
  | some best =>
    obtain ⟨present, nearest, oldest⟩ := nearest?_isNearest _ best
      (candidatesFrom_numbered document mention 0 pass.clusters labels) choice
    obtain ⟨accepted, distance⟩ := (isCandidate best).mp present
    obtain ⟨cluster, known, _⟩ := Option.bind_eq_some_iff.mp distance
    have joined : answered.link? mention.id best =
        some ⟨mention.id, cluster.head, best.cluster, best.distance⟩ :=
      (answered.link?_eq_some_iff _ _ _).mpr ⟨cluster, by rw [answers.clusters, known], rfl⟩
    simp only [choice, Option.bind_some, joined, Except.ok.injEq, Prod.mk.injEq] at step
    rw [← step.2]
    refine ⟨iff_of_true rfl ⟨best, present⟩, ?_⟩
    rintro _ ⟨⟩
    refine ⟨rfl, ⟨cluster, known, rfl⟩, accepted, distance, ?_⟩
    intro other far otherAccepted otherFar
    have rival := (isCandidate ⟨other, far⟩).mpr ⟨otherAccepted, otherFar⟩
    exact ⟨nearest _ rival, oldest _ rival⟩

/-- A pass has visited the selected mentions before a mention and comes to that next. -/
structure Reaches {σ : Type} (clock : Clock) (onLink : σ → Link → σ) (start seen : σ)
    (before after : List Annotation) (pass : Pass) : Prop where
  order : resolver.selector.select document = before ++ mention :: after
  visits : resolver.visitAll document clock onLink 1 start .initial before = (seen, .ok pass)

namespace Reaches

variable {σ : Type} {clock : Clock} {onLink : σ → Link → σ} {start seen : σ}
  {before after : List Annotation} {pass : Pass} {document mention resolver}
  (reaches : Reaches document mention resolver clock onLink start seen before after pass)

include reaches

theorem ids_nodup : (((before ++ [mention]) ++ after).map Annotation.id).Nodup := by
  have distinct := resolver.selector.select_ids_nodup document
  rwa [reaches.order, List.append_cons] at distinct

theorem new : mention.id ∉ before.map Annotation.id := by
  have distinct := reaches.ids_nodup
  rw [List.append_assoc, List.map_append] at distinct
  intro old
  exact (List.nodup_append.mp distinct).2.2 _ old _ (by simp) rfl

theorem covers : pass.Covers before := by
  have distinct := reaches.ids_nodup
  rw [List.append_assoc, List.map_append] at distinct
  exact (resolver.visitAll_covers document clock onLink 1 start seen .initial pass [] before
    (List.nodup_append.mp distinct).1 .initial reaches.visits).1

theorem preceded : pass.Preceded document mention := by
  have ordered := resolver.selector.select_ordered document
  rw [reaches.order] at ordered
  obtain ⟨beforeOrdered, _, earlier⟩ := List.pairwise_append.mp ordered
  have known : ∀ a ∈ before, a ∈ document.annotations.entries := fun a present =>
    resolver.selector.mem_of_mem_select document a (by simp [reaches.order, present])
  intro cluster present
  exact closestPreceding?_eq_latestMember? document mention before cluster known beforeOrdered
    (fun a visited => earlier a visited mention (by simp)) (reaches.covers.clusters cluster present)

/-- The links of a report are those made before a mention, the link of the mention if there is one,
and those made later. -/
theorem report_links (observed : σ) (next : Pass) (link? : Option Link) (final : Document)
    (report : ResolutionReport)
    (step : resolver.visit document mention pass = .ok (next, link?))
    (run : resolver.resolveWith document clock onLink start = (final, observed, .ok report)) :
    ∃ later, report.links = pass.links ++ link?.toList ++ later := by
  obtain ⟨stepCovers, stepLinks⟩ := resolver.visit_covers document before mention pass next link?
    reaches.covers reaches.new step
  obtain ⟨done, elapsed, visits, _, rfl⟩ :=
    resolver.resolveWith_succeeded document clock onLink start observed final report run
  rw [reaches.order, visitAll_append, reaches.visits] at visits
  simp only [visitAll, step] at visits
  split at visits
  · simp at visits
  · obtain ⟨_, later, links, _⟩ := resolver.visitAll_covers document clock onLink _ _ observed next
      done (before ++ [mention]) after reaches.ids_nodup stepCovers visits
    exact ⟨later, by rw [← stepLinks]; exact links⟩

end Reaches

/-- At every mention that a pass comes to, each cluster has an earlier mention, the last that it was
given. If the classifier labels every cluster, the mention is linked exactly when some label is
positive, namely to the nearest accepted cluster and of equally near ones to the oldest, and this is
the link that the report gives for it. -/
theorem visit_links_nearest_oldest {σ : Type} (clock : Clock) (onLink : σ → Link → σ)
    (start seen : σ) (pass : Pass) (before after : List Annotation)
    (order : resolver.selector.select document = before ++ mention :: after)
    (reached : resolver.visitAll document clock onLink 1 start .initial before =
      (seen, .ok pass)) :
    pass.Preceded document mention ∧
      ∃ vectors next link?,
        resolver.features.extractAll document
            (pass.clusters.map fun cluster => .clusterMention mention cluster) = .ok vectors ∧
        vectors.length = pass.clusters.length ∧
        resolver.visit document mention pass = .ok (next, link?) ∧
        next.links = pass.links ++ link?.toList ∧
        (∀ final observed report,
          resolver.resolveWith document clock onLink start = (final, observed, .ok report) →
            ∃ later, report.links = pass.links ++ link?.toList ++ later) ∧
        ∀ labels, resolver.classifier pass.asked vectors = .ok labels →
          labels.length = pass.clusters.length →
            (link?.isSome = true ↔ ∃ label ∈ labels, 0 < label) ∧
            ∀ link, link? = some link →
              link.mention = mention.id ∧
                (∃ cluster, pass.clusters[link.cluster]? = some cluster ∧
                  cluster.head = link.head) ∧
                Accepts labels link.cluster ∧
                pass.distance? document mention link.cluster = some link.distance ∧
                ∀ other distance, Accepts labels other →
                  pass.distance? document mention other = some distance →
                    link.distance ≤ distance ∧
                      (other < link.cluster → link.distance < distance) := by
  have reaches : Reaches document mention resolver clock onLink start seen before after pass :=
    ⟨order, reached⟩
  obtain ⟨vectors, extracted, complete⟩ :=
    resolver.extractAll_clusters_succeeds document mention pass
  obtain ⟨next, link?, step⟩ := resolver.visit_succeeds document mention pass
  have links := (resolver.visit_covers document before mention pass next link? reaches.covers
    reaches.new step).2
  refine ⟨reaches.preceded, vectors, next, link?, extracted, complete, step, links, ?_, ?_⟩
  · intro final observed report run
    exact reaches.report_links observed next link? final report step run
  · intro labels labelled sized
    exact visit_of_labels document mention resolver pass next link? vectors labels
      reaches.preceded extracted complete labelled sized step

/-- The last person is three tokens from the second and five from the first. -/
theorem visit_links_last_of_threePersons :
    ∃ next link,
      acceptingLater.visit threePersons ⟨0, 0, 5, 5, "PERSON", none, 0, ""⟩
          ⟨[⟨1, [1]⟩, ⟨2, [2]⟩], [], 2, 0,
            [[⟨[⟨"clustermention_cluster_size", .int, .int 1⟩]⟩]]⟩ = .ok (next, some link) ∧
        link.cluster = 1 ∧ link.distance = 3 := by
  have order : acceptingLater.selector.select threePersons =
      [⟨1, 0, 0, 0, "PERSON", none, 0, ""⟩, ⟨2, 0, 2, 2, "PERSON", none, 0, ""⟩] ++
        ⟨0, 0, 5, 5, "PERSON", none, 0, ""⟩ :: [] := by decide +kernel
  obtain ⟨_, vectors, next, link?, extracted, _, step, _, _, exactly⟩ :=
    visit_links_nearest_oldest threePersons _ acceptingLater (fun _ => 0)
      (fun (seen : List Link) link => seen ++ [link]) [] [] _ _ _ order rfl
  cases extracted
  obtain ⟨linked, choice⟩ := exactly [1, 1] rfl rfl
  obtain ⟨link, rfl⟩ := Option.isSome_iff_exists.mp (linked.mpr (by decide))
  obtain ⟨_, _, ⟨label, accepted, _⟩, distance, least⟩ := choice link rfl
  have near := (least 1 3 ⟨1, rfl, by decide⟩ (by decide)).1
  have bound : link.cluster < 2 := (List.getElem?_eq_some_iff.mp accepted).1
  have notFirst : link.cluster ≠ 0 := by
    intro first
    have far : some 5 = some link.distance := by
      rw [first] at distance
      exact distance
    have := Option.some.inj far
    omega
  have second : link.cluster = 1 := by omega
  refine ⟨next, link, step, second, ?_⟩
  rw [second] at distance
  exact (Option.some.inj distance).symm

end Resolver

end SpanAnnotation
