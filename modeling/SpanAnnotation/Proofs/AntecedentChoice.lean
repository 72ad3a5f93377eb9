import SpanAnnotation.Coreference
import SpanAnnotation.Proofs.FeatureExtraction

/-!
The choice of an antecedent. Among the clusters that the classifier accepts the nearest is chosen,
and of equally near ones the oldest. A mention that is asked about is never refused an answer:
errors of the classifier only leave it without a choice.
-/

set_option autoImplicit false

namespace SpanAnnotation.Resolver

/-- A nearest candidate, and the oldest of those. -/
structure IsNearest (list : List Candidate) (best : Candidate) : Prop where
  present : best ∈ list
  nearest : ∀ other ∈ list, best.distance ≤ other.distance
  oldest : ∀ other ∈ list, other.cluster < best.cluster → best.distance < other.distance

theorem nearest?_isNearest (list : List Candidate) (best : Candidate)
    (numbered : list.Pairwise fun a b => a.cluster < b.cluster)
    (found : nearest? list = some best) : IsNearest list best := by
  induction list generalizing best with
  | nil => simp [nearest?] at found
  | cons candidate rest ih =>
    obtain ⟨below, tail⟩ := List.pairwise_cons.mp numbered
    simp only [nearest?] at found
    split at found
    next alone =>
      rw [nearest?_eq_none_iff] at alone
      cases found
      subst alone
      exact ⟨by simp, by simp, by simp⟩
    next later chosen =>
      obtain ⟨present, nearest, oldest⟩ := ih later tail chosen
      split at found
      next near =>
        cases found
        refine ⟨by simp, ?_, ?_⟩
        · intro other member
          rcases List.mem_cons.mp member with rfl | member
          · exact Nat.le_refl _
          · exact Nat.le_trans near (nearest other member)
        · intro other member older
          rcases List.mem_cons.mp member with rfl | member
          · exact absurd older (Nat.lt_irrefl _)
          · exact absurd older (Nat.lt_asymm (below other member))
      next far =>
        cases found
        rw [Nat.not_le] at far
        refine ⟨List.mem_cons_of_mem _ present, ?_, ?_⟩
        · intro other member
          rcases List.mem_cons.mp member with rfl | member
          · exact Nat.le_of_lt far
          · exact nearest other member
        · intro other member older
          rcases List.mem_cons.mp member with rfl | member
          · exact far
          · exact oldest other member older

def Accepts (labels : List Int) (place : Nat) : Prop :=
  ∃ label, labels[place]? = some label ∧ 0 < label

@[simp] theorem not_accepts_nil (place : Nat) : ¬ Accepts [] place := by simp [Accepts]

@[simp] theorem accepts_cons_zero (label : Int) (labels : List Int) :
    Accepts (label :: labels) 0 ↔ 0 < label := by simp [Accepts]

@[simp] theorem accepts_cons_succ (label : Int) (labels : List Int) (place : Nat) :
    Accepts (label :: labels) (place + 1) ↔ Accepts labels place := by simp [Accepts]

theorem exists_accepts_iff (labels : List Int) :
    (∃ place, Accepts labels place) ↔ ∃ label ∈ labels, 0 < label := by
  simp only [Accepts, List.mem_iff_getElem?]
  constructor
  · rintro ⟨place, label, found, positive⟩
    exact ⟨label, ⟨place, found⟩, positive⟩
  · rintro ⟨label, ⟨place, found⟩, positive⟩
    exact ⟨place, label, found, positive⟩

section Candidates

variable (document : Document) (mention : Annotation)

theorem mem_candidatesFrom (index : Nat) (clusters : List Cluster) (labels : List Int)
    (candidate : Candidate) :
    candidate ∈ candidatesFrom document mention index clusters labels ↔
      ∃ place cluster closest, clusters[place]? = some cluster ∧ Accepts labels place ∧
        cluster.closestPreceding? document mention = some closest ∧
          candidate = ⟨index + place, document.distance closest mention⟩ := by
  induction clusters generalizing index labels with
  | nil => simp [candidatesFrom]
  | cons first clusters ih =>
    cases labels with
    | nil => simp [candidatesFrom]
    | cons label labels =>
      -- The first cluster is a candidate of its own; a later one is one place further on.
      have headOrLater : candidate ∈ candidatesFrom document mention index (first :: clusters)
            (label :: labels) ↔
          (0 < label ∧ ∃ closest, first.closestPreceding? document mention = some closest ∧
            candidate = ⟨index, document.distance closest mention⟩) ∨
          candidate ∈ candidatesFrom document mention (index + 1) clusters labels := by
        simp only [candidatesFrom, isAccepted, decide_eq_true_eq]
        split
        next accepted =>
          split <;> simp_all
        next refused => simp [refused]
      rw [headOrLater, ih]
      constructor
      · rintro (⟨accepted, closest, found, rfl⟩ | ⟨place, cluster, closest, known, accepted, found⟩)
        · exact ⟨0, first, closest, rfl, by simpa using accepted, found, rfl⟩
        · exact ⟨place + 1, cluster, closest, by simpa using known, by simpa using accepted,
            found.1, by rw [found.2, Nat.add_right_comm, Nat.add_assoc]⟩
      · rintro ⟨place, cluster, closest, known, accepted, found, rfl⟩
        cases place with
        | zero =>
          obtain rfl : first = cluster := by simpa using known
          exact .inl ⟨by simpa using accepted, closest, found, rfl⟩
        | succ place =>
          exact .inr ⟨place, cluster, closest, by simpa using known, by simpa using accepted,
            found, by rw [Nat.add_right_comm, Nat.add_assoc]⟩

theorem candidatesFrom_numbered (index : Nat) (clusters : List Cluster) (labels : List Int) :
    (candidatesFrom document mention index clusters labels).Pairwise
      fun a b => a.cluster < b.cluster := by
  induction clusters generalizing index labels with
  | nil => simp [candidatesFrom]
  | cons first clusters ih =>
    cases labels with
    | nil => simp [candidatesFrom]
    | cons label labels =>
      have rest := ih (index + 1) labels
      simp only [candidatesFrom]
      split
      · split
        · refine List.pairwise_cons.mpr ⟨?_, rest⟩
          intro candidate present
          obtain ⟨place, _, _, _, _, _, rfl⟩ :=
            (mem_candidatesFrom document mention (index + 1) clusters labels candidate).mp present
          show index < index + 1 + place
          omega
        · exact rest
      · exact rest

end Candidates

section Visit

variable (resolver : Resolver) (document : Document) (mention : Annotation) (pass : Pass)

theorem extractAll_clusters_succeeds :
    ∃ vectors,
      resolver.features.extractAll document
          (pass.clusters.map fun cluster => .clusterMention mention cluster) = .ok vectors ∧
        vectors.length = pass.clusters.length := by
  obtain ⟨vectors, extracted, sized⟩ := resolver.features.extractAll_succeeds document
    (pass.clusters.map fun cluster => .clusterMention mention cluster) (by
      intro input present
      obtain ⟨cluster, _, rfl⟩ := List.mem_map.mp present
      exact resolver.input)
  exact ⟨vectors, extracted, by simpa using sized⟩

/-- Making a choice changes only what was asked and how many errors were recovered. -/
structure Answers (answered : Pass) : Prop where
  clusters : answered.clusters = pass.clusters
  links : answered.links = pass.links
  unresolved : answered.unresolved = pass.unresolved

theorem choose_succeeds :
    ∃ answered choice, resolver.choose document mention pass = .ok (answered, choice) ∧
      Answers pass answered := by
  obtain ⟨vectors, extracted, _⟩ := resolver.extractAll_clusters_succeeds document mention pass
  unfold choose
  split
  · exact ⟨_, _, rfl, ⟨rfl, rfl, rfl⟩⟩
  · simp only [extracted, bind, Except.bind]
    split
    · exact ⟨_, _, rfl, ⟨rfl, rfl, rfl⟩⟩
    · split <;> exact ⟨_, _, rfl, ⟨rfl, rfl, rfl⟩⟩

theorem choose_of_labels (vectors : List FeatureVector) (labels : List Int)
    (extracted : resolver.features.extractAll document
      (pass.clusters.map fun cluster => .clusterMention mention cluster) = .ok vectors)
    (labelled : resolver.classifier pass.asked vectors = .ok labels)
    (sized : labels.length = vectors.length) :
    ∃ answered, Answers pass answered ∧
      resolver.choose document mention pass =
        .ok (answered, nearest? (candidates document mention pass.clusters labels)) := by
  unfold choose
  split
  next none =>
    rw [List.isEmpty_iff] at none
    exact ⟨pass, ⟨rfl, rfl, rfl⟩, by simp [none, candidates, candidatesFrom, nearest?]⟩
  next some =>
    simp only [extracted, labelled, sized, bind, Except.bind, if_true]
    exact ⟨{ pass with asked := vectors :: pass.asked }, ⟨rfl, rfl, rfl⟩, rfl⟩

theorem visit_of_choice (answered : Pass) (choice : Option Candidate)
    (chosen : resolver.choose document mention pass = .ok (answered, choice)) :
    resolver.visit document mention pass =
      .ok (match choice.bind (answered.link? mention.id) with
        | some link => (answered.join link, some link)
        | none => (answered.openCluster mention.id, none)) := by
  simp only [visit, chosen, bind, Except.bind]
  cases choice.bind (answered.link? mention.id) <;> rfl

theorem visit_succeeds :
    ∃ next link?, resolver.visit document mention pass = .ok (next, link?) := by
  obtain ⟨answered, choice, chosen, _⟩ := resolver.choose_succeeds document mention pass
  exact ⟨_, _, resolver.visit_of_choice document mention pass answered choice chosen⟩

theorem Pass.link?_eq_some_iff (mention : Nat) (candidate : Candidate) (link : Link) :
    pass.link? mention candidate = some link ↔
      ∃ cluster, pass.clusters[candidate.cluster]? = some cluster ∧
        ⟨mention, cluster.head, candidate.cluster, candidate.distance⟩ = link :=
  Option.map_eq_some_iff

theorem visit_cases (next : Pass) (link? : Option Link)
    (visited : resolver.visit document mention pass = .ok (next, link?)) :
    ∃ answered, Answers pass answered ∧
      ((link? = none ∧ next = answered.openCluster mention.id) ∨
        ∃ link cluster, link? = some link ∧ next = answered.join link ∧
          link.mention = mention.id ∧ pass.clusters[link.cluster]? = some cluster ∧
            cluster.head = link.head) := by
  obtain ⟨answered, choice, chosen, answers⟩ := resolver.choose_succeeds document mention pass
  rw [resolver.visit_of_choice document mention pass answered choice chosen] at visited
  refine ⟨answered, answers, ?_⟩
  split at visited
  next link joined =>
    cases visited
    obtain ⟨candidate, _, joined⟩ := Option.bind_eq_some_iff.mp joined
    obtain ⟨cluster, known, rfl⟩ := (answered.link?_eq_some_iff _ _ _).mp joined
    exact .inr ⟨_, cluster, rfl, rfl, rfl, by rw [← answers.clusters]; exact known, rfl⟩
  next =>
    cases visited
    exact .inl ⟨rfl, rfl⟩

end Visit

end SpanAnnotation.Resolver
