import SpanAnnotation.Proofs.AllOrNothing
import SpanAnnotation.Proofs.FeatureLocality

/-!
Coreference from left to right, told by two runs: one on a document and one on the document with
one more annotation. What is decided before the new mention is decided alike, since a visit reads
only the mentions visited so far; an annotation that is not selected is never read at all.
-/

set_option autoImplicit false

namespace SpanAnnotation

structure Document.AddsOne (document longer : Document) (a : Annotation) : Prop where
  sentences : longer.sentences = document.sentences
  entries : longer.annotations.entries.Perm (a :: document.annotations.entries)

theorem Annotation.new_of_nodup (visited rest : List Annotation) (mention : Annotation)
    (distinct : ((visited ++ mention :: rest).map id).Nodup) : mention.id ∉ visited.map id := by
  intro old
  rw [List.map_append, List.map_cons] at distinct
  exact (List.nodup_append.mp distinct).2.2 _ old _ (by simp) rfl

namespace Document.AddsOne

variable {document longer : Document} {a : Annotation}

theorem mem_iff (adds : document.AddsOne longer a) (b : Annotation) :
    b ∈ longer.annotations.entries ↔ b = a ∨ b ∈ document.annotations.entries := by
  rw [adds.entries.mem_iff, List.mem_cons]

theorem new (adds : document.AddsOne longer a) : ∀ b ∈ document.annotations.entries, b.id ≠ a.id := by
  have distinct := (adds.entries.map Annotation.id).nodup_iff.mp longer.annotations.ids_nodup
  rw [List.map_cons, List.nodup_cons] at distinct
  exact fun b present same => distinct.1 (same ▸ List.mem_map_of_mem present)

theorem alike (adds : document.AddsOne longer a) (mentions : List Annotation)
    (known : ∀ b ∈ mentions, b ∈ document.annotations.entries) :
    document.Alike longer (mentions.map Annotation.id) where
  sentences := adds.sentences.symm
  found id present := by
    obtain ⟨b, listed, rfl⟩ := List.mem_map.mp present
    have inLonger := (adds.mem_iff b).mpr (.inr (known b listed))
    rw [Document.find?, Document.find?, document.annotations.find?_of_mem (known b listed),
      longer.annotations.find?_of_mem inLonger]

theorem select_of_refused (adds : document.AddsOne longer a) (selector : MentionSelector)
    (refused : selector.accepts a.category = false) :
    selector.select longer = selector.select document := by
  apply Annotation.eq_of_ordered (selector.select_ordered longer) (selector.select_ordered document)
  have chosen := adds.entries.filter fun b => selector.accepts b.category
  rw [List.filter_cons_of_neg (by simp [refused])] at chosen
  exact (selector.select_perm longer).trans (chosen.trans (selector.select_perm document).symm)

theorem select_of_accepted (adds : document.AddsOne longer a) (selector : MentionSelector)
    (accepted : selector.accepts a.category = true) :
    selector.select longer = Annotation.insertInOrder a (selector.select document) := by
  have ordered := Annotation.insertInOrder_ordered a (selector.select document)
    (fun b present => adds.new b (selector.mem_of_mem_select document b present))
    (selector.select_ordered document)
  apply Annotation.eq_of_ordered (selector.select_ordered longer) ordered
  have chosen := adds.entries.filter fun b => selector.accepts b.category
  rw [List.filter_cons_of_pos (by simp [accepted])] at chosen
  have inserted := Annotation.insertInOrder_perm a (selector.select document)
  exact (selector.select_perm longer).trans
    (chosen.trans (((selector.select_perm document).symm.cons a).trans inserted.symm))

end Document.AddsOne

namespace Resolver

variable (resolver : Resolver) (left right : Document)

theorem candidatesFrom_congr (mention : Annotation) (index : Nat) (clusters : List Cluster)
    (labels : List Int)
    (alike : ∀ cluster ∈ clusters, left.Alike right (cluster.head :: cluster.mentions)) :
    candidatesFrom left mention index clusters labels =
      candidatesFrom right mention index clusters labels := by
  induction clusters generalizing index labels with
  | nil => rfl
  | cons cluster rest ih =>
    cases labels with
    | nil => rfl
    | cons label labels =>
      have here := alike cluster (by simp)
      have closest := Document.Alike.closestPreceding? cluster
        (here.mono (List.subset_cons_self _ _)) mention
      have later := ih (index + 1) labels fun other present =>
        alike other (List.mem_cons_of_mem _ present)
      simp only [candidatesFrom, closest, later, here.distance]

theorem choose_congr (mention : Annotation) (pass : Pass)
    (reads : ∀ feature ∈ resolver.features.features, feature.Local)
    (alike : ∀ cluster ∈ pass.clusters, left.Alike right (cluster.head :: cluster.mentions)) :
    resolver.choose left mention pass = resolver.choose right mention pass := by
  have vectors := resolver.features.extractAll_congr left right
    (pass.clusters.map fun cluster => .clusterMention mention cluster) reads (by
      intro input present
      obtain ⟨cluster, listed, rfl⟩ := List.mem_map.mp present
      exact alike cluster listed)
  have candidates : ∀ labels, Resolver.candidates left mention pass.clusters labels =
      Resolver.candidates right mention pass.clusters labels := fun labels =>
    candidatesFrom_congr left right mention 0 pass.clusters labels alike
  simp only [choose, vectors, candidates]

theorem visit_congr (mention : Annotation) (visited : List Annotation) (pass : Pass)
    (reads : ∀ feature ∈ resolver.features.features, feature.Local)
    (covers : pass.Covers visited) (alike : left.Alike right (visited.map Annotation.id)) :
    resolver.visit left mention pass = resolver.visit right mention pass := by
  -- Whatever a cluster names was visited before, where the documents are alike.
  have same := resolver.choose_congr left right mention pass reads fun cluster present => by
    have follows := covers.clusters cluster present
    have named := follows.chronological.subset
    exact alike.mono (List.cons_subset.mpr
      ⟨named (List.mem_of_mem_head? follows.headed), named⟩)
  rw [visit, visit, same]

theorem visit_link_mention (document : Document) (mention : Annotation) (pass next : Pass)
    (link? : Option Link) (step : resolver.visit document mention pass = .ok (next, link?)) :
    ∀ link ∈ link?.toList, link.mention = mention.id := by
  obtain ⟨_, _, ⟨rfl, _⟩ | ⟨link, _, rfl, _, named, _⟩⟩ :=
    resolver.visit_cases document mention pass next link? step
  · simp
  · simpa using named

theorem visit_changes (document : Document) (mention : Annotation) (visited : List Annotation)
    (pass next : Pass) (link? : Option Link) (covers : pass.Covers visited)
    (new : mention.id ∉ visited.map Annotation.id)
    (step : resolver.visit document mention pass = .ok (next, link?)) :
    (next.links = pass.links ∧ next.unresolved = pass.unresolved + 1 ∧
      next.clusters = pass.clusters ++ [Cluster.single mention.id]) ∨
    ∃ link cluster, link.mention = mention.id ∧ link.head = cluster.head ∧
      pass.clusters[link.cluster]? = some cluster ∧ next.links = pass.links ++ [link] ∧
      next.unresolved = pass.unresolved ∧
      next.clusters = pass.clusters.set link.cluster
        ⟨cluster.head, cluster.mentions ++ [mention.id]⟩ := by
  obtain ⟨answered, answers, ⟨_, rfl⟩ | ⟨link, cluster, _, rfl, named, found, headed⟩⟩ :=
    resolver.visit_cases document mention pass next link? step
  · left
    simp [Pass.openCluster, answers.links, answers.unresolved, answers.clusters]
  · right
    have follows := covers.clusters cluster (List.mem_of_getElem? found)
    have absent : link.mention ∉ cluster.mentions := fun present =>
      new (named ▸ follows.chronological.subset present)
    have pushed : cluster.push link.mention =
        ⟨cluster.head, cluster.mentions ++ [mention.id]⟩ := by
      simp [Cluster.push, Cluster.contains, absent, ← named]
    refine ⟨link, cluster, named, headed.symm, found, by simp [Pass.join, answers.links],
      answers.unresolved, ?_⟩
    rw [← pushed, Pass.join, answers.clusters, List.modify_eq_set_getElem?, found]
    rfl

/-- The visits of a pass on their own, without a clock and an observer. -/
def visitEach (document : Document) (pass : Pass) : List Annotation → Except Error Pass
  | [] => .ok pass
  | mention :: rest => do
      let (next, _) ← resolver.visit document mention pass
      visitEach document next rest

theorem visitEach_cons (document : Document) (pass done : Pass) (mention : Annotation)
    (rest : List Annotation)
    (run : resolver.visitEach document pass (mention :: rest) = .ok done) :
    ∃ next link?, resolver.visit document mention pass = .ok (next, link?) ∧
      resolver.visitEach document next rest = .ok done := by
  obtain ⟨next, link?, step⟩ := resolver.visit_succeeds document mention pass
  rw [visitEach, step] at run
  exact ⟨next, link?, step, run⟩

theorem visitAll_of_unlimited {σ : Type} (unlimited : resolver.limit = none)
    (document : Document) (clock : Clock) (onLink : σ → Link → σ) (reading : Nat) (seen : σ)
    (pass : Pass) (mentions : List Annotation) :
    (resolver.visitAll document clock onLink reading seen pass mentions).2 =
      resolver.visitEach document pass mentions := by
  induction mentions generalizing reading seen pass with
  | nil => rfl
  | cons mention rest ih =>
    have inTime : resolver.checkTime clock reading = .ok () := by simp [checkTime, unlimited]
    obtain ⟨next, link?, step⟩ := resolver.visit_succeeds document mention pass
    simp only [visitAll, inTime, step, ih]
    simp [visitEach, step, bind, Except.bind]

theorem visitEach_append (document : Document) (pass : Pass) (before after : List Annotation) :
    resolver.visitEach document pass (before ++ after) =
      resolver.visitEach document pass before >>= fun reached =>
        resolver.visitEach document reached after := by
  induction before generalizing pass with
  | nil => rfl
  | cons mention rest ih =>
    obtain ⟨next, link?, step⟩ := resolver.visit_succeeds document mention pass
    simp [visitEach, step, ih, bind, Except.bind]

theorem visitEach_covers (document : Document) (pass : Pass) (visited rest : List Annotation)
    (distinct : ((visited ++ rest).map Annotation.id).Nodup) (covers : pass.Covers visited) :
    ∃ done, resolver.visitEach document pass rest = .ok done ∧ done.Covers (visited ++ rest) ∧
      ∃ added, done.links = pass.links ++ added ∧
        ∀ link ∈ added, link.mention ∈ rest.map Annotation.id := by
  induction rest generalizing pass visited with
  | nil => exact ⟨pass, rfl, by simpa using covers, [], by simp, by simp⟩
  | cons mention rest ih =>
    have new := Annotation.new_of_nodup visited rest mention distinct
    obtain ⟨next, link?, step⟩ := resolver.visit_succeeds document mention pass
    obtain ⟨stepCovers, stepLinks⟩ :=
      resolver.visit_covers document visited mention pass next link? covers new step
    rw [List.append_cons] at distinct ⊢
    obtain ⟨done, run, runCovers, added, links, named⟩ := ih next _ distinct stepCovers
    refine ⟨done, by simpa [visitEach, step, bind, Except.bind] using run, runCovers,
      link?.toList ++ added, by rw [links, stepLinks, List.append_assoc], ?_⟩
    intro link present
    rcases List.mem_append.mp present with here | later
    · rw [resolver.visit_link_mention document mention pass next link? step link here]
      exact List.mem_cons_self
    · exact List.mem_cons_of_mem _ (named link later)

theorem visitEach_congr (pass : Pass) (visited rest : List Annotation)
    (reads : ∀ feature ∈ resolver.features.features, feature.Local)
    (distinct : ((visited ++ rest).map Annotation.id).Nodup) (covers : pass.Covers visited)
    (alike : left.Alike right ((visited ++ rest).map Annotation.id)) :
    resolver.visitEach left pass rest = resolver.visitEach right pass rest := by
  induction rest generalizing pass visited with
  | nil => rfl
  | cons mention rest ih =>
    have new := Annotation.new_of_nodup visited rest mention distinct
    have same := resolver.visit_congr left right mention visited pass reads covers
      (alike.mono (by simp))
    obtain ⟨next, link?, step⟩ := resolver.visit_succeeds left mention pass
    obtain ⟨stepCovers, _⟩ :=
      resolver.visit_covers left visited mention pass next link? covers new step
    rw [List.append_cons] at distinct alike
    have later := ih next _ distinct stepCovers alike
    rw [step] at same
    simpa [visitEach, step, ← same, bind, Except.bind] using later

theorem resolve_of_unlimited (unlimited : resolver.limit = none) (document : Document)
    (clock : Clock) (valid : document.validate = .ok ()) (done : Pass)
    (run : resolver.visitEach document .initial (resolver.selector.select document) = .ok done) :
    ∃ elapsed, (resolver.resolve document clock).2 =
      .ok (reportOf (resolver.selector.select document) done elapsed) := by
  rw [resolver.resolve_of_valid document clock valid,
    resolver.visitAll_of_unlimited unlimited, run]
  exact ⟨_, rfl⟩

section LongerDocument

variable (document longer : Document) (a : Annotation) (adds : document.AddsOne longer a)
  (reads : ∀ feature ∈ resolver.features.features, feature.Local)

include adds reads

theorem visitEach_before (before after : List Annotation)
    (split : resolver.selector.select document = before ++ after) :
    ∃ reached, reached.Covers before ∧
      resolver.visitEach document .initial before = .ok reached ∧
      resolver.visitEach longer .initial before = .ok reached := by
  have distinct := resolver.selector.select_ids_nodup document
  rw [split, List.map_append] at distinct
  have beforeDistinct := (List.nodup_append.mp distinct).1
  have known : ∀ b ∈ before, b ∈ document.annotations.entries := fun b present =>
    resolver.selector.mem_of_mem_select document b (split ▸ List.mem_append_left after present)
  obtain ⟨reached, run, covers, _⟩ :=
    resolver.visitEach_covers document .initial [] before beforeDistinct .initial
  have same := resolver.visitEach_congr document longer .initial [] before reads beforeDistinct
    .initial (adds.alike before known)
  exact ⟨reached, covers, run, same ▸ run⟩

theorem visitEach_refused (refused : resolver.selector.accepts a.category = false) :
    ∃ done, resolver.visitEach document .initial (resolver.selector.select document) = .ok done ∧
      resolver.visitEach longer .initial (resolver.selector.select longer) = .ok done := by
  obtain ⟨done, _, run, same⟩ := resolver.visitEach_before document longer a adds reads
    (resolver.selector.select document) [] (by simp)
  rw [adds.select_of_refused resolver.selector refused]
  exact ⟨done, run, same⟩

/-- When the new annotation is selected the runs part at its visit, and what they add from there
on is about later mentions. -/
theorem visitEach_accepted (accepted : resolver.selector.accepts a.category = true) :
    ∃ before after reached next link? done longerDone added longerAdded,
      (resolver.selector.select document = before ++ after ∧
        resolver.selector.select longer = before ++ a :: after ∧
        ∀ b ∈ after, b.precedes a = false) ∧
      (reached.Covers before ∧ resolver.visit longer a reached = .ok (next, link?)) ∧
      (resolver.visitEach document reached after = .ok done ∧
        resolver.visitEach longer next after = .ok longerDone) ∧
      (resolver.visitEach document .initial (resolver.selector.select document) = .ok done ∧
        resolver.visitEach longer .initial (resolver.selector.select longer) = .ok longerDone) ∧
      (done.links = reached.links ++ added ∧
        ∀ link ∈ added, link.mention ∈ after.map Annotation.id) ∧
      longerDone.links = reached.links ++ longerAdded ∧
        ∀ link ∈ longerAdded, link.mention ∈ (a :: after).map Annotation.id := by
  obtain ⟨before, after, split, inserted, _, later⟩ :=
    Annotation.insertInOrder_eq a _ (resolver.selector.select_ordered document)
  have longerSplit := (adds.select_of_accepted resolver.selector accepted).trans inserted
  have distinct := resolver.selector.select_ids_nodup document
  have longerDistinct := resolver.selector.select_ids_nodup longer
  obtain ⟨reached, covers, run, longerRun⟩ :=
    resolver.visitEach_before document longer a adds reads before after split
  rw [split] at distinct
  rw [longerSplit] at longerDistinct
  obtain ⟨next, link?, step⟩ := resolver.visit_succeeds longer a reached
  obtain ⟨done, rest, _, added, links, named⟩ :=
    resolver.visitEach_covers document reached before after distinct covers
  obtain ⟨longerDone, longerRest, _, longerAdded, longerLinks, longerNamed⟩ :=
    resolver.visitEach_covers longer reached before (a :: after) longerDistinct covers
  refine ⟨before, after, reached, next, link?, done, longerDone, added, longerAdded,
    ⟨split, longerSplit, later⟩, ⟨covers, step⟩, ⟨rest, ?_⟩, ⟨?_, ?_⟩, ⟨links, named⟩, longerLinks,
    longerNamed⟩
  · simpa [visitEach, step, bind, Except.bind] using longerRest
  · rw [split, visitEach_append, run]
    exact rest
  · rw [longerSplit, visitEach_append, longerRun]
    exact longerRest

end LongerDocument

/-- A new annotation changes nothing unless it is selected, and then nothing that was decided
before it. After all mentions it makes one more decision: it joins a cluster or opens one. -/
theorem resolve_ignores_later (resolver : Resolver) (categories : List String)
    (document longer : Document) (a : Annotation) (clock other : Clock)
    (builtin : ∀ feature ∈ resolver.features.features, feature ∈ Builtin.features categories)
    (unlimited : resolver.limit = none) (valid : document.validate = .ok ())
    (longerValid : longer.validate = .ok ()) (adds : document.AddsOne longer a) :
    ∃ report longerReport, (resolver.resolve document clock).2 = .ok report ∧
      (resolver.resolve longer other).2 = .ok longerReport ∧
      (resolver.selector.accepts a.category = false → longerReport.untimed = report.untimed) ∧
      (resolver.selector.accepts a.category = true →
        (∀ m ∈ resolver.selector.select document, m.precedes a = true) →
          longerReport.mentions = report.mentions + 1 ∧
          ((longerReport.links = report.links ∧
              longerReport.unresolved = report.unresolved + 1 ∧
              longerReport.clusters = report.clusters ++ [Cluster.single a.id]) ∨
            ∃ link cluster, link.mention = a.id ∧ link.head = cluster.head ∧
              report.clusters[link.cluster]? = some cluster ∧
              longerReport.links = report.links ++ [link] ∧
              longerReport.unresolved = report.unresolved ∧
              longerReport.clusters = report.clusters.set link.cluster
                ⟨cluster.head, cluster.mentions ++ [a.id]⟩)) ∧
      ∀ m ∈ resolver.selector.select document, m.precedes a = true →
        ∀ link, link.mention = m.id → (link ∈ longerReport.links ↔ link ∈ report.links) := by
  have reads := fun feature present =>
    Builtin.local_of_mem categories feature (builtin feature present)
  cases accepted : resolver.selector.accepts a.category with
  | false =>
    obtain ⟨done, run, longerRun⟩ :=
      resolver.visitEach_refused document longer a adds reads accepted
    obtain ⟨elapsed, report⟩ := resolver.resolve_of_unlimited unlimited document clock valid done run
    obtain ⟨longerElapsed, longerReport⟩ :=
      resolver.resolve_of_unlimited unlimited longer other longerValid done longerRun
    refine ⟨_, _, report, longerReport, fun _ => ?_, by simp, fun _ _ _ _ _ => Iff.rfl⟩
    rw [adds.select_of_refused resolver.selector accepted]
    rfl
  | true =>
    obtain ⟨before, after, reached, next, link?, done, longerDone, added, longerAdded,
      ⟨split, longerSplit, later⟩, ⟨covers, step⟩, ⟨rest, longerRest⟩, ⟨run, longerRun⟩,
      ⟨links, named⟩, longerLinks, longerNamed⟩ :=
      resolver.visitEach_accepted document longer a adds reads accepted
    obtain ⟨elapsed, report⟩ := resolver.resolve_of_unlimited unlimited document clock valid done run
    obtain ⟨longerElapsed, longerReport⟩ :=
      resolver.resolve_of_unlimited unlimited longer other longerValid longerDone longerRun
    have distinct := resolver.selector.select_ids_nodup longer
    rw [longerSplit] at distinct
    refine ⟨_, _, report, longerReport, by simp, fun _ last => ?_, ?_⟩
    · -- Nothing is selected behind the new annotation, so its visit is the last.
      obtain rfl : after = [] := List.eq_nil_iff_forall_not_mem.mpr fun b present => by
        simpa [later b present] using last b (split ▸ List.mem_append_right before present)
      obtain rfl := Except.ok.inj rest
      obtain rfl := Except.ok.inj longerRest
      refine ⟨by simp [reportOf, split, longerSplit], ?_⟩
      have new := Annotation.new_of_nodup before [] a distinct
      exact resolver.visit_changes longer a before reached next link? covers new step
    · intro m selected earlier link about
      have inBefore : m ∈ before := by
        rcases List.mem_append.mp (split ▸ selected) with here | there
        · exact here
        · simp [later m there] at earlier
      rw [List.map_append] at distinct
      have elsewhere : m.id ∉ (a :: after).map Annotation.id := fun there =>
        (List.nodup_append.mp distinct).2.2 m.id (List.mem_map_of_mem inBefore) m.id there rfl
      have notAdded : link ∉ added := fun present =>
        elsewhere (List.mem_cons_of_mem _ (about ▸ named link present))
      have notLongerAdded : link ∉ longerAdded := fun present =>
        elsewhere (about ▸ longerNamed link present)
      simp [reportOf, links, longerLinks, notAdded, notLongerAdded]

/-- The three persons and one more at the same place as the last of them. -/
def fourPersons : Document :=
  { threePersons with
    annotations := threePersons.annotations.insert ⟨4, 0, 5, 5, "PERSON", none, 0, "hand"⟩
    nextId := 5 }

theorem resolve_ignores_fourth :
    threePersons.add 0 (.plain 5 5 "PERSON") "hand" = .ok (fourPersons, 4) ∧
      ∃ report longerReport,
        (acceptingLater.resolve threePersons (fun _ => 0)).2 = .ok report ∧
        (acceptingLater.resolve fourPersons (fun _ => 0)).2 = .ok longerReport ∧
        longerReport.mentions = report.mentions + 1 ∧
        ∀ link : Link, link.mention = 0 → (link ∈ longerReport.links ↔ link ∈ report.links) := by
  have all : ∀ m ∈ acceptingLater.selector.select threePersons,
      m.precedes ⟨4, 0, 5, 5, "PERSON", none, 0, "hand"⟩ = true := by decide +kernel
  have last : (⟨0, 0, 5, 5, "PERSON", none, 0, ""⟩ : Annotation) ∈
      acceptingLater.selector.select threePersons := by decide +kernel
  obtain ⟨report, longerReport, resolved, longerResolved, _, more, same⟩ :=
    resolve_ignores_later acceptingLater [] threePersons fourPersons
      ⟨4, 0, 5, 5, "PERSON", none, 0, "hand"⟩ (fun _ => 0) (fun _ => 0)
      (by simp [acceptingLater, Builtin.features]) rfl (by decide +kernel) (by decide +kernel)
      ⟨rfl, by decide⟩
  exact ⟨by decide +kernel, report, longerReport, resolved, longerResolved,
    (more (by decide +kernel) all).1, same _ last (all _ last)⟩

end Resolver

end SpanAnnotation
