import Mathlib.Data.List.Induction
import SpanAnnotation.Proofs.LeftToRight

/-!
Classifiers that fail. A pass asks the classifier about every mention but the first, each time
about all clusters found so far. A call that is not answered in full is counted and otherwise taken
for a refusal: two passes stay in step when one classifier refuses wherever the other fails.
-/

set_option autoImplicit false

namespace SpanAnnotation

namespace Classifier

/-- The labels, unless the classifier fails or gives the wrong number of them. -/
def inFull? (classifier : Classifier) (earlier : List (List FeatureVector))
    (batch : List FeatureVector) : Option (List Int) :=
  match classifier earlier batch with
  | .error _ => none
  | .ok labels => if labels.length = batch.length then some labels else none

/-- At a call, told by the batches asked before it: where the one classifier is to fail the other
refuses all clusters, and elsewhere they answer alike. -/
def FailsFor (failing refusing : Classifier) (fails : Nat → Bool)
    (earlier : List (List FeatureVector)) (batch : List FeatureVector) : Prop :=
  if fails earlier.length then
    failing.inFull? earlier batch = none ∧
      ∃ labels, refusing.inFull? earlier batch = some labels ∧ ∀ label ∈ labels, label ≤ 0
  else failing earlier batch = refusing earlier batch

variable {failing refusing : Classifier} {fails : Nat → Bool}
  {earlier : List (List FeatureVector)} {batch : List FeatureVector}

theorem FailsFor.inFull?_eq (stands : failing.FailsFor refusing fails earlier batch)
    (answer : fails earlier.length = false) :
    failing.inFull? earlier batch = refusing.inFull? earlier batch := by
  unfold FailsFor at stands
  rw [if_neg (by simp [answer])] at stands
  simp only [inFull?, stands]

theorem FailsFor.refusal (stands : failing.FailsFor refusing fails earlier batch)
    (failure : fails earlier.length = true) : failing.inFull? earlier batch = none ∧
      ∃ labels, refusing.inFull? earlier batch = some labels ∧ ∀ label ∈ labels, label ≤ 0 := by
  unfold FailsFor at stands
  rwa [if_pos failure] at stands

theorem FailsFor.answered (stands : failing.FailsFor refusing fails earlier batch)
    (others : fails earlier.length = false → (failing.inFull? earlier batch).isSome) :
    (refusing.inFull? earlier batch).isSome := by
  by_cases failure : fails earlier.length = true
  · obtain ⟨_, labels, refused, _⟩ := stands.refusal failure
    simp [refused]
  · have answer : fails earlier.length = false := by simpa using failure
    rw [← stands.inFull?_eq answer]
    exact others answer

end Classifier

namespace Resolver

def withClassifier (resolver : Resolver) (classifier : Classifier) : Resolver :=
  { resolver with classifier := classifier }

theorem withClassifier_withClassifier (resolver : Resolver) (classifier : Classifier) :
    (resolver.withClassifier classifier).withClassifier resolver.classifier = resolver := rfl

namespace Pass

variable (fails : Nat → Bool) (pass : Pass) (batch : List FeatureVector)

def ask : Pass := { pass with asked := batch :: pass.asked }

/-- The pass with some of its calls counted as failures besides. -/
def counting : Pass :=
  { pass with recovered := pass.recovered + (List.range pass.asked.length).countP fails }

@[simp] theorem counting_clusters : (pass.counting fails).clusters = pass.clusters := rfl

@[simp] theorem counting_asked : (pass.counting fails).asked = pass.asked := rfl

theorem counting_recover : (recover pass).counting fails = recover (pass.counting fails) := by
  simp [counting, recover, Nat.add_right_comm]

theorem counting_ask_of_failure (failure : fails pass.asked.length = true) :
    (pass.ask batch).counting fails = recover ((pass.counting fails).ask batch) := by
  simp [ask, counting, recover, List.range_succ, failure, Nat.add_assoc]

theorem counting_ask_of_answer (answer : fails pass.asked.length = false) :
    (pass.ask batch).counting fails = (pass.counting fails).ask batch := by
  simp [ask, counting, List.range_succ, answer]

end Pass

theorem candidates_of_refusal (document : Document) (mention : Annotation)
    (clusters : List Cluster) (labels : List Int) (refusal : ∀ label ∈ labels, label ≤ 0) :
    candidates document mention clusters labels = [] := by
  rw [List.eq_nil_iff_forall_not_mem]
  intro candidate present
  obtain ⟨place, _, _, _, ⟨label, found, positive⟩, _⟩ :=
    (mem_candidatesFrom document mention 0 clusters labels candidate).mp present
  have refused := refusal label (List.mem_of_getElem? found)
  omega

variable (resolver : Resolver) (document : Document)

section Step

variable (mention : Annotation) (pass next : Pass) (link? : Option Link)

theorem choose_eq (vectors : List FeatureVector) (opened : pass.clusters ≠ [])
    (extracted : resolver.features.extractAll document
      (pass.clusters.map fun cluster => .clusterMention mention cluster) = .ok vectors) :
    resolver.choose document mention pass =
      .ok (match resolver.classifier.inFull? pass.asked vectors with
        | some labels =>
            (pass.ask vectors, nearest? (candidates document mention pass.clusters labels))
        | none => ((pass.ask vectors).recover, none)) := by
  have nonempty : pass.clusters.isEmpty = false := by simpa using opened
  simp only [choose, nonempty, extracted, bind, Except.bind, Classifier.inFull?]
  cases resolver.classifier pass.asked vectors with
  | error e => rfl
  | ok labels =>
    by_cases full : labels.length = vectors.length <;>
      simp [full, pure, Except.pure, Pass.ask]

theorem choose_of_none (unopened : pass.clusters = []) :
    resolver.choose document mention pass = .ok (pass, none) := by
  simp [choose, unopened]

theorem visit_after_choice (answered : Pass) (choice : Option Candidate)
    (chosen : resolver.choose document mention pass = .ok (answered, choice))
    (step : resolver.visit document mention pass = .ok (next, link?)) :
    next.asked = answered.asked ∧ next.recovered = answered.recovered := by
  rw [resolver.visit_of_choice document mention pass answered choice chosen] at step
  split at step <;> cases step <;> exact ⟨rfl, rfl⟩

theorem visit_opens (step : resolver.visit document mention pass = .ok (next, link?)) :
    next.clusters ≠ [] := by
  obtain ⟨answered, answers, ⟨_, rfl⟩ | ⟨link, cluster, _, rfl, _, known, _⟩⟩ :=
    resolver.visit_cases document mention pass next link? step
  · simp [Pass.openCluster]
  · intro none
    simp [Pass.join, answers.clusters, List.modify_eq_nil_iff] at none
    simp [none] at known

theorem visit_first (unopened : pass.clusters = [])
    (step : resolver.visit document mention pass = .ok (next, link?)) :
    next.asked = pass.asked ∧ next.recovered = pass.recovered :=
  resolver.visit_after_choice document mention pass next link? pass none
    (resolver.choose_of_none document mention pass unopened) step

theorem visit_asks (opened : pass.clusters ≠ [])
    (step : resolver.visit document mention pass = .ok (next, link?)) :
    ∃ vectors, resolver.features.extractAll document
        (pass.clusters.map fun cluster => .clusterMention mention cluster) = .ok vectors ∧
      vectors.length = pass.clusters.length ∧ next.asked = vectors :: pass.asked ∧
      ((resolver.classifier.inFull? pass.asked vectors).isSome →
        next.recovered = pass.recovered) := by
  obtain ⟨vectors, extracted, sized⟩ :=
    resolver.extractAll_clusters_succeeds document mention pass
  have chosen := resolver.choose_eq document mention pass vectors opened extracted
  obtain ⟨asked, recovered⟩ :=
    resolver.visit_after_choice document mention pass next link? _ _ chosen step
  refine ⟨vectors, extracted, sized, ?_, fun full => ?_⟩
  · rw [asked]
    split <;> rfl
  · obtain ⟨labels, answer⟩ := Option.isSome_iff_exists.mp full
    rw [recovered, answer]
    rfl

section Counting

variable (refusing : Classifier) (fails : Nat → Bool)
  (stands : ∀ vectors, pass.clusters ≠ [] → resolver.features.extractAll document
      (pass.clusters.map fun cluster => .clusterMention mention cluster) = .ok vectors →
    resolver.classifier.FailsFor refusing fails pass.asked vectors)

include stands

theorem choose_counting :
    resolver.choose document mention (pass.counting fails) =
      ((resolver.withClassifier refusing).choose document mention pass).map
        fun (answered, choice) => (answered.counting fails, choice) := by
  by_cases unopened : pass.clusters = []
  · rw [resolver.choose_of_none document mention (pass.counting fails) unopened,
      (resolver.withClassifier refusing).choose_of_none document mention pass unopened]
    rfl
  · obtain ⟨vectors, extracted, _⟩ :=
      resolver.extractAll_clusters_succeeds document mention pass
    have stands := stands vectors unopened extracted
    rw [resolver.choose_eq document mention (pass.counting fails) vectors unopened extracted,
      (resolver.withClassifier refusing).choose_eq document mention pass vectors unopened extracted]
    simp only [withClassifier, Pass.counting_asked, Pass.counting_clusters, Except.map]
    by_cases failure : fails pass.asked.length = true
    · obtain ⟨failed, labels, refused, refusal⟩ := stands.refusal failure
      simp only [failed, refused, candidates_of_refusal document mention pass.clusters labels refusal,
        pass.counting_ask_of_failure fails vectors failure]
      rfl
    · have answer : fails pass.asked.length = false := by simpa using failure
      have counted := pass.counting_ask_of_answer fails vectors answer
      rw [stands.inFull?_eq answer]
      cases refusing.inFull? pass.asked vectors with
      | none => simp only [Pass.counting_recover, counted]
      | some labels => simp only [counted]

theorem visit_counting :
    resolver.visit document mention (pass.counting fails) =
      ((resolver.withClassifier refusing).visit document mention pass).map
        fun (next, link?) => (next.counting fails, link?) := by
  obtain ⟨answered, choice, chosen, _⟩ :=
    (resolver.withClassifier refusing).choose_succeeds document mention pass
  have inStep := resolver.choose_counting document mention pass refusing fails stands
  rw [chosen] at inStep
  rw [resolver.visit_of_choice _ _ _ _ _ inStep, visit_of_choice _ _ _ _ _ _ chosen]
  have sameLinks : (answered.counting fails).link? = answered.link? := rfl
  rw [sameLinks]
  cases choice.bind (answered.link? mention.id) <;> rfl

end Counting

end Step

section Run

theorem visitEach_asked (pass done : Pass) (mentions : List Annotation)
    (run : resolver.visitEach document pass mentions = .ok done) : pass.asked <:+ done.asked := by
  induction mentions generalizing pass with
  | nil =>
    cases run
    exact List.suffix_rfl
  | cons mention rest ih =>
    obtain ⟨next, link?, step, later⟩ := resolver.visitEach_cons document pass done mention rest run
    have later := ih next later
    by_cases unopened : pass.clusters = []
    · rwa [(resolver.visit_first document mention pass next link? unopened step).1] at later
    · obtain ⟨vectors, _, _, asked, _⟩ :=
        resolver.visit_asks document mention pass next link? unopened step
      rw [asked] at later
      exact (List.suffix_cons vectors pass.asked).trans later

theorem visitEach_recovered (pass done : Pass) (mentions : List Annotation)
    (full : ∀ earlier batch, batch :: earlier <:+ done.asked →
      (resolver.classifier.inFull? earlier batch).isSome)
    (run : resolver.visitEach document pass mentions = .ok done) :
    done.recovered = pass.recovered := by
  induction mentions generalizing pass with
  | nil =>
    cases run
    rfl
  | cons mention rest ih =>
    obtain ⟨next, link?, step, later⟩ := resolver.visitEach_cons document pass done mention rest run
    rw [ih next later]
    by_cases unopened : pass.clusters = []
    · exact (resolver.visit_first document mention pass next link? unopened step).2
    · obtain ⟨vectors, _, _, asked, answered⟩ :=
        resolver.visit_asks document mention pass next link? unopened step
      apply answered
      apply full
      rw [← asked]
      exact resolver.visitEach_asked document next done rest later

theorem visitEach_counting (refusing : Classifier) (fails : Nat → Bool) (pass done : Pass)
    (mentions : List Annotation)
    (stands : ∀ earlier batch, batch :: earlier <:+ done.asked →
      resolver.classifier.FailsFor refusing fails earlier batch)
    (run : resolver.visitEach document (pass.counting fails) mentions = .ok done) :
    ∃ refused, (resolver.withClassifier refusing).visitEach document pass mentions = .ok refused ∧
      done = refused.counting fails := by
  induction mentions generalizing pass with
  | nil =>
    cases run
    exact ⟨pass, rfl, rfl⟩
  | cons mention rest ih =>
    obtain ⟨next, link?, step, later⟩ := resolver.visitEach_cons document _ done mention rest run
    obtain ⟨refused, otherLink?, otherStep⟩ :=
      (resolver.withClassifier refusing).visit_succeeds document mention pass
    have inStep := resolver.visit_counting document mention pass refusing fails (by
      intro vectors opened extracted
      obtain ⟨same, reextracted, _, asked, _⟩ :=
        resolver.visit_asks document mention (pass.counting fails) next link? opened step
      obtain rfl : vectors = same := Except.ok.inj (extracted.symm.trans reextracted)
      apply stands
      -- What is asked at this visit is among all that the run asks.
      have here := resolver.visitEach_asked document next done rest later
      rwa [asked] at here)
    rw [step, otherStep] at inStep
    obtain ⟨rfl, rfl⟩ : next = refused.counting fails ∧ link? = otherLink? := by
      simpa [Except.map] using inStep
    obtain ⟨final, finished, counted⟩ := ih refused later
    refine ⟨final, ?_, counted⟩
    rw [visitEach, otherStep]
    exact finished

/-- The calls of a pass: one for each mention but the first, in their order, each with one vector
for every cluster there is at that time. -/
structure Pass.Consulted (resolver : Resolver) (document : Document) (mentions : List Annotation)
    (done : Pass) : Prop where
  opened : mentions ≠ [] → done.clusters ≠ []
  counted : done.asked.length = mentions.length - 1
  called : ∀ call mention, mentions[call + 1]? = some mention →
    ∃ pass vectors, resolver.visitEach document .initial (mentions.take (call + 1)) = .ok pass ∧
      pass.clusters ≠ [] ∧
      resolver.features.extractAll document
        (pass.clusters.map fun cluster => .clusterMention mention cluster) = .ok vectors ∧
      vectors.length = pass.clusters.length ∧ done.asked.reverse[call]? = some vectors

theorem Pass.Consulted.ask (before : List Annotation) (mention : Annotation) (pass next : Pass)
    (vectors : List FeatureVector) (consulted : pass.Consulted resolver document before)
    (nonempty : before ≠ []) (run : resolver.visitEach document .initial before = .ok pass)
    (extracted : resolver.features.extractAll document
      (pass.clusters.map fun cluster => .clusterMention mention cluster) = .ok vectors)
    (sized : vectors.length = pass.clusters.length) (opened : next.clusters ≠ [])
    (asked : next.asked = vectors :: pass.asked) :
    next.Consulted resolver document (before ++ [mention]) where
  opened _ := opened
  counted := by
    have positive := List.length_pos_iff.mpr nonempty
    have counted := consulted.counted
    simp only [asked, List.length_cons, List.length_append, List.length_nil]
    omega
  called call other found := by
    have positive := List.length_pos_iff.mpr nonempty
    have counted := consulted.counted
    simp only [asked, List.reverse_cons]
    by_cases old : call + 1 < before.length
    · rw [List.getElem?_append_left old] at found
      rw [List.take_append_of_le_length (Nat.le_of_lt old),
        List.getElem?_append_left (by rw [List.length_reverse]; omega)]
      exact consulted.called call other found
    · have within := (List.getElem?_eq_some_iff.mp found).1
      have last : call + 1 = before.length := by
        simp only [List.length_append, List.length_singleton] at within
        omega
      have calls : pass.asked.reverse.length = call := by
        rw [List.length_reverse]
        omega
      obtain rfl : mention = other := by simpa [last] using found
      refine ⟨pass, vectors, ?_, consulted.opened nonempty, extracted, sized, ?_⟩
      · rwa [last, List.take_left]
      · rw [← calls, List.getElem?_concat_length]

theorem visitEach_consulted (mentions : List Annotation) (done : Pass)
    (run : resolver.visitEach document .initial mentions = .ok done) :
    done.Consulted resolver document mentions := by
  induction mentions using List.reverseRecOn generalizing done with
  | nil =>
    cases run
    exact ⟨by simp, rfl, by simp⟩
  | append_singleton before mention ih =>
    rw [visitEach_append] at run
    cases earlier : resolver.visitEach document .initial before with
    | error e => simp [earlier, bind, Except.bind] at run
    | ok reached =>
      rw [earlier] at run
      obtain ⟨next, link?, step, last⟩ :=
        resolver.visitEach_cons document reached done mention [] run
      obtain rfl : next = done := Except.ok.inj last
      have opens := resolver.visit_opens document mention reached next link? step
      have consulted := ih reached earlier
      by_cases first : before = []
      · subst first
        obtain rfl : Pass.initial = reached := Except.ok.inj earlier
        have unasked := (resolver.visit_first document mention .initial next link? rfl step).1
        exact ⟨fun _ => opens, by simp [unasked, Pass.initial], by simp⟩
      · obtain ⟨vectors, extracted, sized, asked, _⟩ :=
          resolver.visit_asks document mention reached next link? (consulted.opened first) step
        exact Pass.Consulted.ask resolver document before mention reached next vectors consulted
          first earlier extracted sized opens asked

theorem resolve_of_run (clock : Clock) (done : Pass) (unlimited : resolver.limit = none)
    (valid : document.validate = .ok ())
    (run : resolver.visitEach document .initial (resolver.selector.select document) = .ok done) :
    ∃ elapsed, resolver.resolve document clock =
      ({ document with relations := document.relations ++ done.links.map Link.relation },
        .ok (reportOf (resolver.selector.select document) done elapsed)) := by
  obtain ⟨elapsed, resolved⟩ :=
    resolver.resolve_of_unlimited unlimited document clock valid done run
  have linked := resolver.resolve_adds_all_links document clock _ _ (Prod.ext rfl resolved)
  exact ⟨elapsed, Prod.ext linked resolved⟩

end Run

/-- A pass without a limit over a valid document makes its calls and succeeds, whatever the
classifier. With a classifier that refuses all clusters where this one fails, it comes to the same
but for the number of recovered errors, which are the failures. -/
theorem failures_are_refusals (unlimited : resolver.limit = none)
    (valid : document.validate = .ok ()) :
    ∃ done,
      resolver.visitEach document .initial (resolver.selector.select document) = .ok done ∧
      done.Consulted resolver document (resolver.selector.select document) ∧
      Annotation.Ordered (resolver.selector.select document) ∧
      (∀ clock, ∃ elapsed, resolver.resolve document clock =
        ({ document with relations := document.relations ++ done.links.map Link.relation },
          .ok (reportOf (resolver.selector.select document) done elapsed))) ∧
      ∀ (refusing : Classifier) (fails : Nat → Bool) (clock other : Clock),
        (∀ earlier batch, batch :: earlier <:+ done.asked →
          resolver.classifier.FailsFor refusing fails earlier batch) →
        ∃ final report otherReport,
          resolver.resolve document clock = (final, .ok report) ∧
          (resolver.withClassifier refusing).resolve document other = (final, .ok otherReport) ∧
          report.untimed = { otherReport.untimed with
            recoveredErrors := otherReport.recoveredErrors +
              (List.range ((resolver.selector.select document).length - 1)).countP fails } ∧
          ((∀ earlier batch, batch :: earlier <:+ done.asked → fails earlier.length = false →
            (resolver.classifier.inFull? earlier batch).isSome) →
              otherReport.recoveredErrors = 0) := by
  obtain ⟨done, run, _⟩ := resolver.visitEach_covers document .initial []
    (resolver.selector.select document) (resolver.selector.select_ids_nodup document) .initial
  have consulted := resolver.visitEach_consulted document _ done run
  refine ⟨done, run, consulted, resolver.selector.select_ordered document,
    fun clock => resolver.resolve_of_run document clock done unlimited valid run, ?_⟩
  intro refusing fails clock other stands
  obtain ⟨refused, otherRun, counted⟩ := resolver.visitEach_counting document refusing fails
    .initial done (resolver.selector.select document) stands run
  obtain ⟨elapsed, resolved⟩ := resolver.resolve_of_run document clock done unlimited valid run
  obtain ⟨otherElapsed, otherResolved⟩ := (resolver.withClassifier refusing).resolve_of_run
    document other refused unlimited valid otherRun
  have sameCalls : done.asked = refused.asked := by rw [counted, Pass.counting_asked]
  refine ⟨_, _, reportOf (resolver.selector.select document) refused otherElapsed, resolved, ?_, ?_,
    ?_⟩
  · rw [otherResolved, counted]
    rfl
  · rw [← consulted.counted, sameCalls, counted]
    rfl
  · intro answered
    apply (resolver.withClassifier refusing).visitEach_recovered document .initial refused
      (resolver.selector.select document) _ otherRun
    intro earlier batch called
    rw [← sameCalls] at called
    exact (stands earlier batch called).answered (answered earlier batch called)

-- The first question is not answered, and at later ones every cluster is accepted.
def failingFirst : Resolver := acceptingLater.withClassifier fun asked batch =>
  if asked.isEmpty then .error (.classifier "no answer") else .ok (batch.map fun _ => 1)

theorem failingFirst_recovers :
    ∃ final report otherReport,
      failingFirst.resolve threePersons (fun _ => 0) = (final, .ok report) ∧
      acceptingLater.resolve threePersons (fun _ => 0) = (final, .ok otherReport) ∧
      report.untimed = { otherReport.untimed with recoveredErrors := 1 } := by
  have stands : ∀ earlier batch, failingFirst.classifier.FailsFor acceptingLater.classifier
      (fun call => call == 0) earlier batch := by
    intro earlier batch
    unfold Classifier.FailsFor
    cases earlier with
    | nil => simp [failingFirst, acceptingLater, withClassifier, Classifier.inFull?]
    | cons first others => simp [failingFirst, acceptingLater, withClassifier]
  have answered : ∀ earlier batch, (List.length earlier == 0) = false →
      (failingFirst.classifier.inFull? earlier batch).isSome := by
    intro earlier batch later
    cases earlier with
    | nil => simp at later
    | cons first others => simp [failingFirst, withClassifier, Classifier.inFull?]
  have other : failingFirst.withClassifier acceptingLater.classifier = acceptingLater :=
    acceptingLater.withClassifier_withClassifier _
  have calls : (List.range ((failingFirst.selector.select threePersons).length - 1)).countP
      (fun call => call == 0) = 1 := by decide +kernel
  obtain ⟨done, _, _, _, _, same⟩ :=
    failingFirst.failures_are_refusals threePersons rfl (by decide +kernel)
  obtain ⟨final, report, otherReport, resolved, otherResolved, alike, none⟩ :=
    same acceptingLater.classifier (fun call => call == 0) (fun _ => 0) (fun _ => 0)
      fun earlier batch _ => stands earlier batch
  rw [calls, none fun earlier batch _ => answered earlier batch] at alike
  rw [other] at otherResolved
  exact ⟨final, report, otherReport, resolved, otherResolved, alike⟩

end Resolver

end SpanAnnotation
