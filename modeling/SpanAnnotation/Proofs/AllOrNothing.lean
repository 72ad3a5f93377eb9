import SpanAnnotation.Proofs.EventLog

/-!
Runs that fail, and runs with a limit. A run that fails leaves its document alone. A limit changes
nothing but that a run may be given up, since the clock decides only whether to go on: what is not
given up is what there would be without a limit, with all its links.
-/

set_option autoImplicit false

namespace SpanAnnotation

def ResolutionReport.untimed (report : ResolutionReport) : ResolutionReport :=
  { report with elapsedMs := 0 }

def ProcessSummary.untimed (summary : ProcessSummary) : ProcessSummary :=
  { summary with processingMs := 0 }

/-- The run was given up with the document as it was, or it came to what the other run came to, as
far as it is looked at. -/
def InTime {α : Type} (givenUp : Error → Prop) (look : α → α) (document : Document)
    (run other : Document × Except Error α) : Prop :=
  (∃ e, givenUp e ∧ run = (document, .error e)) ∨
    (run.1 = other.1 ∧ run.2.map look = other.2.map look)

namespace Resolver

def unlimited (resolver : Resolver) : Resolver := { resolver with limit := none }

/-- The limit was reached at one of the readings of the clock from the first on. -/
def TimesOut (resolver : Resolver) (clock : Clock) (first count : Nat) (e : Error) : Prop :=
  ∃ limit reading, resolver.limit = some limit ∧ first ≤ reading ∧ reading < first + count ∧
    limit ≤ clock.since reading ∧ e = .timeout (clock.msSince reading) (limit / nanosPerMs)

variable (resolver : Resolver) (document : Document) (clock other : Clock)

theorem checkTime_cases (reading : Nat) :
    (∃ e, resolver.TimesOut clock reading 1 e ∧ resolver.checkTime clock reading = .error e) ∨
      resolver.checkTime clock reading = .ok () := by
  unfold checkTime
  split
  next => exact .inr rfl
  next limit limited =>
    split
    next late => exact .inl ⟨_, ⟨limit, reading, limited, by omega, by omega, late, rfl⟩, rfl⟩
    next => exact .inr rfl

theorem TimesOut.within {resolver : Resolver} {clock : Clock} {first count start length : Nat}
    {e : Error} (late : resolver.TimesOut clock first count e) (lower : start ≤ first)
    (upper : first + count ≤ start + length) : resolver.TimesOut clock start length e := by
  obtain ⟨limit, reading, limited, after, before, reached, told⟩ := late
  exact ⟨limit, reading, limited, by omega, by omega, reached, told⟩

section Run

variable {σ : Type} (onLink : σ → Link → σ)

/-- The limit is looked at only between the visits, and the visits do not know of it. -/
theorem visitAll_inTime (reading otherReading : Nat) (seen : σ) (pass : Pass)
    (mentions : List Annotation) :
    (∃ e, resolver.TimesOut clock reading mentions.length e ∧
      (resolver.visitAll document clock onLink reading seen pass mentions).2 = .error e) ∨
    ∃ final done,
      resolver.visitAll document clock onLink reading seen pass mentions = (final, .ok done) ∧
      resolver.unlimited.visitAll document other onLink otherReading seen pass mentions =
        (final, .ok done) := by
  induction mentions generalizing reading otherReading seen pass with
  | nil => exact .inr ⟨seen, pass, rfl, rfl⟩
  | cons mention rest ih =>
    obtain ⟨next, link?, step⟩ := resolver.visit_succeeds document mention pass
    have sameStep : resolver.unlimited.visit document mention pass = .ok (next, link?) := step
    have free : resolver.unlimited.checkTime other otherReading = .ok () := rfl
    simp only [visitAll, step, sameStep, free]
    obtain ⟨e, late, expired⟩ | inTime := resolver.checkTime_cases clock reading
    · exact .inl ⟨e, late.within (Nat.le_refl _) (by simp), by simp only [expired]⟩
    · simp only [inTime]
      refine (ih (reading + 1) (otherReading + 1) _ next).imp_left ?_
      rintro ⟨e, late, expired⟩
      exact ⟨e, late.within (by omega) (by simp only [List.length_cons]; omega), expired⟩

end Run

/-- The relations of a pass have their ends in the document, so that none is refused. -/
theorem addRelations_of_covers (pass : Pass)
    (covers : pass.Covers (resolver.selector.select document)) :
    document.addRelations (pass.links.map Link.relation) =
      ({ document with relations := document.relations ++ pass.links.map Link.relation },
        .ok ()) := by
  apply document.addRelations_eq
  intro relation present
  obtain ⟨link, linked, rfl⟩ := List.mem_map.mp present
  obtain ⟨cluster, found, headed, behind⟩ := covers.links link linked
  have follows := covers.clusters cluster (List.mem_of_getElem? found)
  have known : ∀ mention ∈ cluster.mentions, document.annotations.contains mention = true := by
    intro mention inCluster
    obtain ⟨a, selected, rfl⟩ := List.mem_map.mp (follows.chronological.subset inCluster)
    exact (document.annotations.contains_iff _).mpr
      ⟨a, resolver.selector.mem_of_mem_select document a selected, rfl⟩
  have head := known cluster.head (List.mem_of_mem_head? follows.headed)
  rw [headed] at head
  exact ⟨known link.mention (List.mem_of_mem_tail behind), head⟩

theorem resolve_of_valid (valid : document.validate = .ok ()) :
    resolver.resolve document clock =
      match (resolver.visitAll document clock (fun seen _ => seen) 1 () .initial
        (resolver.selector.select document)).2 with
      | .error e => (document, .error e)
      | .ok pass =>
          ({ document with relations := document.relations ++ pass.links.map Link.relation },
            .ok (reportOf (resolver.selector.select document) pass
              (clock.msSince ((resolver.selector.select document).length + 1)))) := by
  unfold resolve resolveWith
  simp only [valid]
  cases visits : resolver.visitAll document clock (fun seen _ => seen) 1 () .initial
    (resolver.selector.select document) with
  | mk seen reached =>
    cases reached with
    | error e => rfl
    | ok pass =>
      have covers := (resolver.visitAll_select_covers document clock _ () seen pass visits).1
      simp only [resolver.addRelations_of_covers document pass covers]

theorem resolve_of_invalid (fault : Error) (invalid : document.validate = .error fault) :
    resolver.resolve document clock = (document, .error fault) := by
  unfold resolve resolveWith
  simp only [invalid]

theorem resolve_keeps_document (e : Error)
    (failed : (resolver.resolve document clock).2 = .error e) :
    (resolver.resolve document clock).1 = document := by
  cases valid : document.validate with
  | error fault => rw [resolver.resolve_of_invalid document clock fault valid]
  | ok =>
    rw [resolver.resolve_of_valid document clock valid] at failed ⊢
    split at failed
    · rfl
    · simp at failed

theorem resolve_adds_all_links (final : Document) (report : ResolutionReport)
    (run : resolver.resolve document clock = (final, .ok report)) :
    final =
      { document with relations := document.relations ++ report.links.map Link.relation } := by
  obtain ⟨effect, outcome⟩ := Prod.mk.inj (show _ = (final, _) from run)
  obtain ⟨_, _, _, linked, rfl⟩ := resolver.resolveWith_succeeded document clock _ () _ final
    report (Prod.ext effect (Prod.ext rfl outcome))
  exact linked

theorem resolve_inTime :
    InTime (resolver.TimesOut clock 1 (resolver.selector.select document).length)
      ResolutionReport.untimed document (resolver.resolve document clock)
      (resolver.unlimited.resolve document other) := by
  cases valid : document.validate with
  | error fault =>
    rw [resolver.resolve_of_invalid document clock fault valid,
      resolver.unlimited.resolve_of_invalid document other fault valid]
    exact .inr ⟨rfl, rfl⟩
  | ok =>
    rw [resolver.resolve_of_valid document clock valid,
      resolver.unlimited.resolve_of_valid document other valid]
    obtain ⟨e, late, expired⟩ | ⟨_, done, inTime, free⟩ :=
      resolver.visitAll_inTime document clock other (fun seen _ => seen) 1 1 () .initial
        (resolver.selector.select document)
    · exact .inl ⟨e, late, by rw [expired]⟩
    · have sameMentions : resolver.unlimited.selector = resolver.selector := rfl
      rw [sameMentions, inTime, free]
      exact .inr ⟨rfl, rfl⟩

theorem unlimited_resolve_succeeds (valid : document.validate = .ok ()) :
    ∃ report, (resolver.unlimited.resolve document clock).2 = .ok report := by
  rw [resolver.unlimited.resolve_of_valid document clock valid]
  obtain ⟨_, ⟨_, _, limited, _⟩, _⟩ | ⟨_, done, inTime, _⟩ :=
    resolver.unlimited.visitAll_inTime document clock clock (fun seen _ => seen) 1 1 () .initial
      (resolver.unlimited.selector.select document)
  · simp [unlimited] at limited
  · rw [inTime]
    exact ⟨_, rfl⟩

end Resolver

namespace Pipeline

variable (pipeline : Pipeline) (document : Document) (clock other : Clock)

def unlimited : Pipeline := { pipeline with resolver := pipeline.resolver.map Resolver.unlimited }

-- The resolver reads the clock from the second reading on.
def TimesOut (e : Error) : Prop :=
  ∃ resolver mentions, pipeline.resolver = some resolver ∧
    resolver.TimesOut (fun reading => clock (reading + 1)) 1 mentions e

theorem runResolver_inTime (summary : ProcessSummary) :
    (∃ e, pipeline.TimesOut clock e ∧
      pipeline.runResolver (fun reading => clock (reading + 1)) document summary =
        (document, [], .error e)) ∨
    pipeline.runResolver (fun reading => clock (reading + 1)) document summary =
      pipeline.unlimited.runResolver (fun reading => other (reading + 1)) document summary := by
  unfold runResolver unlimited TimesOut
  cases pipeline.resolver with
  | none => exact .inr rfl
  | some resolver =>
    obtain ⟨e, late, expired⟩ | ⟨sameDocument, sameOutcome⟩ := resolver.resolve_inTime document
      (fun reading => clock (reading + 1)) (fun reading => other (reading + 1))
    · exact .inl ⟨e, ⟨resolver, _, rfl, late⟩, by simp only [expired]⟩
    · right
      dsimp only [Option.map_some]
      generalize resolver.resolve document (fun reading => clock (reading + 1)) = limited at *
      generalize resolver.unlimited.resolve document (fun reading => other (reading + 1)) =
        free at *
      obtain ⟨final, outcome⟩ := limited
      obtain ⟨_, freeOutcome⟩ := free
      obtain rfl := sameDocument
      cases outcome with
      | error e =>
        cases freeOutcome with
        | error _ => rw [Except.error.inj sameOutcome]
        | ok _ => simp [Except.map] at sameOutcome
      | ok report =>
        cases freeOutcome with
        | error _ => simp [Except.map] at sameOutcome
        | ok freeReport =>
          have same : report.untimed = freeReport.untimed := Except.ok.inj sameOutcome
          obtain ⟨mentions, links, unresolved, recovered, _⟩ : report.mentions = freeReport.mentions ∧
              report.links = freeReport.links ∧ report.unresolved = freeReport.unresolved ∧
              report.recoveredErrors = freeReport.recoveredErrors ∧
              report.clusters = freeReport.clusters := by
            simpa [ResolutionReport.untimed] using same
          simp only [links, mentions, unresolved, recovered]

-- The stages that never read the clock.
def merged : Stage :=
  andThen (andThen (document, [], .ok (.initial document.id)) pipeline.runChunker)
    pipeline.runMerger

theorem stages_eq :
    pipeline.stages clock document =
      andThen (pipeline.merged document)
        (pipeline.runResolver fun reading => clock (reading + 1)) := rfl

theorem stages_inTime :
    (∃ reached told e, pipeline.TimesOut clock e ∧
      pipeline.stages clock document = (reached, told, .error e)) ∨
    pipeline.stages clock document = pipeline.unlimited.stages other document := by
  have same : pipeline.unlimited.merged document = pipeline.merged document := rfl
  rw [stages_eq, stages_eq, same]
  obtain ⟨reached, told, outcome⟩ := pipeline.merged document
  cases outcome with
  | error e => exact .inr (by simp only [andThen])
  | ok summary =>
    obtain ⟨e, late, expired⟩ | same := pipeline.runResolver_inTime reached clock other summary
    · exact .inl ⟨reached, told ++ [], e, late, by simp only [andThen, expired]⟩
    · exact .inr (by simp only [andThen, same])

theorem run_keeps_document (e : Error) (failed : (pipeline.run clock document).2.2 = .error e) :
    (pipeline.run clock document).1 = document := by
  unfold run at *
  split
  · rfl
  · split
    · rfl
    next => simp_all

theorem process_inTime :
    InTime (pipeline.TimesOut clock) ProcessSummary.untimed document
      (pipeline.process clock document) (pipeline.unlimited.process other document) := by
  unfold process run
  cases document.validate with
  | error fault => exact .inr ⟨rfl, rfl⟩
  | ok =>
    obtain ⟨reached, told, e, late, expired⟩ | same :=
      pipeline.stages_inTime document clock other
    · exact .inl ⟨e, late, by simp only [expired]⟩
    · simp only [same]
      obtain ⟨final, told, outcome⟩ := pipeline.unlimited.stages other document
      cases outcome with
      | error e => exact .inr ⟨rfl, rfl⟩
      | ok summary => exact .inr ⟨rfl, by simp only [Except.map, ProcessSummary.untimed]⟩

def withoutResolver : Pipeline := { pipeline with resolver := none }

theorem process_adds_all_links (final : Document) (summary : ProcessSummary)
    (run : pipeline.process clock document = (final, .ok summary)) :
    ∃ before figures links,
      pipeline.withoutResolver.process clock document = (before, .ok figures) ∧
      pipeline.Links (fun reading => clock (reading + 1)) before links ∧
      final = { before with relations := before.relations ++ links.map Link.relation } := by
  unfold process Pipeline.run at run ⊢
  cases valid : document.validate with
  | error fault => simp [valid] at run
  | ok =>
    simp only [valid] at run ⊢
    split at run
    next => simp at run
    next reached told figures whole =>
      obtain rfl := (Prod.mk.inj run).1
      obtain ⟨_, impossible, _⟩ | ⟨before, earlier, middle, later, staged, resolved, _⟩ :=
        andThen_cases _ _ _ _ _ whole
      · simp at impossible
      obtain ⟨links, linked, effect, _⟩ :=
        pipeline.runResolver_succeeded _ before reached middle figures later resolved
      have same : pipeline.withoutResolver.stages clock document =
          (before, earlier ++ [], .ok middle) := by
        rw [stages_eq, show pipeline.withoutResolver.merged document = _ from staged]
        rfl
      rw [same]
      exact ⟨before, _, links, rfl, linked, effect⟩

/-- A run that fails leaves its document as it was, and one that succeeds adds all links that it
reports. With a limit it is either given up like that, at a reading of the clock that is too late,
or comes to what it comes to without a limit, whatever the clock shows; and without a limit a pass
over a valid document does not fail. -/
theorem runs_all_or_nothing (resolver : Resolver) :
    (∀ e, (resolver.resolve document clock).2 = .error e →
      (resolver.resolve document clock).1 = document) ∧
    (∀ e, (pipeline.process clock document).2 = .error e →
      (pipeline.process clock document).1 = document) ∧
    (∀ e, (pipeline.processStreaming clock document).2.2 = .error e →
      (pipeline.processStreaming clock document).1 = document) ∧
    (∀ final report, resolver.resolve document clock = (final, .ok report) →
      final =
        { document with relations := document.relations ++ report.links.map Link.relation }) ∧
    (∀ final summary, pipeline.process clock document = (final, .ok summary) →
      ∃ before figures links,
        pipeline.withoutResolver.process clock document = (before, .ok figures) ∧
        pipeline.Links (fun reading => clock (reading + 1)) before links ∧
        final = { before with relations := before.relations ++ links.map Link.relation }) ∧
    (document.validate = .ok () →
      ∃ report, (resolver.unlimited.resolve document other).2 = .ok report) ∧
    InTime (resolver.TimesOut clock 1 (resolver.selector.select document).length)
      ResolutionReport.untimed document (resolver.resolve document clock)
      (resolver.unlimited.resolve document other) ∧
    InTime (pipeline.TimesOut clock) ProcessSummary.untimed document
      (pipeline.process clock document) (pipeline.unlimited.process other document) :=
  ⟨resolver.resolve_keeps_document document clock, pipeline.run_keeps_document document clock,
    pipeline.run_keeps_document document clock, resolver.resolve_adds_all_links document clock,
    pipeline.process_adds_all_links document clock,
    resolver.unlimited_resolve_succeeds document other,
    resolver.resolve_inTime document clock other, pipeline.process_inTime document clock other⟩

-- The time is up before the last mention, which would be linked.
example : (Resolver.acceptingLater.withLimit (5 * nanosPerMs)).resolve Resolver.threePersons
    (fun reading => if reading < 3 then 0 else 5 * nanosPerMs) =
      (Resolver.threePersons, .error (.timeout 5 5)) := by decide +kernel

end Pipeline

end SpanAnnotation
