import SpanAnnotation.Proofs.AllOrNothing
import SpanAnnotation.Proofs.Construction

/-!
Which documents a pipeline accepts that was built from a configuration. Its chunker keeps to the
sentences, so that of all the rules of the span model only one can refuse a proposal: a configuration
may declare a category without a name, and an annotation may not have it. Nothing else makes a run
over a valid document fail, except that the resolver may run out of time.
-/

set_option autoImplicit false

namespace SpanAnnotation

/-- Proposals are added unless one of them has no category, which is then what is wrong, or the
identities are used up. -/
inductive RefusesUnnamed (proposals : List Proposal) (outcome : Except Error Unit) : Prop where
  | added (success : outcome = .ok ()) (named : ∀ proposal ∈ proposals, proposal.category ≠ "")
  | refused (id : Nat) (failure : outcome = .error (.invalidDocument (.noCategory id)))
      (proposal : Proposal) (present : proposal ∈ proposals) (unnamed : proposal.category = "")
  | ended (failure : outcome = .error (.panic .overflow))

namespace Document

variable (document : Document)

theorem checkAnnotation_of_within (sentences : List Sentence) (place : Nat) (s : Sentence)
    (found : sentences[place]? = some s) (id : Nat) (source : String) (proposal : Proposal)
    (within : proposal.Within s.size) :
    checkAnnotation sentences (.ofProposal id place source proposal) =
      if proposal.category = "" then .error (.noCategory id) else .ok () := by
  have inside : (proposal.last < proposal.first || s.size ≤ proposal.last) = false := by
    simp [within.upright, within.inside]
  unfold checkAnnotation
  simp [found, Annotation.ofProposal, inside, within.headless]

theorem unnamed_of_add_refused (place : Nat) (s : Sentence)
    (found : document.sentences[place]? = some s) (source : String) (proposal : Proposal)
    (within : proposal.Within s.size) (e : Error)
    (refused : document.add place proposal source = .error e) :
    (proposal.category = "" ∧ e = .invalidDocument (.noCategory document.nextId)) ∨
      e = .panic .overflow := by
  refine (document.add_fails place proposal source e refused).imp ?_ And.right
  rintro ⟨fault, failed, rfl⟩
  rw [proposed, checkAnnotation_of_within document.sentences place s found document.nextId source
    proposal within] at failed
  split at failed
  next unnamed => exact ⟨unnamed, by rw [Except.error.inj failed]⟩
  next => simp at failed

theorem chunkFrom_of_within (chunker : Chunker) (categories : List String)
    (keeps : chunker.KeepsTo categories) :
    RefusesUnnamed (document.sentences.flatMap chunker.propose)
      (document.chunkFrom chunker 0 document.sentences).2.2 := by
  have proposed (place : Nat) (s : Sentence) (found : document.sentences[place]? = some s)
      (proposal : Proposal) (present : proposal ∈ chunker.propose s) :
      proposal ∈ document.sentences.flatMap chunker.propose :=
    List.mem_flatMap.mpr ⟨s, List.mem_of_getElem? found, present⟩
  rw [chunkFrom_eq_addPlaced]
  obtain ⟨final, ids, whole⟩ | ⟨before, ⟨place, proposal⟩, after, partway, ids, e, parts, run,
    refused, whole⟩ := document.addPlaced_cases chunker.name (chunker.placed 0 document.sentences)
  · rw [whole]
    refine .added rfl fun proposal present => ?_
    obtain ⟨s, listed, present⟩ := List.mem_flatMap.mp present
    obtain ⟨place, found⟩ := List.mem_iff_getElem?.mp listed
    have entry := (chunker.mem_placed document.sentences place proposal).mpr ⟨s, found, present⟩
    have accepted := (document.addPlaced_accepts final _ _ ids whole).2.2 _ entry
    exact ((document.accepts_iff _ _ 0).mp accepted).1.category
  · rw [whole]
    have entry : (place, proposal) ∈ chunker.placed 0 document.sentences := by rw [parts]; simp
    obtain ⟨s, found, present⟩ := (chunker.mem_placed document.sentences _ _).mp entry
    have kept := (document.addPlaced_accepts partway _ _ ids run).2.1
    obtain ⟨unnamed, rfl⟩ | rfl := partway.unnamed_of_add_refused place s (kept ▸ found)
      chunker.name proposal (keeps s proposal present).1 e refused
    · exact .refused _ rfl proposal (proposed place s found proposal present) unnamed
    · exact .ended rfl

end Document

namespace Pipeline

variable (pipeline : Pipeline) (document : Document) (clock : Clock)

/-- The chunker proposes a span without a category for one of the sentences. -/
def ProposesUnnamed : Prop :=
  ∃ chunker, pipeline.chunker = some chunker ∧ ∃ sentence ∈ document.sentences,
    ∃ proposal ∈ chunker.propose sentence, proposal.category = ""

def KeepsTo (categories : List String) : Prop :=
  ∀ chunker, pipeline.chunker = some chunker → chunker.KeepsTo categories

theorem runChunker_outcome (categories : List String) (keeps : pipeline.KeepsTo categories)
    (room : document.nextId + (pipeline.chunkedIds document).length < maxIndex)
    (summary : ProcessSummary) :
    (¬ pipeline.ProposesUnnamed document ∧
      ∃ next, (pipeline.runChunker document summary).2.2 = .ok next) ∨
    (pipeline.ProposesUnnamed document ∧
      ∃ id, (pipeline.runChunker document summary).2.2 =
        .error (.invalidDocument (.noCategory id))) := by
  have panics := pipeline.runChunker_panics document summary .overflow
  unfold runChunker ProposesUnnamed at *
  cases given : pipeline.chunker with
  | none => exact .inl ⟨by simp, summary, rfl⟩
  | some chunker =>
    simp only [given] at panics
    have outcome := document.chunkFrom_of_within chunker categories (keeps chunker given)
    simp only [Option.some.injEq, exists_eq_left', Document.applyChunker] at panics ⊢
    generalize document.chunkFrom chunker 0 document.sentences = run at outcome panics
    obtain ⟨partway, ids, result⟩ := run
    cases outcome with
    | added success named =>
      obtain rfl : result = .ok () := success
      refine .inl ⟨?_, _, rfl⟩
      rintro ⟨sentence, present, proposal, proposed, unnamed⟩
      exact named proposal (List.mem_flatMap.mpr ⟨sentence, present, proposed⟩) unnamed
    | refused id failure proposal present unnamed =>
      obtain rfl : result = .error (.invalidDocument (.noCategory id)) := failure
      obtain ⟨sentence, there, proposed⟩ := List.mem_flatMap.mp present
      exact .inr ⟨⟨sentence, there, proposal, proposed, unnamed⟩, id, rfl⟩
    | ended failure =>
      obtain rfl : result = .error (.panic .overflow) := failure
      exact absurd room (Nat.not_lt.mpr (panics rfl))

theorem runMerger_succeeds (summary : ProcessSummary) :
    ∃ next, (pipeline.runMerger document summary).2.2 = .ok next := by
  unfold runMerger
  split <;> exact ⟨_, rfl⟩

theorem runResolver_outcome (valid : document.validate = .ok ()) (summary : ProcessSummary) :
    (∃ next, (pipeline.runResolver (fun reading => clock (reading + 1)) document summary).2.2 =
      .ok next) ∨
    ∃ e, pipeline.TimesOut clock e ∧
      (pipeline.runResolver (fun reading => clock (reading + 1)) document summary).2.2 =
        .error e := by
  obtain ⟨e, late, expired⟩ | same := pipeline.runResolver_inTime document clock clock summary
  · exact .inr ⟨e, late, by rw [expired]⟩
  · left
    rw [same]
    unfold runResolver unlimited
    cases pipeline.resolver with
    | none => exact ⟨summary, rfl⟩
    | some resolver =>
      obtain ⟨report, resolved⟩ := resolver.unlimited_resolve_succeeds document
        (fun reading => clock (reading + 1)) valid
      simp only [Option.map_some]
      split <;> simp_all

theorem stages_outcome (categories : List String) (keeps : pipeline.KeepsTo categories)
    (valid : document.validate = .ok ())
    (room : document.nextId + (pipeline.chunkedIds document).length < maxIndex) :
    (¬ pipeline.ProposesUnnamed document ∧
      ((∃ summary, (pipeline.stages clock document).2.2 = .ok summary) ∨
        ∃ e, pipeline.TimesOut clock e ∧ (pipeline.stages clock document).2.2 = .error e)) ∨
    (pipeline.ProposesUnnamed document ∧
      ∃ id, (pipeline.stages clock document).2.2 = .error (.invalidDocument (.noCategory id))) := by
  have sound := document.validate_eq_ok_iff.mp valid
  have chunked := (pipeline.runChunker_evolves document sound (.initial document.id)).sound
  have outcome := pipeline.runChunker_outcome document categories keeps room (.initial document.id)
  unfold stages
  simp only [andThen]
  generalize pipeline.runChunker document (.initial document.id) = run at chunked outcome
  obtain ⟨longer, proposals, result⟩ := run
  refine outcome.imp ?_ ?_
  · rintro ⟨named, next, success⟩
    obtain rfl : result = .ok next := success
    refine ⟨named, ?_⟩
    -- What each stage leaves is sound, so that the resolver, which checks it again, accepts it.
    have merged := (pipeline.runMerger_evolves longer chunked next).sound
    obtain ⟨kept, merging⟩ := pipeline.runMerger_succeeds longer next
    simp only
    generalize pipeline.runMerger longer next = run at merged merging
    obtain ⟨smaller, removals, result⟩ := run
    obtain rfl : result = .ok kept := merging
    exact pipeline.runResolver_outcome smaller clock (smaller.validate_eq_ok_iff.mpr merged) kept
  · rintro ⟨unnamed, id, failure⟩
    obtain rfl : result = .error (.invalidDocument (.noCategory id)) := failure
    exact ⟨unnamed, id, rfl⟩

theorem ofConfiguration_keepsTo (config : Configuration) (files : Files)
    (built : ofConfiguration config files = .ok pipeline) : pipeline.KeepsTo config.categories := by
  simp only [ofConfiguration, bind_eq_ok_iff, pure, Except.pure, Except.ok.injEq] at built
  obtain ⟨_, _, made, chunked, _, _, _, _, rfl⟩ := built
  rintro chunker rfl
  exact config.buildChunker_keepsTo files chunker chunked

/-- A pipeline that was built from a configuration comes to an end on every valid document, or runs
out of time, unless it proposes a span without a category; only a configuration that declares a
category without a name can do that. -/
theorem built_accepts_valid (config : Configuration) (files : Files)
    (built : ofConfiguration config files = .ok pipeline) (valid : document.validate = .ok ())
    (room : document.nextId + (pipeline.chunkedIds document).length < maxIndex) :
    pipeline.KeepsTo config.categories ∧
    (pipeline.ProposesUnnamed document → "" ∈ config.categories ∧
      ∃ id, (pipeline.process clock document).2 =
        .error (.invalidDocument (.noCategory id))) ∧
    (¬ pipeline.ProposesUnnamed document →
      (∃ summary, (pipeline.process clock document).2 = .ok summary) ∨
        ∃ e, pipeline.TimesOut clock e ∧ (pipeline.process clock document).2 = .error e) := by
  have keeps := pipeline.ofConfiguration_keepsTo config files built
  have outcome := pipeline.stages_outcome document clock config.categories keeps valid room
  unfold process run
  simp only [valid]
  generalize pipeline.stages clock document = run at outcome
  obtain ⟨final, events, result⟩ := run
  refine ⟨keeps, fun unnamed => ?_, fun named => ?_⟩
  · obtain ⟨named, _⟩ | ⟨⟨chunker, given, sentence, _, proposal, proposed, empty⟩, id, failure⟩ :=
      outcome
    · exact absurd unnamed named
    · obtain rfl : result = .error (.invalidDocument (.noCategory id)) := failure
      exact ⟨empty ▸ (keeps chunker given sentence proposal proposed).2, id, rfl⟩
  · obtain ⟨_, ⟨summary, success⟩ | ⟨e, late, failure⟩⟩ | ⟨unnamed, _⟩ := outcome
    · obtain rfl : result = .ok summary := success
      exact .inl ⟨_, rfl⟩
    · obtain rfl : result = .error e := failure
      exact .inr ⟨e, late, rfl⟩
    · exact absurd unnamed named

def janAs (category : String) : Configuration where
  categories := [category]
  chunkers := [⟨"names", .dictionary [(category, ["Jan"])] none true⟩]
  chunker := none
  mergePriority := none
  coreference := none

def findsJanAs (category : String) : Pipeline :=
  ⟨some (.ofDictionary ⟨"names", true, [⟨["Jan"], category⟩]⟩), none, none⟩

def janSlept : Document := .ofSentences "d" [.ofOrths "s1" ["Jan", "spał"]]

theorem built_accepts_janSlept :
    ofConfiguration (janAs "PERSON") (fun _ => none) = .ok (findsJanAs "PERSON") ∧
      janSlept.validate = .ok () ∧
      ∃ summary, ((findsJanAs "PERSON").process (fun _ => 0) janSlept).2 = .ok summary := by
  have built : ofConfiguration (janAs "PERSON") (fun _ => none) = .ok (findsJanAs "PERSON") := rfl
  have valid : janSlept.validate = .ok () := by decide +kernel
  obtain ⟨keeps, _, accepts⟩ := built_accepts_valid (findsJanAs "PERSON") janSlept (fun _ => 0) _ _
    built valid (by decide +kernel)
  have named : ¬ (findsJanAs "PERSON").ProposesUnnamed janSlept := by
    rintro ⟨chunker, given, sentence, _, proposal, proposed, unnamed⟩
    have listed := (keeps chunker given sentence proposal proposed).2
    simp [janAs, unnamed] at listed
  refine ⟨built, valid, (accepts named).resolve_right ?_⟩
  rintro ⟨_, ⟨resolver, _, given, _⟩, _⟩
  simp [findsJanAs] at given

theorem nameless_category_refused :
    ofConfiguration (janAs "") (fun _ => none) = .ok (findsJanAs "") ∧
      janSlept.validate = .ok () ∧
      ((findsJanAs "").process (fun _ => 0) janSlept).2 =
        .error (.invalidDocument (.noCategory 0)) :=
  ⟨rfl, by decide +kernel, by decide +kernel⟩

end Pipeline

end SpanAnnotation
