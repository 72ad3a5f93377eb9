import SpanAnnotation.Pipeline
import SpanAnnotation.Proofs.Evolution
import SpanAnnotation.Proofs.Merging
import SpanAnnotation.Proofs.Reloading

/-!
The operations that change a document, what each of them leaves and which identities it gives out.
Each lets a sound document evolve, whether identities are left or not.
-/

set_option autoImplicit false

namespace SpanAnnotation

-- Merging and resolving.

namespace Merger

theorem mergeSentence_evolves (merger : Merger) (document : Document) (sound : document.Sound)
    (sentence : Nat) : document.Evolves [] (merger.mergeSentence document sentence).1 :=
  document.removeAll_evolves sound _

theorem mergeDocument_evolves (merger : Merger) (document : Document) (sound : document.Sound) :
    document.Evolves [] (merger.mergeDocument document).1 := by
  rw [merger.mergeDocument_eq document sound]
  exact document.withoutAll_evolves sound _

end Merger

namespace Resolver

theorem resolve_evolves (resolver : Resolver) (document : Document) (sound : document.Sound)
    (clock : Clock) : document.Evolves [] (resolver.resolve document clock).1 := by
  simp only [resolve, resolveWith]
  split
  · exact .refl sound
  · split
    · exact .refl sound
    next pass _ =>
      have linked := document.addRelations_evolves sound (pass.links.map Link.relation)
      split <;> simp_all

end Resolver

-- Pipelines.

namespace Pipeline

def chunkedIds (pipeline : Pipeline) (document : Document) : List Nat :=
  match pipeline.chunker with
  | none => []
  | some chunker => document.chunkedIds chunker

variable (pipeline : Pipeline)

theorem runChunker_evolves (document : Document) (sound : document.Sound)
    (summary : ProcessSummary) :
    document.Evolves (pipeline.chunkedIds document) (pipeline.runChunker document summary).1 := by
  unfold runChunker chunkedIds
  cases found : pipeline.chunker with
  | none => exact .refl sound
  | some chunker =>
    have chunked := document.applyChunker_evolves sound chunker
    dsimp only
    split <;> simp_all

/-- A chunker stage runs over only when it has used up the identities. -/
theorem runChunker_panics (document : Document) (summary : ProcessSummary) (cause : Panic)
    (failed : (pipeline.runChunker document summary).2.2 = .error (.panic cause)) :
    maxIndex ≤ document.nextId + (pipeline.chunkedIds document).length := by
  unfold runChunker at failed
  unfold chunkedIds
  cases found : pipeline.chunker with
  | none => simp [found] at failed
  | some chunker =>
    have panics := document.applyChunker_panics chunker cause
    simp only [found] at failed ⊢
    split at failed
    next partway e ended => exact panics (by rw [ended, Except.error.inj failed])
    next => simp at failed

theorem runMerger_evolves (document : Document) (sound : document.Sound)
    (summary : ProcessSummary) : document.Evolves [] (pipeline.runMerger document summary).1 := by
  unfold runMerger
  split
  · exact .refl sound
  · exact Merger.mergeDocument_evolves _ document sound

theorem runResolver_evolves (clock : Clock) (document : Document) (sound : document.Sound)
    (summary : ProcessSummary) :
    document.Evolves [] (pipeline.runResolver clock document summary).1 := by
  unfold runResolver
  split
  · exact .refl sound
  next resolver _ =>
    have resolved := resolver.resolve_evolves document sound clock
    split <;> simp_all

/-- A stage that runs after another one changes what that left; else it changes nothing. -/
theorem andThen_evolves (before : Stage) (stage : Document → ProcessSummary → Stage)
    (sound : before.1.Sound)
    (each : ∀ summary, before.1.Evolves [] (stage before.1 summary).1) :
    before.1.Evolves [] (andThen before stage).1 := by
  obtain ⟨document, events, outcome⟩ := before
  cases outcome with
  | error e => exact .refl sound
  | ok summary => exact each summary

theorem stages_evolves (clock : Clock) (document : Document) (sound : document.Sound) :
    document.Evolves (pipeline.chunkedIds document) (pipeline.stages clock document).1 := by
  have chunked := pipeline.runChunker_evolves document sound (.initial document.id)
  have merged := andThen_evolves
    (andThen (document, [], .ok (.initial document.id)) pipeline.runChunker) pipeline.runMerger
    chunked.sound fun summary => pipeline.runMerger_evolves _ chunked.sound summary
  have both := chunked.trans merged
  have resolved := andThen_evolves _ (pipeline.runResolver fun reading => clock (reading + 1))
    both.sound fun summary => pipeline.runResolver_evolves _ _ both.sound summary
  simpa [stages] using both.trans resolved

theorem process_cases (clock : Clock) (document : Document) :
    (∃ e, pipeline.process clock document = (document, .error e)) ∨
      ∃ summary,
        pipeline.process clock document = ((pipeline.stages clock document).1, .ok summary) := by
  unfold process run
  cases document.validate with
  | error e => exact .inl ⟨e, rfl⟩
  | ok =>
    obtain ⟨final, events, outcome⟩ := pipeline.stages clock document
    cases outcome with
    | error e => exact .inl ⟨e, rfl⟩
    | ok summary => exact .inr ⟨_, rfl⟩

/-- The identities that a run gives out: none unless all of its stages succeed, since they work on
a copy. -/
def issuedIds (clock : Clock) (document : Document) : List Nat :=
  match (pipeline.process clock document).2 with
  | .ok _ => pipeline.chunkedIds document
  | .error _ => []

theorem process_evolves (clock : Clock) (document : Document) (sound : document.Sound) :
    document.Evolves (pipeline.issuedIds clock document) (pipeline.process clock document).1 := by
  rw [issuedIds]
  obtain ⟨e, failed⟩ | ⟨summary, succeeded⟩ := pipeline.process_cases clock document
  · rw [failed]
    exact .refl sound
  · rw [succeeded]
    exact pipeline.stages_evolves clock document sound

end Pipeline

-- Attribute tables.

namespace AttributeTable

theorem set_tokenCount (table : AttributeTable) (token : Nat) (key : AttributeKey)
    (value : String) : (table.set token key value).1.tokenCount = table.tokenCount := by
  unfold set
  split
  · rfl
  · cases key with
    | name s => exact table.register_tokenCount s
    | index i =>
      dsimp only
      split <;> rfl

theorem clear_tokenCount (table : AttributeTable) (token : Nat) (key : AttributeKey) :
    (table.clear token key).tokenCount = table.tokenCount := by
  unfold clear
  split <;> rfl

end AttributeTable

namespace Bio

theorem writeTags_tokenCount (table : AttributeTable) (index token : Nat) (tags : List Tag) :
    (writeTags table index token tags).1.tokenCount = table.tokenCount := by
  induction tags generalizing table token with
  | nil => rfl
  | cons tag rest ih =>
    have step := table.set_tokenCount token (.index index) tag.label
    unfold writeTags
    split
    next written _ success =>
      rw [ih]
      simpa [success] using step
    next partway _ failure => simpa [failure] using step

theorem writeAttribute_evolves (document : Document) (sound : document.Sound) (sentence : Nat)
    (category name : String) :
    document.Evolves [] (writeAttribute document sentence category name).1 := by
  unfold writeAttribute
  split
  next => exact .refl sound
  next target found =>
    refine document.withTable_evolves sound sentence target _ found ?_
    rw [writeTags_tokenCount]
    exact target.attributes.register_tokenCount name

end Bio

end SpanAnnotation
