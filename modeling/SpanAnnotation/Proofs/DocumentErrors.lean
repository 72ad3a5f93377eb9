import SpanAnnotation.Proofs.Acceptance
import SpanAnnotation.Service

/-!
What makes a run fail. The document breaks a rule of the span model, a chunker proposes something
that breaks one, or the time is up. Features only get inputs of their own kind, and whatever a
classifier does is recovered, so that no other error leaves a run and a service never has to blame
itself for one.
-/

set_option autoImplicit false

namespace SpanAnnotation

namespace Document

variable (document : Document)

theorem validate_eq_error_iff (e : Error) :
    document.validate = .error e ↔
      ∃ fault, document.check = .error fault ∧ .invalidDocument fault = e := by
  unfold validate
  cases document.check <;> simp

theorem applyChunker_fails (chunker : Chunker) (e : Error)
    (failed : (document.applyChunker chunker).2 = .error e) :
    (∃ fault, .invalidDocument fault = e) ∨
      (.panic .overflow = e ∧
        maxIndex ≤ document.nextId + (document.chunkedIds chunker).length) := by
  have panics := document.applyChunker_panics chunker .overflow
  rw [applyChunker, chunkFrom_eq_addPlaced] at failed panics
  obtain ⟨final, ids, whole⟩ | ⟨_, entry, _, partway, ids, cause, _, _, refused, whole⟩ :=
    document.addPlaced_cases chunker.name (chunker.placed 0 document.sentences)
  · simp [whole] at failed
  · rw [whole] at failed panics
    obtain ⟨fault, _, rfl⟩ | ⟨_, rfl⟩ := partway.add_fails entry.1 entry.2 chunker.name cause refused
    · exact .inl ⟨fault, Except.error.inj failed⟩
    · exact .inr ⟨Except.error.inj failed, panics rfl⟩

end Document

namespace Resolver

theorem resolve_fails (resolver : Resolver) (document : Document) (clock : Clock) (e : Error)
    (failed : (resolver.resolve document clock).2 = .error e) :
    (∃ fault, document.check = .error fault ∧ .invalidDocument fault = e) ∨
      resolver.TimesOut clock 1 (resolver.selector.select document).length e := by
  cases valid : document.validate with
  | error cause =>
    rw [resolver.resolve_of_invalid document clock cause valid] at failed
    obtain rfl : cause = e := Except.error.inj failed
    exact .inl ((document.validate_eq_error_iff cause).mp valid)
  | ok =>
    right
    obtain ⟨cause, late, expired⟩ | ⟨_, same⟩ := resolver.resolve_inTime document clock clock
    · rw [expired] at failed
      exact Except.error.inj failed ▸ late
    · -- Without a limit the pass would have succeeded.
      obtain ⟨report, succeeds⟩ := resolver.unlimited_resolve_succeeds document clock valid
      rw [failed, succeeds] at same
      simp [Except.map] at same

end Resolver

namespace Pipeline

variable (pipeline : Pipeline) (document : Document) (clock : Clock)

/-- A chunker was refused a proposal, or it used up the identities. -/
structure StopsChunking (e : Error) : Prop where
  given : pipeline.chunker.isSome = true
  cause : (∃ fault, .invalidDocument fault = e) ∨
    (.panic .overflow = e ∧ maxIndex ≤ document.nextId + (pipeline.chunkedIds document).length)

theorem runChunker_fails (summary : ProcessSummary) (e : Error)
    (failed : (pipeline.runChunker document summary).2.2 = .error e) :
    pipeline.StopsChunking document e := by
  unfold runChunker at failed
  split at failed
  next => simp at failed
  next chunker given =>
    have refused := document.applyChunker_fails chunker e
    split at failed
    next partway cause outcome =>
      obtain rfl : cause = e := Except.error.inj failed
      refine ⟨by rw [given]; rfl, ?_⟩
      rw [chunkedIds, given]
      exact refused (by rw [outcome])
    next => simp at failed

theorem runResolver_fails (summary : ProcessSummary) (e : Error)
    (failed : (pipeline.runResolver (fun reading => clock (reading + 1)) document
      summary).2.2 = .error e) :
    (∃ fault, document.check = .error fault ∧ .invalidDocument fault = e) ∨
      pipeline.TimesOut clock e := by
  unfold runResolver at failed
  split at failed
  next => simp at failed
  next resolver given =>
    have refused := resolver.resolve_fails document (fun reading => clock (reading + 1)) e
    split at failed
    next partway cause outcome =>
      obtain rfl : cause = e := Except.error.inj failed
      exact (refused (by rw [outcome])).imp_right fun late => ⟨resolver, _, given, late⟩
    next => simp at failed

theorem merged_fails (e : Error) (failed : (pipeline.merged document).2.2 = .error e) :
    pipeline.StopsChunking document e := by
  have chunked := pipeline.runChunker_fails document (.initial document.id) e
  unfold merged at failed
  simp only [andThen] at failed
  generalize pipeline.runChunker document (.initial document.id) = run at failed chunked
  obtain ⟨longer, proposals, outcome⟩ := run
  cases outcome with
  | error cause => exact chunked failed
  | ok summary =>
    obtain ⟨kept, succeeds⟩ := pipeline.runMerger_succeeds longer summary
    simp [succeeds] at failed

theorem merged_sound (bare : pipeline.chunker = none) (sound : document.Sound) :
    (pipeline.merged document).1.Sound := by
  have same : pipeline.runChunker document (.initial document.id) =
      (document, [], .ok (.initial document.id)) := by simp [runChunker, bare]
  simp only [merged, andThen, same]
  exact (pipeline.runMerger_evolves document sound _).sound

/-- The causes of an error of a run. -/
inductive FailsBy : Error → Prop where
  | invalid (fault : DocumentFault) (broken : document.check = .error fault) :
      FailsBy (.invalidDocument fault)
  | refused (fault : DocumentFault) (valid : document.check = .ok ())
      (given : pipeline.chunker.isSome = true) : FailsBy (.invalidDocument fault)
  | late (e : Error) (valid : document.check = .ok ()) (expired : pipeline.TimesOut clock e) :
      FailsBy e
  -- The run ended in the middle.
  | ended (valid : document.check = .ok ()) (given : pipeline.chunker.isSome = true)
      (full : maxIndex ≤ document.nextId + (pipeline.chunkedIds document).length) :
      FailsBy (.panic .overflow)

theorem process_failsBy (e : Error) (failed : (pipeline.process clock document).2 = .error e) :
    pipeline.FailsBy document clock e := by
  unfold process run at failed
  cases checked : document.check with
  | error fault =>
    have invalid := (document.validate_eq_error_iff _).mpr ⟨fault, checked, rfl⟩
    rw [invalid] at failed
    exact Except.error.inj failed ▸ .invalid fault checked
  | ok =>
    have sound := document.check_eq_ok_iff.mp checked
    rw [document.validate_eq_ok_iff.mpr sound, stages_eq] at failed
    have early := pipeline.merged_fails document e
    have bare := fun none => pipeline.merged_sound document none sound
    generalize pipeline.merged document = reached at failed early bare
    obtain ⟨smaller, events, outcome⟩ := reached
    cases outcome with
    | error cause =>
      obtain rfl : cause = e := Except.error.inj failed
      obtain ⟨given, ⟨fault, rfl⟩ | ⟨rfl, full⟩⟩ := early rfl
      · exact .refused fault checked given
      · exact .ended checked given full
    | ok summary =>
      have resolving := pipeline.runResolver_fails smaller clock summary e
      simp only [andThen] at failed
      generalize pipeline.runResolver (fun reading => clock (reading + 1)) smaller summary =
        resolved at failed resolving
      obtain ⟨final, more, result⟩ := resolved
      cases result with
      | ok => simp at failed
      | error cause =>
        obtain rfl : cause = e := Except.error.inj failed
        obtain ⟨fault, broken, rfl⟩ | expired := resolving rfl
        · -- Only the identities of new annotations can have broken what the chunker left.
          cases given : pipeline.chunker with
          | some chunker => exact .refused fault checked (by rw [given]; rfl)
          | none =>
            rw [smaller.check_eq_ok_iff.mpr (bare given)] at broken
            simp at broken
        · exact .late cause checked expired

variable {pipeline document clock} in
theorem FailsBy.kind {e : Error} (failsBy : pipeline.FailsBy document clock e) :
    (∃ fault, e = .invalidDocument fault) ∨ (∃ elapsed limit, e = .timeout elapsed limit) ∨
      (e = .panic .overflow ∧
        maxIndex ≤ document.nextId + (pipeline.chunkedIds document).length) := by
  cases failsBy with
  | invalid fault broken => exact .inl ⟨fault, rfl⟩
  | refused fault valid given => exact .inl ⟨fault, rfl⟩
  | late _ valid expired =>
    obtain ⟨_, _, _, limit, reading, _, _, _, _, told⟩ := expired
    exact .inr (.inl ⟨_, _, told⟩)
  | ended valid given full => exact .inr (.inr ⟨rfl, full⟩)

theorem respond_of_failed (e : Error) (failed : (pipeline.process clock document).2 = .error e)
    (taken : Nat) (request : Service.Request) (asks : request.toDocument = document) :
    Service.respond pipeline clock taken request =
      Service.inTime taken (Service.failureResponse e) := by
  unfold Service.respond processNew
  rw [asks]
  generalize pipeline.process clock document = run at failed
  obtain ⟨final, outcome⟩ := run
  obtain rfl : outcome = .error e := failed
  rfl

/-- A run that fails has a document that breaks a rule, or that a chunker makes break one, or it ran
out of time. A service answers the first two with status 422 and the last with 504, unless the
answer comes too late. Where a run does not come back with an error but ends in the middle, there
were no identities left. -/
theorem process_fails_on_document (e : Error)
    (failed : (pipeline.process clock document).2 = .error e) :
    pipeline.FailsBy document clock e ∧
      ((∃ fault, e = .invalidDocument fault) ∧
          (∀ taken (request : Service.Request), request.toDocument = document →
            Service.respond pipeline clock taken request =
              Service.inTime taken ⟨422, .object [("error", .text e.message)]⟩) ∨
        (∃ elapsed limit, e = .timeout elapsed limit) ∧
          (∀ taken (request : Service.Request), request.toDocument = document →
            Service.respond pipeline clock taken request =
              Service.inTime taken ⟨504, .object [("error", .text e.message)]⟩) ∨
        e = .panic .overflow ∧
          maxIndex ≤ document.nextId + (pipeline.chunkedIds document).length) := by
  have failsBy := pipeline.process_failsBy document clock e failed
  have answer := pipeline.respond_of_failed document clock e failed
  refine ⟨failsBy, ?_⟩
  obtain ⟨fault, rfl⟩ | ⟨elapsed, limit, rfl⟩ | ⟨rfl, full⟩ := failsBy.kind
  · exact .inl ⟨⟨fault, rfl⟩, answer⟩
  · exact .inr (.inl ⟨⟨elapsed, limit, rfl⟩, answer⟩)
  · exact .inr (.inr ⟨rfl, full⟩)

/-- A chunker that goes on past the end of a sentence, before a resolver whose classifier fails. -/
def pastTheEnd : Pipeline where
  chunker := some ⟨"long", fun _ => [.plain 0 1 "PERSON", .plain 0 9 "PERSON"]⟩
  merger := some (.ranking ["PERSON"])
  resolver := some
    { Resolver.acceptingLater with classifier := fun _ _ => .error (.classifier "no answer") }

theorem pastTheEnd_fails_on_janSlept :
    (pastTheEnd.process (fun _ => 0) janSlept).2 =
        .error (.invalidDocument (.spanOutside 1 0 9 "s1" 2)) ∧
      (Service.respond pastTheEnd (fun _ => 0) 0 (.ready janSlept)).status = 422 := by
  have failed : (pastTheEnd.process (fun _ => 0) janSlept).2 =
      .error (.invalidDocument (.spanOutside 1 0 9 "s1" 2)) := by decide +kernel
  obtain ⟨_, ⟨_, answer⟩ | ⟨⟨_, _, other⟩, _⟩ | ⟨other, _⟩⟩ :=
    process_fails_on_document pastTheEnd janSlept (fun _ => 0) _ failed
  · exact ⟨failed, by rw [answer 0 (.ready janSlept) rfl]; rfl⟩
  · simp at other
  · simp at other

end Pipeline

end SpanAnnotation
