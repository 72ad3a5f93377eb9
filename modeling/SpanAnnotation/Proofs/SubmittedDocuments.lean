import SpanAnnotation.Proofs.LastIdentity
import SpanAnnotation.Service

/-!
Requests that submit a document. What is submitted is processed as it was read once it is well
formed. Otherwise the body is read again as one of a text, in which a document is a member like any
other, so that a text next to a broken document is processed in its place.
-/

set_option autoImplicit false

namespace SpanAnnotation

open Wire

namespace Wire

/-- The values of a member, which may be given several times. -/
def given (fields : Fields) (name : String) : List Value :=
  (fields.filter fun field => field.1 == name).map Prod.snd

section

variable {α : Type} (fields : Fields) (name : String)

theorem occurrences_eq_length : occurrences fields name = (given fields name).length := by
  rw [given, List.length_map, occurrences]

theorem lookup_eq_head? : fields.lookup name = (given fields name).head? := by
  induction fields with
  | nil => rfl
  | cons field rest ih =>
    obtain ⟨key, v⟩ := field
    by_cases same : key = name
    next => simp [given, same]
    next =>
      have other : (name == key) = false := beq_eq_false_iff_ne.mpr (Ne.symm same)
      simpa [given, same, List.lookup_cons, other] using ih

variable {fields name}

theorem objectRecord_eq_ok_iff (names : List String) (found : Fields) :
    objectRecord names (.object fields) = .ok found ↔
      (∀ name ∈ names, occurrences fields name ≤ 1) ∧ fields = found := by
  have checked : (∀ name ∈ names, occurrences fields name ≤ 1) ↔
      (names.all fun name => occurrences fields name ≤ 1) = true := by simp
  rw [objectRecord, checked]
  cases names.all fun name => occurrences fields name ≤ 1 <;> simp

theorem given_cases (single : (given fields name).length ≤ 1) :
    given fields name = [] ∨ ∃ v, given fields name = [v] :=
  (Nat.le_one_iff_eq_zero_or_eq_one.mp single).imp List.eq_nil_of_length_eq_zero
    List.length_eq_one_iff.mp

theorem required_eq_ok_iff (single : occurrences fields name ≤ 1) (read : Read α) (a : α) :
    fields.required name read = .ok a ↔ ∃ v, given fields name = [v] ∧ read v = .ok a := by
  rw [occurrences_eq_length] at single
  rw [Fields.required, lookup_eq_head?]
  obtain none | ⟨v, one⟩ := given_cases single
  · simp [none]
  · simp [one]

theorem optionalText_eq_ok_iff (single : occurrences fields name ≤ 1) (text : Option String) :
    fields.optional name readText = .ok text ↔
      given fields name = text.toList.map .text ∨ text = none ∧ given fields name = [.null] := by
  rw [occurrences_eq_length] at single
  rw [Fields.optional, lookup_eq_head?]
  obtain none | ⟨v, one⟩ := given_cases single
  · cases text <;> simp [none]
  · cases v <;> cases text <;> simp [one, readOption, readText]

end

end Wire

namespace Document.Draft

variable {v : Value} {draft : Draft} {document : Document}

theorem ofValue_of_read (drafted : Draft.ofValue v = .ok draft) :
    Document.ofValue v = draft.toDocument := by
  rw [ofValue_toDocument, drafted]
  rfl

end Document.Draft

namespace Service

/-- Answers the body of a request whose processing takes a time. -/
def answer (pipeline : Pipeline) (clock : Clock) (taken : Nat) (body : String) :
    Except Rejection Response :=
  respond pipeline clock taken <$> Request.ofBody body

/-- One document is given, and its parts are read. -/
structure Drafts (members : Fields) (draft : Document.Draft) : Prop where
  readable : Value.membersReadable members = true
  single : ∃ v, given members "document" = [v] ∧ Document.Draft.ofValue v = .ok draft

/-- One document is given, and it is read and checked. -/
structure Submits (members : Fields) (document : Document) : Prop where
  readable : Value.membersReadable members = true
  single : ∃ v, given members "document" = [v] ∧ Document.ofValue v = .ok document

/-- The first document that is given is read, and it has the last identity. -/
structure Overflows (members : Fields) : Prop where
  readable : Value.membersReadable members = true
  first : ∃ v draft, (given members "document").head? = some v ∧
    Document.Draft.ofValue v = .ok draft ∧ ∃ a ∈ draft.annotations, a.id = maxIndex

structure HasText (members : Fields) (id : Option String) (text : String) : Prop where
  readable : Value.membersReadable members = true
  text : given members "text" = [.text text]
  id : given members "id" = id.toList.map .text ∨ id = none ∧ given members "id" = [.null]

variable {members : Fields} {document : Document}

theorem Submits.drafts (submitted : Submits members document) : ∃ draft, Drafts members draft := by
  obtain ⟨v, given, made⟩ := submitted.single
  rw [Document.Draft.ofValue_toDocument, bind_eq_ok_iff] at made
  obtain ⟨draft, drafted, _⟩ := made
  exact ⟨draft, submitted.readable, v, given, drafted⟩

theorem Drafts.submits_iff {draft : Document.Draft} (drafted : Drafts members draft) :
    (∃ document, Submits members document) ↔
      draft.WellFormed ∧ ∀ a ∈ draft.annotations, a.id < maxIndex := by
  obtain ⟨readable, v, given, read⟩ := drafted
  rw [← draft.toDocument_succeeds_iff, ← Document.Draft.ofValue_of_read read]
  constructor
  · rintro ⟨document, _, w, same, made⟩
    obtain rfl : v = w := by simpa [given] using same
    exact ⟨document, made⟩
  · rintro ⟨document, made⟩
    exact ⟨document, readable, v, given, made⟩

theorem Drafts.becomes {draft : Document.Draft} (drafted : Drafts members draft)
    (submitted : Submits members document) : draft.Becomes document := by
  obtain ⟨_, v, given, read⟩ := drafted
  obtain ⟨_, w, same, made⟩ := submitted
  obtain rfl : v = w := by simpa [given] using same
  rw [Document.Draft.ofValue_of_read read] at made
  exact draft.toDocument_becomes document made

-- Reading of requests.

theorem documentRequest_eq_ok_iff (members : Fields) (request : Request) :
    documentRequest (.object members) = .ok request ↔
      ∃ v document, given members "document" = [v] ∧ Document.ofValue v = .ok document ∧
        request = .ready document := by
  simp only [documentRequest, bind_eq_ok_iff, objectRecord_eq_ok_iff, List.forall_mem_singleton]
  constructor
  next =>
    rintro ⟨document, read, _, ⟨single, rfl⟩, made⟩
    obtain ⟨v, given, read⟩ := (required_eq_ok_iff single _ _).mp read
    exact ⟨v, document, given, read, (Except.ok.inj made).symm⟩
  next =>
    rintro ⟨v, document, given, read, rfl⟩
    have single : occurrences members "document" ≤ 1 := by simp [occurrences_eq_length, given]
    exact ⟨document, (required_eq_ok_iff single _ _).mpr ⟨v, given, read⟩, _, ⟨single, rfl⟩, rfl⟩

/-- A document that is given first ends the run also when another one is given. -/
theorem documentRequest_panics_iff (members : Fields) (cause : Panic) :
    documentRequest (.object members) = .error (.panic cause) ↔
      ∃ v, (given members "document").head? = some v ∧
        Document.ofValue v = .error (.panic cause) := by
  have orderly := objectRecord_orderly ["document"] (.object members)
  rw [documentRequest, Fields.required, lookup_eq_head?]
  cases (given members "document").head? with
  | none => simp [bind, Except.bind]
  | some v =>
    cases read : Document.ofValue v with
    | error misfit => simp [read, bind, Except.bind]
    | ok document =>
      have later := (orderly.map fun _ => Request.ready document) cause
      simp only [Option.some.injEq, exists_eq_left', read, reduceCtorEq, iff_false]
      exact later

theorem overflows_iff (members : Fields) :
    Overflows members ↔ Value.membersReadable members = true ∧
      ∃ cause, documentRequest (.object members) = .error (.panic cause) := by
  simp only [documentRequest_panics_iff, Document.ofValue_panics_iff]
  constructor
  next =>
    rintro ⟨readable, v, draft, first, drafted, last⟩
    exact ⟨readable, .overflow, v, first, rfl, draft, drafted, last⟩
  next =>
    rintro ⟨readable, _, v, first, rfl, draft, drafted, last⟩
    exact ⟨readable, v, draft, first, drafted, last⟩

theorem textRequest_eq_ok_iff (members : Fields) (request : Request) :
    textRequest (.object members) = .ok request ↔
      ∃ id text, given members "text" = [.text text] ∧
        (given members "id" = id.toList.map .text ∨ id = none ∧ given members "id" = [.null]) ∧
        request = .plain id text := by
  simp only [textRequest, bind_eq_ok_iff, objectRecord_eq_ok_iff, List.forall_mem_cons]
  constructor
  next =>
    rintro ⟨_, ⟨⟨named, single, _⟩, rfl⟩, id, idRead, text, textRead, made⟩
    obtain ⟨v, given, read⟩ := (required_eq_ok_iff single _ _).mp textRead
    obtain rfl : v = .text text := by cases v <;> simp_all [readText]
    exact ⟨id, text, given, (optionalText_eq_ok_iff named id).mp idRead, (Except.ok.inj made).symm⟩
  next =>
    rintro ⟨id, text, given, identity, rfl⟩
    have single : occurrences members "text" ≤ 1 := by simp [occurrences_eq_length, given]
    have named : occurrences members "id" ≤ 1 := by
      rw [occurrences_eq_length]
      rcases identity with named | ⟨_, null⟩
      · cases id <;> simp [named]
      · simp [null]
    exact ⟨_, ⟨⟨named, single, by simp⟩, rfl⟩, id, (optionalText_eq_ok_iff named id).mpr identity,
      text, (required_eq_ok_iff single _ _).mpr ⟨_, given, rfl⟩, rfl⟩

theorem textRequest_orderly (v : Value) : Orderly (textRequest v) :=
  (objectRecord_orderly _ v).bind fun fields =>
    (fields.optional_orderly readText_orderly _).bind fun _ =>
      (fields.required_orderly readText_orderly _).bind fun _ => .ok _

theorem ofValue_ready_iff (members : Fields) (document : Document) :
    Request.ofValue (.object members) = .ok (.ready document) ↔
      ∃ v, given members "document" = [v] ∧ Document.ofValue v = .ok document := by
  constructor
  next =>
    intro made
    rw [Request.ofValue] at made
    split at made
    next first =>
      obtain ⟨v, same, given, read, rfl⟩ := (documentRequest_eq_ok_iff members _).mp first
      obtain rfl := Request.ready.inj (Except.ok.inj made)
      exact ⟨v, given, read⟩
    next => cases made
    next =>
      obtain ⟨_, _, _, _, other⟩ := (textRequest_eq_ok_iff members _).mp made
      cases other
  next =>
    rintro ⟨v, given, read⟩
    have first := (documentRequest_eq_ok_iff members _).mpr ⟨v, document, given, read, rfl⟩
    rw [Request.ofValue, first]

theorem ofValue_panics_iff (members : Fields) (cause : Panic) :
    Request.ofValue (.object members) = .error (.panic cause) ↔
      documentRequest (.object members) = .error (.panic cause) := by
  unfold Request.ofValue
  split
  next first => simp [first]
  next first => rw [first]
  next misfit calm first =>
    have orderly := textRequest_orderly (.object members) cause
    constructor
    next => exact fun ended => absurd ended orderly
    next =>
      intro ended
      exact absurd (Except.error.inj (first.symm.trans ended)) (calm cause)

theorem ofValue_plain_iff (members : Fields) (id : Option String) (text : String) :
    Request.ofValue (.object members) = .ok (.plain id text) ↔
      (∀ document, documentRequest (.object members) ≠ .ok (.ready document)) ∧
      (∀ cause, documentRequest (.object members) ≠ .error (.panic cause)) ∧
      textRequest (.object members) = .ok (.plain id text) := by
  unfold Request.ofValue
  split
  next first =>
    obtain ⟨v, document, _, _, rfl⟩ := (documentRequest_eq_ok_iff members _).mp first
    simp [first]
  next cause first => simp [first]
  next misfit calm first => simpa [first] using fun _ cause => calm cause

section

variable {body : String} {after : List Char} (read : Json.read body = some (.object members, after))
  (short : body.utf8ByteSize ≤ bodyLimit)

include read short

theorem ofBody_eq : Request.ofBody body =
    if Value.membersReadable members then
      match Request.ofValue (.object members) with
      | .ok request => .ok request
      | .error (.panic _) => .error .broken
      | .error _ => .error .wrongShape
    else .error .notJson := by
  rw [Request.ofBody, if_neg (Nat.not_lt.mpr short), read]
  rfl

theorem ofBody_eq_ok_iff (request : Request) :
    Request.ofBody body = .ok request ↔
      Value.membersReadable members = true ∧ Request.ofValue (.object members) = .ok request := by
  rw [ofBody_eq read short]
  cases Value.membersReadable members with
  | false => simp
  | true =>
    cases Request.ofValue (.object members) with
    | ok made => simp
    | error misfit => cases misfit <;> simp

theorem ofBody_broken_iff :
    Request.ofBody body = .error .broken ↔ Overflows members := by
  simp only [overflows_iff, ← ofValue_panics_iff]
  rw [ofBody_eq read short]
  cases Value.membersReadable members with
  | false => simp
  | true =>
    cases Request.ofValue (.object members) with
    | ok made => simp
    | error misfit => cases misfit <;> simp

/-- A body that is not too long and does not end the run is rejected for its form. -/
theorem ofBody_eq_error (rejection : Rejection) (calm : ¬ Overflows members)
    (rejected : Request.ofBody body = .error rejection) :
    rejection = if Value.membersReadable members then .wrongShape else .notJson := by
  rw [← ofBody_broken_iff read short] at calm
  rw [ofBody_eq read short] at rejected calm
  cases readable : Value.membersReadable members with
  | false => simpa [readable] using rejected.symm
  | true =>
    cases made : Request.ofValue (.object members) with
    | ok request => simp [readable, made] at rejected
    | error misfit => cases misfit <;> simp_all

theorem ofBody_ready_iff (document : Document) :
    Request.ofBody body = .ok (.ready document) ↔ Submits members document := by
  rw [ofBody_eq_ok_iff read short, ofValue_ready_iff]
  exact ⟨fun submitted => ⟨submitted.1, submitted.2⟩, fun submitted =>
    ⟨submitted.readable, submitted.single⟩⟩

theorem ofBody_plain_iff (id : Option String) (text : String) :
    Request.ofBody body = .ok (.plain id text) ↔
      (¬ ∃ document, Submits members document) ∧ ¬ Overflows members ∧
        HasText members id text := by
  constructor
  next =>
    intro plain
    have found := ((ofBody_eq_ok_iff read short _).mp plain)
    obtain ⟨_, _, made⟩ := (ofValue_plain_iff members id text).mp found.2
    obtain ⟨_, _, given, identity, same⟩ := (textRequest_eq_ok_iff members _).mp made
    obtain ⟨rfl, rfl⟩ := Request.plain.inj same
    refine ⟨?_, ?_, found.1, given, identity⟩
    next =>
      rintro ⟨document, submitted⟩
      cases plain.symm.trans ((ofBody_ready_iff read short document).mpr submitted)
    next =>
      intro overflows
      cases plain.symm.trans ((ofBody_broken_iff read short).mpr overflows)
  next =>
    rintro ⟨none, calm, readable, given, identity⟩
    have made := (textRequest_eq_ok_iff members _).mpr ⟨id, text, given, identity, rfl⟩
    refine (ofBody_eq_ok_iff read short _).mpr ⟨readable, (ofValue_plain_iff _ _ _).mpr ⟨?_, ?_, made⟩⟩
    next =>
      intro document first
      obtain ⟨v, _, submitted, accepted, same⟩ := (documentRequest_eq_ok_iff members _).mp first
      obtain rfl := Request.ready.inj same
      exact none ⟨document, readable, v, submitted, accepted⟩
    next =>
      intro cause first
      exact calm ((overflows_iff members).mpr ⟨readable, cause, first⟩)

end

/-- A body with a document that is read and well formed is answered with what becomes of that
document, whatever else is in the body. Any other body is answered by its text if it has one, also
where a broken document is given with it; it is rejected only if it has none, if it is too long, or
if reading it ends in the middle. -/
theorem answer_cases (pipeline : Pipeline) (clock : Clock) (taken : Nat) (body : String)
    (members : Fields) (after : List Char)
    (read : Json.read body = some (.object members, after)) :
    (bodyLimit < body.utf8ByteSize → answer pipeline clock taken body = .error .tooLong) ∧
    (∀ draft, Drafts members draft → ((∃ document, Submits members document) ↔
      draft.WellFormed ∧ ∀ a ∈ draft.annotations, a.id < maxIndex)) ∧
    (body.utf8ByteSize ≤ bodyLimit →
      (∀ document, Submits members document →
        answer pipeline clock taken body = .ok (respond pipeline clock taken (.ready document)) ∧
          ∃ draft, Drafts members draft ∧ draft.WellFormed ∧ draft.Becomes document) ∧
      (Overflows members → answer pipeline clock taken body = .error .broken) ∧
      ((¬ ∃ document, Submits members document) → ¬ Overflows members →
        (∀ id text, HasText members id text →
          answer pipeline clock taken body =
            .ok (respond pipeline clock taken (.plain id text))) ∧
        ((¬ ∃ id text, HasText members id text) →
          answer pipeline clock taken body =
            .error (if Value.membersReadable members then .wrongShape else .notJson)))) := by
  refine ⟨fun long => ?_, fun draft => Drafts.submits_iff, fun short => ⟨?_, ?_, ?_⟩⟩
  next =>
    rw [answer, Request.ofBody, if_pos long]
    rfl
  next =>
    intro document submitted
    rw [answer, (ofBody_ready_iff read short document).mpr submitted]
    obtain ⟨draft, drafted⟩ := submitted.drafts
    exact ⟨rfl, draft, drafted, (drafted.submits_iff.mp ⟨document, submitted⟩).1,
      drafted.becomes submitted⟩
  next =>
    intro overflows
    rw [answer, (ofBody_broken_iff read short).mpr overflows]
    rfl
  next =>
    intro none calm
    constructor
    next =>
      intro id text given
      rw [answer, (ofBody_plain_iff read short id text).mpr ⟨none, calm, given⟩]
      rfl
    next =>
      intro bare
      cases outcome : Request.ofBody body with
      | error rejection =>
        rw [answer, outcome, ← ofBody_eq_error read short rejection calm outcome]
        rfl
      | ok request =>
        cases request with
        | ready document =>
          exact absurd ⟨document, (ofBody_ready_iff read short document).mp outcome⟩ none
        | plain id text =>
          exact absurd ⟨id, text, ((ofBody_plain_iff read short id text).mp outcome).2.2⟩ bare

-- A document may be given by position, and is processed before a text all the same.
example :
    Request.ofValue (.object [("document", .array [.text "d", .array [.object [("id", .text "s1"),
      ("tokens", .array [.array [.text "Jan"]])]]]), ("text", .text "Ana")]) =
        .ok (.ready (.ofSentences "d" [Sentence.ofOrths "s1" ["Jan"]])) := by decide +kernel

def withText (document : Document) : Value :=
  .object [("document", document.toValue), ("text", .text "Ana")]

theorem answer_cases_of_janNowak :
    let body := Json.render (withText (.janNowak 0 1))
    (∃ members, Json.read body = some (.object members, []) ∧ Submits members (.janNowak 0 1)) ∧
      answer .empty (fun _ => 0) 0 body =
        .ok (respond .empty (fun _ => 0) 0 (.ready (.janNowak 0 1))) := by
  intro body
  have read := Json.read_render (withText (.janNowak 0 1)) (by decide +kernel)
  have accepted : Document.ofValue (Document.janNowak 0 1).toValue.settled =
      .ok (.janNowak 0 1) := by
    decide +kernel
  have submitted : Submits (Value.membersSettled
      [("document", (Document.janNowak 0 1).toValue), ("text", .text "Ana")]) (.janNowak 0 1) :=
    ⟨by decide +kernel, _, rfl, accepted⟩
  obtain ⟨_, _, processed⟩ := answer_cases .empty (fun _ => 0) 0 body _ [] read
  exact ⟨⟨_, read, submitted⟩, ((processed (by decide +kernel)).1 _ submitted).1⟩

-- The span of the document ends after its sentence.
theorem text_replaces_overlong :
    let overlong : Document :=
      { Document.janNowak 0 1 with
        annotations := Arena.empty.insert ⟨0, 0, 0, 2, "PERSON", none, 0, ""⟩ }
    let body := Json.render (withText overlong)
    let response := respond .empty (fun _ => 0) 0 (.plain none "Ana")
    overlong.check = .error (.spanOutside 0 0 2 "s1" 2) ∧
      answer .empty (fun _ => 0) 0 body = .ok response ∧ response.status = 200 := by
  intro overlong body response
  have read := Json.read_render (withText overlong) (by decide +kernel)
  have refused : Document.ofValue overlong.toValue.settled =
      .error (.document (.spanOutside 0 0 2 "s1" 2)) := by decide +kernel
  have request : Request.ofBody body = .ok (.plain none "Ana") := by
    refine (ofBody_plain_iff read (by decide +kernel) none "Ana").mpr
      ⟨?_, ?_, by decide +kernel, rfl, .inl rfl⟩
    next =>
      rintro ⟨document, _, v, same, accepted⟩
      cases same
      cases refused.symm.trans accepted
    next =>
      rw [overflows_iff]
      rintro ⟨_, cause, ended⟩
      obtain ⟨v, first, failed⟩ := (documentRequest_panics_iff _ cause).mp ended
      cases first
      cases refused.symm.trans failed
  refine ⟨rfl, ?_, ?_⟩
  next =>
    rw [answer, request]
    rfl
  next => rfl

end Service

end SpanAnnotation
