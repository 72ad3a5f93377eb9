import SpanAnnotation.Proofs.OrderlyReading

/-!
Where identities end. A document that is read has a counter above all of its identities, each addition
that succeeds extends the document, and a number that would be too large for the counter ends the run:
when a text with the last identity is read, and when an addition finds the counter at its last value.
-/

set_option autoImplicit false

namespace SpanAnnotation

open Document Wire

-- One addition.

/-- The new identity was free, what was there stays, and the result is valid. -/
structure Document.Extends (before : Document) (id : Nat) (after : Document) : Prop where
  new : before.annotations.contains id = false
  kept : before.annotations.entries ⊆ after.annotations.entries
  valid : after.validate = .ok ()

structure Addition where
  sentence : Nat
  proposal : Proposal
  source : String

namespace Addition

variable (addition : Addition) (document : Document)

def outcome : Except Error (Document × Nat) :=
  document.add addition.sentence addition.proposal addition.source

-- A refused addition leaves the document as it was.
def after : Document :=
  match addition.outcome document with
  | .ok (longer, _) => longer
  | .error _ => document

/-- No rule refuses the addition. -/
def isAllowed : Bool :=
  Except.isOk <| checkAnnotation document.sentences <|
    document.proposed addition.sentence addition.proposal addition.source

theorem isAllowed_iff : addition.isAllowed document = true ↔
    (document.proposed addition.sentence addition.proposal addition.source).Fits document.sizes := by
  rw [Document.sizes, ← checkAnnotation_eq_ok_iff, isAllowed]
  cases checkAnnotation document.sentences
    (document.proposed addition.sentence addition.proposal addition.source) <;>
    simp [Except.isOk, Except.toBool]

/-- The rules do not ask which identity is given out. -/
theorem isAllowed_congr (other : Document) (same : other.sentences = document.sentences) :
    addition.isAllowed other = addition.isAllowed document := by
  rw [Bool.eq_iff_iff, isAllowed_iff, isAllowed_iff, Document.sizes, Document.sizes, same]
  constructor
  next => exact fun fits => ⟨fits.inside, fits.upright, fits.head, fits.category⟩
  next => exact fun fits => ⟨fits.inside, fits.upright, fits.head, fits.category⟩

theorem outcome_cases :
    (addition.isAllowed document = false ∧
        ∃ fault, addition.outcome document = .error (.invalidDocument fault)) ∨
      (addition.isAllowed document = true ∧ maxIndex ≤ document.nextId ∧
        addition.outcome document = .error (.panic .overflow)) ∨
      (addition.isAllowed document = true ∧ document.nextId < maxIndex ∧
        ∃ longer id, addition.outcome document = .ok (longer, id)) := by
  unfold isAllowed outcome
  cases added : document.add addition.sentence addition.proposal addition.source with
  | ok result =>
    obtain ⟨fits, room, _⟩ := (document.add_eq_ok_iff _ _ _ _ _).mp added
    have allowed := (addition.isAllowed_iff document).mpr fits
    exact .inr (.inr ⟨allowed, room, result.1, result.2, rfl⟩)
  | error e =>
    obtain ⟨fault, failed, rfl⟩ | ⟨full, rfl⟩ := document.add_fails _ _ _ e added
    next => exact .inl ⟨by rw [failed]; rfl, fault, rfl⟩
    next =>
      refine .inr (.inl ⟨?_, full, rfl⟩)
      -- A rule would have been broken first.
      rw [Document.add, ← Document.proposed] at added
      cases checked : checkAnnotation document.sentences
        (document.proposed addition.sentence addition.proposal addition.source) with
      | ok => rfl
      | error fault => simp [checked] at added

end Addition

namespace Document

variable (document : Document)

theorem add_extends (longer : Document) (sound : document.Sound) (sentence id : Nat)
    (proposal : Proposal) (source : String)
    (added : document.add sentence proposal source = .ok (longer, id)) :
    document.Extends id longer := by
  have entries := document.add_entries longer sound sentence id proposal source added
  have step := document.add_evolves longer sound sentence id proposal source added
  constructor
  next =>
    obtain rfl := ((document.add_eq_ok_iff longer sentence id proposal source).mp added).2.2.2
    rw [Bool.eq_false_iff, ne_eq, Arena.contains_iff]
    rintro ⟨a, present, same⟩
    exact absurd (sound.identities a present) (by omega)
  next => simp [entries]
  next => exact (validate_eq_ok_iff longer).mpr step.sound

-- Additions one after the other.

/-- Every addition that succeeds extends the document that it finds. -/
def AllExtend (document : Document) : List Addition → Prop
  | [] => True
  | addition :: rest =>
      (∀ longer id, addition.outcome document = .ok (longer, id) → document.Extends id longer) ∧
      (addition.after document).AllExtend rest

/-- An addition finds no identity any more, which ends the run. -/
def RunsOver (document : Document) : List Addition → Prop
  | [] => False
  | addition :: rest =>
      addition.outcome document = .error (.panic .overflow) ∨
      (addition.after document).RunsOver rest

theorem allExtend (sound : document.Sound) (additions : List Addition) :
    document.AllExtend additions := by
  induction additions generalizing document with
  | nil => trivial
  | cons addition rest ih =>
    refine ⟨fun longer id added => document.add_extends longer sound _ id _ _ added, ih _ ?_⟩
    unfold Addition.after
    split
    next longer id added => exact (document.add_evolves longer sound _ id _ _ added).sound
    next => exact sound

theorem runsOver_iff (counter : document.nextId ≤ maxIndex) (additions : List Addition) :
    document.RunsOver additions ↔
      maxIndex < document.nextId + additions.countP (·.isAllowed document) := by
  induction additions generalizing document with
  | nil => simpa [RunsOver] using counter
  | cons addition rest ih =>
    rw [RunsOver, List.countP_cons]
    obtain ⟨refused, fault, outcome⟩ | ⟨allowed, full, outcome⟩ | ⟨allowed, room, longer, id,
      outcome⟩ := addition.outcome_cases document
    next =>
      have same : addition.after document = document := by rw [Addition.after, outcome]
      simp [same, refused, outcome, ih document counter]
    next =>
      simp only [outcome, allowed, true_or, true_iff, if_true]
      omega
    next =>
      have next : addition.after document = longer := by rw [Addition.after, outcome]
      have effect := ((document.add_eq_ok_iff longer _ id _ _).mp outcome).2.2.1
      have moved : longer.nextId = document.nextId + 1 := by rw [effect]
      have rules (other : Addition) : other.isAllowed longer = other.isAllowed document :=
        other.isAllowed_congr document longer (by rw [effect])
      have later := ih longer (by omega)
      simp only [rules] at later
      simp only [next, outcome, allowed, reduceCtorEq, false_or, later, if_true]
      omega

end Document

-- Documents that are read.

theorem Wire.lt_of_required (fields : Fields) (name : String) (n : Nat)
    (found : fields.required name readNat = .ok n) : n < natLimit := by
  unfold Fields.required at found
  split at found
  next v _ => exact lt_of_readNat v n found
  next => simp at found

theorem Annotation.ofValue_id (v : Value) (a : Annotation)
    (accepted : Annotation.ofValue v = .ok a) : a.id < natLimit := by
  simp only [bind_eq_ok_iff, Annotation.ofValue] at accepted
  obtain ⟨_, _, id, idRead, _, _, _, _, _, _, _, _, _, _, _, _, _, _, built⟩ := accepted
  obtain rfl := Except.ok.inj built
  exact lt_of_required _ _ _ idRead

namespace Document

namespace Draft

theorem ofValue_small (v : Value) (draft : Draft) (read : Draft.ofValue v = .ok draft) :
    draft.nextId ≤ maxIndex ∧ ∀ a ∈ draft.annotations, a.id ≤ maxIndex := by
  simp only [Draft.ofValue, bind_eq_ok_iff] at read
  obtain ⟨_, _, _, _, _, _, annotations, annotationsRead, _, _, nextId, nextIdRead, built⟩ := read
  obtain rfl := Except.ok.inj built
  refine ⟨Nat.le_of_lt_succ (lt_of_withDefault _ _ _ nextIdRead), fun a present => ?_⟩
  obtain ⟨v, read⟩ := exists_of_withDefault _ _ _ annotations annotationsRead a present
  exact Nat.le_of_lt_succ (a.ofValue_id v read)

theorem toDocument_counter (draft : Draft) (document : Document) (small : draft.nextId ≤ maxIndex)
    (made : draft.toDocument = .ok document) :
    document.Sound ∧ document.nextId ≤ maxIndex := by
  obtain ⟨sound, _, _, fresh, after, counter⟩ := assemble_eq_ok _ _ _ _ _ _ made
  have room := ((freshAfter_eq_some_iff _ fresh).mp after).1
  have below := freshAfter_le _ fresh maxIndex after room
  exact ⟨sound, by omega⟩

theorem toDocument_panics_iff (draft : Draft) (cause : Panic) :
    draft.toDocument = .error (.panic cause) ↔
      cause = .overflow ∧ ∃ a ∈ draft.annotations, maxIndex ≤ a.id := by
  constructor
  next =>
    intro ended
    obtain ⟨same, last⟩ | ⟨⟨fault, other⟩, _⟩ := draft.toDocument_fails _ ended
    next => exact ⟨Misfit.panic.inj same, last⟩
    next => cases other
  next =>
    rintro ⟨rfl, a, present, last⟩
    cases made : draft.toDocument with
    | ok document =>
      have room := ((draft.toDocument_eq_ok_iff document).mp made).1 a present
      exact absurd last (Nat.not_le_of_lt room)
    | error misfit =>
      obtain ⟨rfl, _⟩ | ⟨_, room⟩ := draft.toDocument_fails misfit made
      next => rfl
      next => exact absurd last (Nat.not_le_of_lt (room a present))

end Draft

/-- Reading a value ends the run just when its annotations have the last identity. -/
theorem ofValue_panics_iff (v : Value) (cause : Panic) :
    Document.ofValue v = .error (.panic cause) ↔
      cause = .overflow ∧ ∃ draft, Draft.ofValue v = .ok draft ∧
        ∃ a ∈ draft.annotations, a.id = maxIndex := by
  rw [Draft.ofValue_toDocument]
  cases read : Draft.ofValue v with
  | error e =>
    have orderly := Draft.ofValue_orderly v cause
    rw [read] at orderly
    simpa [bind, Except.bind] using fun ended => orderly (congrArg Except.error ended)
  | ok draft =>
    have small := (Draft.ofValue_small v draft read).2
    simp only [Except.ok.injEq, exists_eq_left']
    rw [← and_congr_right_iff.mpr fun _ => exists_congr fun a => and_congr_right fun present =>
      ⟨fun last => Nat.le_antisymm (small a present) last, Nat.le_of_eq ∘ Eq.symm⟩]
    exact draft.toDocument_panics_iff cause

/-- Reading a text ends the run when it has the last identity, and otherwise nothing runs over. The
document that is read has a counter above its identities; every addition that succeeds extends it,
and one that the rules allow comes to nothing just when the counter has used up its values. -/
theorem accepted_extends_until_last (text : String) :
    (∀ cause, Json.decode Document.ofValue text = .error (.panic cause) ↔
      cause = .overflow ∧ ∃ v after draft, Json.read text = some (v, after) ∧
        Draft.ofValue v = .ok draft ∧ ∃ a ∈ draft.annotations, a.id = maxIndex) ∧
    ∀ document, Json.decode Document.ofValue text = .ok document →
      (∀ a ∈ document.annotations.entries, a.id < document.nextId) ∧
        document.nextId ≤ maxIndex ∧
        ∀ additions, document.AllExtend additions ∧
          (document.RunsOver additions ↔
            maxIndex < document.nextId + additions.countP (·.isAllowed document)) := by
  constructor
  next =>
    intro cause
    simp only [Json.decode_panics_iff, ofValue_panics_iff, and_left_comm (b := cause = .overflow),
      exists_and_left]
  next =>
    intro document accepted
    obtain ⟨v, _, _, read, _⟩ := (Json.decode_eq_ok_iff _ _ _).mp accepted
    rw [Draft.ofValue_toDocument, bind_eq_ok_iff] at read
    obtain ⟨draft, drafted, made⟩ := read
    obtain ⟨sound, counter⟩ :=
      draft.toDocument_counter document (Draft.ofValue_small v draft drafted).1 made
    exact ⟨sound.identities, counter, fun additions =>
      ⟨document.allExtend sound additions, document.runsOver_iff counter additions⟩⟩

def janNowak (id nextId : Nat) : Document :=
  { ofSentences "d" [Sentence.ofOrths "s1" ["Jan", "Nowak"]] with
    annotations := Arena.empty.insert ⟨id, 0, 0, 0, "PERSON", none, 0, ""⟩
    nextId := nextId }

theorem janNowak_reloads (nextId : Nat) (above : 0 < nextId) (last : nextId ≤ maxIndex) :
    Json.decode ofValue (Json.render (janNowak 0 nextId).toValue) = .ok (janNowak 0 nextId) := by
  have portable : (janNowak 0 nextId).Portable := by
    refine ⟨List.forall_mem_singleton.mpr ?_, by simp [janNowak, ofSentences, natLimit],
      List.forall_mem_singleton.mpr (by decide)⟩
    exact Sentence.ofTokens_portable _ _ (by simp [Token.Small, Token.ofOrth, natLimit])
  have sound : (janNowak 0 nextId).Sound := by
    refine ⟨List.forall_mem_singleton.mpr rfl, List.forall_mem_singleton.mpr above,
      List.forall_mem_singleton.mpr ⟨⟨2, rfl, by decide⟩, by decide, by decide, by decide⟩, ?_⟩
    exact fun _ present => absurd present List.not_mem_nil
  exact decode_render _ sound portable (Nat.lt_succ_of_le last)

/-- A document with the last counter is accepted, and an addition that the rules allow ends the run;
so does reading a document that has the last identity. -/
theorem lastCounter_runs_over :
    Json.decode ofValue (Json.render (janNowak 0 maxIndex).toValue) = .ok (janNowak 0 maxIndex) ∧
      (⟨0, .plain 0 1 "PERSON", ""⟩ : Addition).isAllowed (janNowak 0 maxIndex) = true ∧
      (janNowak 0 maxIndex).add 0 (.plain 0 1 "PERSON") "" = .error (.panic .overflow) ∧
      Json.decode ofValue (Json.render (janNowak maxIndex 0).toValue) =
        .error (.panic .overflow) := by
  refine ⟨janNowak_reloads maxIndex (by decide) (Nat.le_refl _), rfl, rfl, ?_⟩
  rw [Json.decode_render _ _ (janNowak maxIndex 0).toValue_plain]
  decide +kernel

theorem lastButOne_extends_once :
    (janNowak 0 (maxIndex - 1)).AllExtend
        [⟨0, .plain 0 1 "PERSON", ""⟩, ⟨0, .plain 1 1 "PERSON", ""⟩] ∧
      ¬ (janNowak 0 (maxIndex - 1)).RunsOver [⟨0, .plain 0 1 "PERSON", ""⟩] ∧
      (janNowak 0 (maxIndex - 1)).RunsOver
        [⟨0, .plain 0 1 "PERSON", ""⟩, ⟨0, .plain 1 1 "PERSON", ""⟩] := by
  have read := janNowak_reloads (maxIndex - 1) (by decide) (by decide)
  obtain ⟨_, _, additions⟩ := (accepted_extends_until_last _).2 _ read
  refine ⟨(additions _).1, ?_, ?_⟩
  next =>
    rw [(additions _).2]
    decide +kernel
  next =>
    rw [(additions _).2]
    decide +kernel

end Document

end SpanAnnotation
