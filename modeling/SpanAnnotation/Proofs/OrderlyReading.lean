import SpanAnnotation.Proofs.Admission

/-!
Reading that does not end the run. Data of another form is refused, and so is a document that breaks
the span model; a reader by itself computes nothing that could run over.
-/

set_option autoImplicit false

namespace SpanAnnotation

namespace Wire

def Orderly {α : Type} (outcome : Except Misfit α) : Prop :=
  ∀ cause, outcome ≠ .error (.panic cause)

variable {α β : Type}

namespace Orderly

theorem ok (a : α) : Orderly (.ok a) := by simp [Orderly]

theorem shape : Orderly (α := α) (.error .shape) := by simp [Orderly]

theorem bind {first : Except Misfit α} {next : α → Except Misfit β} (orderly : Orderly first)
    (each : ∀ a, Orderly (next a)) : Orderly (first >>= next) := by
  cases first with
  | error e =>
    intro cause ended
    exact orderly cause (congrArg Except.error (Except.error.inj ended))
  | ok a => exact each a

theorem map {first : Except Misfit α} (f : α → β) (orderly : Orderly first) :
    Orderly (f <$> first) := by
  cases first with
  | error e =>
    intro cause ended
    exact orderly cause (congrArg Except.error (Except.error.inj ended))
  | ok a => exact .ok (f a)

end Orderly

theorem readNat_orderly (v : Value) : Orderly (readNat v) := by
  unfold readNat
  split
  next =>
    split
    next => exact .ok _
    next => exact .shape
  next => exact .shape

theorem readText_orderly (v : Value) : Orderly (readText v) := by
  unfold readText
  split
  next => exact .ok _
  next => exact .shape

variable {read : Read α} (each : ∀ v, Orderly (read v))

include each

theorem readItems_orderly (items : List Value) : Orderly (readItems read items) := by
  induction items with
  | nil => exact .ok []
  | cons v rest ih => exact (each v).bind fun _ => ih.bind fun _ => .ok _

theorem readList_orderly (v : Value) : Orderly (readList read v) := by
  unfold readList
  split
  next => exact readItems_orderly each _
  next => exact .shape

theorem readOption_orderly (v : Value) : Orderly (readOption read v) := by
  unfold readOption
  split
  next => exact .ok none
  next => exact (each v).map some

theorem Fields.required_orderly (fields : Fields) (name : String) :
    Orderly (fields.required name read) := by
  unfold required
  split
  next v _ => exact each v
  next => exact .shape

theorem Fields.withDefault_orderly (fields : Fields) (name : String) (default : α) :
    Orderly (fields.withDefault name read default) := by
  unfold withDefault
  split
  next v _ => exact each v
  next => exact .ok default

theorem Fields.optional_orderly (fields : Fields) (name : String) :
    Orderly (fields.optional name read) := by
  unfold optional
  split
  next v _ => exact readOption_orderly each v
  next => exact .ok none

omit each

theorem objectRecord_orderly (names : List String) (v : Value) : Orderly (objectRecord names v) := by
  unfold objectRecord
  split
  next =>
    split
    next => exact .ok _
    next => exact .shape
  next => exact .shape

/-- What comes after the value of a text can no longer end the run. -/
theorem Json.decode_panics_iff (reader : Read α) (text : String) (cause : Panic) :
    Json.decode reader text = .error (.panic cause) ↔
      ∃ v after, Json.read text = some (v, after) ∧ reader v = .error (.panic cause) := by
  unfold Json.decode
  cases Json.read text with
  | none => simp
  | some found =>
    obtain ⟨v, after⟩ := found
    simp only [Option.some.injEq, Prod.mk.injEq]
    cases read : reader v with
    | error e => simp [read, bind, Except.bind]
    | ok result =>
      simp only [bind, Except.bind]
      split <;> simp [read, pure, Except.pure]

theorem record_orderly (names : List String) (v : Value) : Orderly (record names v) := by
  unfold record
  split
  next =>
    split
    next => exact .ok _
    next => exact .shape
  next => exact objectRecord_orderly names _

end Wire

open Wire

theorem Token.ofValue_orderly (v : Value) : Orderly (ofValue v) :=
  (record_orderly _ v).bind fun fields =>
    (fields.required_orderly readText_orderly _).bind fun _ =>
      (fields.withDefault_orderly readNat_orderly _ _).bind fun _ =>
        (fields.withDefault_orderly readNat_orderly _ _).bind fun _ =>
          (fields.withDefault_orderly readNat_orderly _ _).bind fun _ => .ok _

theorem Annotation.ofValue_orderly (v : Value) : Orderly (ofValue v) :=
  (record_orderly _ v).bind fun fields =>
    (fields.required_orderly readNat_orderly _).bind fun _ =>
      (fields.required_orderly readNat_orderly _).bind fun _ =>
        (fields.required_orderly readNat_orderly _).bind fun _ =>
          (fields.required_orderly readNat_orderly _).bind fun _ =>
            (fields.required_orderly readText_orderly _).bind fun _ =>
              (fields.optional_orderly readNat_orderly _).bind fun _ =>
                (fields.withDefault_orderly readNat_orderly _ _).bind fun _ =>
                  (fields.withDefault_orderly readText_orderly _ _).bind fun _ => .ok _

theorem Relation.ofValue_orderly (v : Value) : Orderly (ofValue v) :=
  (record_orderly _ v).bind fun fields =>
    (fields.required_orderly readNat_orderly _).bind fun _ =>
      (fields.required_orderly readNat_orderly _).bind fun _ =>
        (fields.required_orderly readText_orderly _).bind fun _ =>
          (fields.withDefault_orderly readText_orderly _ _).bind fun _ => .ok _

theorem AttributeTable.Draft.ofValue_orderly (v : Value) : Orderly (ofValue v) :=
  (record_orderly _ v).bind fun fields =>
    (fields.required_orderly (readList_orderly readText_orderly) _).bind fun _ =>
      (fields.required_orderly readNat_orderly _).bind fun _ =>
        (fields.withDefault_orderly
          (readList_orderly (readList_orderly (readOption_orderly readText_orderly))) _ _).bind
            fun _ => .ok _

theorem Sentence.Draft.ofValue_orderly (v : Value) : Orderly (ofValue v) :=
  (record_orderly _ v).bind fun fields =>
    (fields.withDefault_orderly readText_orderly _ _).bind fun _ =>
      (fields.required_orderly (readList_orderly Token.ofValue_orderly) _).bind fun _ =>
        (fields.optional_orderly AttributeTable.Draft.ofValue_orderly _).bind fun _ => .ok _

theorem Document.Draft.ofValue_orderly (v : Value) : Orderly (ofValue v) :=
  (record_orderly _ v).bind fun fields =>
    (fields.withDefault_orderly readText_orderly _ _).bind fun _ =>
      (fields.required_orderly (readList_orderly Sentence.Draft.ofValue_orderly) _).bind fun _ =>
        (fields.withDefault_orderly (readList_orderly Annotation.ofValue_orderly) _ _).bind fun _ =>
          (fields.withDefault_orderly (readList_orderly Relation.ofValue_orderly) _ _).bind fun _ =>
            (fields.withDefault_orderly readNat_orderly _ _).bind fun _ => .ok _

end SpanAnnotation
