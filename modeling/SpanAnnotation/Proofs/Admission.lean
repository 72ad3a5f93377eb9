import Mathlib.Algebra.Ring.Nat
import SpanAnnotation.Proofs.Origins

/-!
Which documents are admitted. A draft is a document as it comes in, before anything is made of it:
tables may be missing or untidy, tokens numbered anyhow, and the next identity too low. What a draft
lacks is supplied before it is checked, and that neither hides nor creates a broken rule: it is
admitted exactly when it is well formed as it stands.
-/

set_option autoImplicit false

namespace SpanAnnotation

open Wire

namespace Wire

variable {α β : Type} (read : Read α) (f : α → β)

theorem readItems_map_eq (items : List Value) :
    readItems (fun v => f <$> read v) items = List.map f <$> readItems read items := by
  induction items with
  | nil => rfl
  | cons v rest ih =>
    simp only [readItems, ih]
    cases read v with
    | error misfit => rfl
    | ok item => cases readItems read rest <;> rfl

theorem readList_map_eq (v : Value) :
    readList (fun v => f <$> read v) v = List.map f <$> readList read v := by
  cases v with
  | array items => exact readItems_map_eq read f items
  | _ => rfl

theorem readOption_map_eq (v : Value) :
    readOption (fun v => f <$> read v) v = Option.map f <$> readOption read v := by
  unfold readOption
  split
  next => rfl
  next =>
    show some <$> f <$> read v = Option.map f <$> some <$> read v
    cases read v <;> rfl

theorem required_list_map_eq (fields : Fields) (name : String) :
    fields.required name (readList fun v => f <$> read v) =
      List.map f <$> fields.required name (readList read) := by
  unfold Fields.required
  split
  next v _ => exact readList_map_eq read f v
  next => rfl

theorem optional_map_eq (fields : Fields) (name : String) :
    fields.optional name (fun v => f <$> read v) = Option.map f <$> fields.optional name read := by
  unfold Fields.optional
  split
  next v _ => exact readOption_map_eq read f v
  next => rfl

theorem Json.decode_eq_ok_iff {α : Type} (reader : Read α) (text : String) (result : α) :
    Json.decode reader text = .ok result ↔
      ∃ v after, Json.read text = some (v, after) ∧ reader v = .ok result ∧
        after.all Json.isSpace = true := by
  unfold Json.decode
  constructor
  · intro accepted
    split at accepted
    next => simp at accepted
    next v after found =>
      obtain ⟨same, read, ended⟩ := (bind_eq_ok_iff _ _ _).mp accepted
      split at ended
      next blank =>
        obtain rfl := Except.ok.inj ended
        exact ⟨v, after, found, read, blank⟩
      next => simp at ended
  · rintro ⟨v, after, found, read, blank⟩
    simp [found, read, blank, bind, Except.bind, pure, Except.pure]

end Wire

-- Drafts.

structure AttributeTable.Draft where
  names : List String
  tokenCount : Nat
  columns : List (List (Option String))
  deriving DecidableEq, Repr

namespace AttributeTable.Draft

def ofValue (v : Value) : Except Misfit Draft := do
  let fields ← record ["names", "token_count", "columns"] v
  return {
    names := ← fields.required "names" (readList readText)
    tokenCount := ← fields.required "token_count" readNat
    columns := ← fields.withDefault "columns" (readList (readList (readOption readText))) [] }

def complete (draft : Draft) : AttributeTable :=
  (empty draft.tokenCount).fill draft.names draft.columns

theorem complete_tokenCount (draft : Draft) : draft.complete.tokenCount = draft.tokenCount :=
  fill_tokenCount _ _ _

theorem ofValue_complete (v : Value) :
    AttributeTable.ofValue v = complete <$> Draft.ofValue v := by
  simp only [AttributeTable.ofValue, Draft.ofValue, map_bind]
  rfl

end AttributeTable.Draft

structure Sentence.Draft where
  id : String
  tokens : List Token
  table : Option AttributeTable.Draft
  deriving DecidableEq, Repr

namespace Sentence.Draft

def ofValue (v : Value) : Except Misfit Draft := do
  let fields ← record ["id", "tokens", "attributes"] v
  return {
    id := ← fields.withDefault "id" readText ""
    tokens := ← fields.required "tokens" (readList Token.ofValue)
    table := ← fields.optional "attributes" AttributeTable.Draft.ofValue }

def complete (draft : Draft) : Sentence :=
  match draft.table with
  | none => ofTokens draft.id draft.tokens
  | some table => withTable draft.id draft.tokens table.complete

theorem ofValue_complete (v : Value) : Sentence.ofValue v = complete <$> Draft.ofValue v := by
  have table : AttributeTable.ofValue =
      fun v => AttributeTable.Draft.complete <$> AttributeTable.Draft.ofValue v :=
    funext AttributeTable.Draft.ofValue_complete
  simp only [Sentence.ofValue, Draft.ofValue, table, optional_map_eq, map_bind, bind_map_left]
  refine bind_congr fun fields => bind_congr fun id => bind_congr fun tokens =>
    bind_congr fun table => ?_
  cases table <;> rfl

variable (draft : Draft)

theorem complete_tokens : draft.complete.tokens = renumber draft.tokens := by
  unfold complete
  split
  next => rfl
  next => unfold withTable; dsimp only; split <;> rfl

theorem complete_size : draft.complete.size = draft.tokens.length := by
  simp [size, complete_tokens, renumber]

theorem complete_tokenCount :
    draft.complete.attributes.tokenCount =
      (draft.table.map AttributeTable.Draft.tokenCount).getD draft.tokens.length := by
  unfold complete
  split
  next bare =>
    rw [ofTokens, fillOrth_tokenCount, bare]
    rfl
  next table given =>
    rw [given, Option.map_some, Option.getD_some, ← table.complete_tokenCount]
    unfold withTable
    dsimp only
    split
    next => exact fillOrth_tokenCount _
    next => rfl

/-- A column of written forms is missing only where the table has another size. -/
theorem complete_written
    (sized : draft.complete.attributes.tokenCount = draft.complete.size) :
    orthName ∈ draft.complete.attributes.names := by
  rw [complete_tokenCount, complete_size] at sized
  unfold complete
  split
  next => exact fillOrth_written _
  next table given =>
    rw [given, Option.map_some, Option.getD_some, ← table.complete_tokenCount] at sized
    unfold withTable
    dsimp only
    split
    next => exact fillOrth_written _
    next kept =>
      simpa [sized, Option.isNone_iff_eq_none, AttributeTable.find?_eq_none_iff] using kept

theorem complete_numbered (place : Nat) (token : Token)
    (there : draft.complete.tokens[place]? = some token) : token.index = place := by
  rw [complete_tokens, renumber, List.getElem?_mapIdx, Option.map_eq_some_iff] at there
  obtain ⟨_, _, rfl⟩ := there
  rfl

end Sentence.Draft

namespace Document

structure Draft where
  id : String
  sentences : List Sentence.Draft
  annotations : List Annotation
  relations : List Relation
  nextId : Nat
  deriving DecidableEq, Repr

namespace Draft

def ofValue (v : Value) : Except Misfit Draft := do
  let fields ← record ["id", "sentences", "annotations", "relations", "next_id"] v
  return {
    id := ← fields.withDefault "id" readText ""
    sentences := ← fields.required "sentences" (readList Sentence.Draft.ofValue)
    annotations := ← fields.withDefault "annotations" (readList Annotation.ofValue) []
    relations := ← fields.withDefault "relations" (readList Relation.ofValue) []
    nextId := ← fields.withDefault "next_id" readNat 0 }

def toDocument (draft : Draft) : Except Misfit Document :=
  assemble draft.id (draft.sentences.map Sentence.Draft.complete) draft.annotations
    draft.relations draft.nextId

theorem ofValue_toDocument (v : Value) :
    Document.ofValue v = Draft.ofValue v >>= toDocument := by
  have sentence : Sentence.ofValue = fun v => Sentence.Draft.complete <$> Sentence.Draft.ofValue v :=
    funext Sentence.Draft.ofValue_complete
  simp only [Document.ofValue, Draft.ofValue, sentence, required_list_map_eq,
    bind_map_left, bind_assoc, pure_bind]
  rfl

/-- The text of a draft is read as a document when the draft is admitted. -/
theorem decode_toDocument (text : String) (draft : Draft)
    (read : Json.decode Draft.ofValue text = .ok draft) :
    Json.decode Document.ofValue text = draft.toDocument := by
  obtain ⟨v, after, found, drafted, blank⟩ := (Json.decode_eq_ok_iff _ _ _).mp read
  simp only [Json.decode, found, ofValue_toDocument, drafted, bind, Except.bind, blank, if_true]
  cases draft.toDocument <;> rfl

end Draft

-- Identities.

theorem insertAll_succeeds_iff (arena : Arena) (list : List Annotation) :
    (∃ final, insertAll arena list = .ok final) ↔
      (list.map Annotation.id).Nodup ∧ ∀ a ∈ list, arena.contains a.id = false := by
  induction list generalizing arena with
  | nil => simp [insertAll]
  | cons a rest ih =>
    cases taken : arena.contains a.id with
    | true => simp [insertAll, taken]
    | false =>
      -- The first identity is taken from then on.
      have later : (∀ b ∈ rest, (arena.insert a).contains b.id = false) ↔
          a.id ∉ rest.map Annotation.id ∧ ∀ b ∈ rest, arena.contains b.id = false := by
        simp only [arena.contains_insert a _ taken, Bool.or_eq_false_iff, beq_eq_false_iff_ne,
          List.mem_map, not_exists, not_and, ← forall_and, eq_comm (a := a.id), ne_eq]
      simp only [insertAll, taken, Bool.false_eq_true, if_false, ih, later, List.map_cons,
        List.nodup_cons, List.forall_mem_cons, true_and]
      rw [and_left_comm, and_assoc]

theorem insertAll_perm (arena final : Arena) (list : List Annotation)
    (inserted : insertAll arena list = .ok final) :
    final.entries.Perm (list ++ arena.entries) := by
  induction list generalizing arena with
  | nil =>
    obtain rfl := Except.ok.inj inserted
    exact List.Perm.refl _
  | cons a rest ih =>
    simp only [insertAll] at inserted
    split at inserted
    next => simp at inserted
    next new =>
      have longer := ih (arena.insert a) inserted
      have step := arena.entries_insert_perm a (by simpa using new)
      exact longer.trans ((step.append_left rest).trans List.perm_middle)

theorem insertAll_empty_perm (arena : Arena) (list : List Annotation)
    (inserted : insertAll .empty list = .ok arena) : arena.entries.Perm list := by
  simpa using insertAll_perm .empty arena list inserted

/-- One more than the largest identity, and zero without annotations. -/
def afterLargest (annotations : List Annotation) : Nat :=
  ((annotations.map Annotation.id).max?.map (· + 1)).getD 0

theorem freshAfter_eq_some_afterLargest_iff (annotations : List Annotation) (fresh : Nat) :
    freshAfter annotations = some fresh ↔
      (∀ a ∈ annotations, a.id < maxIndex) ∧ afterLargest annotations = fresh := by
  suffices largest : (annotations.map fun a => a.id + 1).foldl max 0 = afterLargest annotations by
    rw [freshAfter_eq_some_iff, largest]
  rw [List.foldl_max, afterLargest]
  cases largest : (annotations.map Annotation.id).max? with
  | none =>
    rw [List.max?_eq_none_iff, List.map_eq_nil_iff] at largest
    rw [largest]
    rfl
  | some m =>
    obtain ⟨present, above⟩ := List.max?_eq_some_iff.mp largest
    have greatest : (annotations.map fun a => a.id + 1).max? = some (m + 1) := by
      obtain ⟨a, listed, rfl⟩ := List.mem_map.mp present
      refine List.max?_eq_some_iff.mpr ⟨List.mem_map_of_mem listed, ?_⟩
      rw [List.forall_mem_map] at above ⊢
      exact fun b there => Nat.succ_le_succ (above b there)
    rw [greatest]
    exact Nat.zero_max _

theorem lt_afterLargest (annotations : List Annotation) (a : Annotation)
    (present : a ∈ annotations) : a.id < afterLargest annotations := by
  have listed := List.mem_map_of_mem (f := Annotation.id) present
  cases largest : (annotations.map Annotation.id).max? with
  | none => simp [List.max?_eq_none_iff.mp largest] at listed
  | some m =>
    have below := (List.max?_eq_some_iff.mp largest).2 a.id listed
    simpa [afterLargest, largest] using Nat.lt_succ_of_le below

namespace Draft

def sizes (draft : Draft) : List Nat := draft.sentences.map fun s => s.tokens.length

/-- No identity comes twice, tables that are given have the size of their sentence, annotations
follow the rules of spans, and relations join annotations that are listed. -/
structure WellFormed (draft : Draft) : Prop where
  identities : (draft.annotations.map Annotation.id).Nodup
  tables : ∀ s ∈ draft.sentences, ∀ table, s.table = some table →
    table.tokenCount = s.tokens.length
  spans : ∀ a ∈ draft.annotations, a.Fits draft.sizes
  endpoints : ∀ relation ∈ draft.relations,
    relation.source ∈ draft.annotations.map Annotation.id ∧
      relation.target ∈ draft.annotations.map Annotation.id

variable (draft : Draft)

def completed (arena : Arena) : Document :=
  { ofSentences draft.id (draft.sentences.map Sentence.Draft.complete) with
    annotations := arena
    relations := draft.relations
    nextId := max draft.nextId (afterLargest draft.annotations) }

theorem completed_sizes (arena : Arena) : (draft.completed arena).sizes = draft.sizes := by
  simp [Document.sizes, completed, ofSentences, Draft.sizes, Sentence.Draft.complete_size]

theorem completed_sound_iff (arena : Arena) (same : arena.entries.Perm draft.annotations) :
    (draft.completed arena).Sound ↔ draft.WellFormed := by
  have known (id : Nat) : arena.contains id = true ↔ id ∈ draft.annotations.map Annotation.id := by
    simp only [arena.contains_iff, same.mem_iff, List.mem_map]
  constructor
  · intro sound
    constructor
    case identities => exact (same.map Annotation.id).nodup_iff.mp arena.ids_nodup
    case tables =>
      intro s present table given
      have sized := sound.tables s.complete (List.mem_map_of_mem present)
      simpa [s.complete_tokenCount, s.complete_size, given] using sized
    case spans =>
      intro a present
      exact draft.completed_sizes arena ▸ sound.spans a (same.mem_iff.mpr present)
    case endpoints =>
      intro relation present
      exact (sound.endpoints relation present).imp (known _).mp (known _).mp
  · intro wellFormed
    constructor
    case tables =>
      intro sentence present
      obtain ⟨s, listed, rfl⟩ := List.mem_map.mp present
      rw [s.complete_tokenCount, s.complete_size]
      cases given : s.table with
      | none => rfl
      | some table => exact wellFormed.tables s listed table given
    case identities =>
      intro a present
      exact Nat.lt_of_lt_of_le (lt_afterLargest _ a (same.mem_iff.mp present))
        (Nat.le_max_right _ _)
    case spans =>
      intro a present
      rw [draft.completed_sizes arena]
      exact wellFormed.spans a (same.mem_iff.mp present)
    case endpoints =>
      intro relation present
      exact (wellFormed.endpoints relation present).imp (known _).mpr (known _).mpr

theorem toDocument_eq_ok_iff (document : Document) :
    draft.toDocument = .ok document ↔
      (∀ a ∈ draft.annotations, a.id < maxIndex) ∧
      ∃ arena, insertAll .empty draft.annotations = .ok arena ∧
        (draft.completed arena).Sound ∧ draft.completed arena = document := by
  simp only [toDocument, assemble_eq_ok_iff, freshAfter_eq_some_afterLargest_iff, compose,
    bind_eq_ok_iff, and_assoc, exists_and_left, exists_eq_left']
  refine and_congr_right fun _ => exists_congr fun arena => and_congr_right fun _ => ?_
  rw [← check_eq_ok_iff]
  constructor
  · rintro ⟨_, checked, made⟩
    exact ⟨checked, Except.ok.inj made⟩
  · rintro ⟨checked, rfl⟩
    exact ⟨(), checked, rfl⟩

theorem toDocument_succeeds_iff :
    (∃ document, draft.toDocument = .ok document) ↔
      draft.WellFormed ∧ ∀ a ∈ draft.annotations, a.id < maxIndex := by
  simp only [draft.toDocument_eq_ok_iff]
  constructor
  · rintro ⟨_, room, arena, inserted, sound, _⟩
    exact ⟨(draft.completed_sound_iff arena (insertAll_empty_perm arena _ inserted)).mp sound, room⟩
  · rintro ⟨wellFormed, room⟩
    obtain ⟨arena, inserted⟩ := (insertAll_succeeds_iff .empty draft.annotations).mpr
      ⟨wellFormed.identities, fun a _ => rfl⟩
    have same := insertAll_empty_perm arena _ inserted
    exact ⟨_, room, arena, inserted, (draft.completed_sound_iff arena same).mpr wellFormed, rfl⟩

/-- Reading ends in the middle where an annotation has the last identity, and only there. -/
theorem toDocument_fails (misfit : Misfit) (failed : draft.toDocument = .error misfit) :
    (misfit = .panic .overflow ∧ ∃ a ∈ draft.annotations, maxIndex ≤ a.id) ∨
      ((∃ fault, misfit = .document fault) ∧ ∀ a ∈ draft.annotations, a.id < maxIndex) := by
  unfold toDocument assemble at failed
  split at failed
  next none =>
    refine .inl ⟨(Except.error.inj failed).symm, ?_⟩
    by_contra room
    have fresh := (freshAfter_eq_some_afterLargest_iff draft.annotations _).mpr
      ⟨by simpa using room, rfl⟩
    simp [none] at fresh
  next fresh after =>
    refine .inr ⟨?_, ((freshAfter_eq_some_afterLargest_iff _ fresh).mp after).1⟩
    split at failed
    next => simp at failed
    next fault _ => exact ⟨fault, (Except.error.inj failed).symm⟩

/-- The document that a draft becomes. -/
structure Becomes (document : Document) : Prop where
  id : document.id = draft.id
  sentences : document.sentences = draft.sentences.map Sentence.Draft.complete
  numbered : ∀ s ∈ document.sentences, ∀ (place : Nat) (token : Token),
    s.tokens[place]? = some token → token.index = place
  written : ∀ s ∈ document.sentences, Sentence.orthName ∈ s.attributes.names
  offsets : ∀ place < document.sentences.length,
    document.offset place = (draft.sizes.take place).sum
  annotations : document.annotations.entries.Perm draft.annotations
  relations : document.relations = draft.relations
  counter : document.nextId = max draft.nextId (afterLargest draft.annotations)

theorem totalSize_eq_sum (sentences : List Sentence) :
    totalSize sentences = (sentences.map Sentence.size).sum := by
  induction sentences with
  | nil => rfl
  | cons s rest ih => simp [ih]

theorem toDocument_becomes (document : Document) (made : draft.toDocument = .ok document) :
    draft.Becomes document := by
  obtain ⟨_, arena, inserted, sound, rfl⟩ := (draft.toDocument_eq_ok_iff document).mp made
  constructor
  case id => rfl
  case sentences => rfl
  case numbered =>
    intro s present
    obtain ⟨raw, _, rfl⟩ := List.mem_map.mp present
    exact raw.complete_numbered
  case written =>
    intro s present
    have sized := sound.tables s present
    obtain ⟨raw, _, rfl⟩ := List.mem_map.mp present
    exact raw.complete_written sized
  case offsets =>
    intro place inside
    have sizes := draft.completed_sizes arena
    rw [offset_eq, if_pos inside, totalSize_eq_sum, ← sizes, Document.sizes, List.map_take]
  case annotations => exact insertAll_empty_perm arena _ inserted
  case relations => rfl
  case counter => rfl

/-- A draft is admitted exactly when it is well formed, and what it becomes is complete; otherwise it
breaks a rule. Its text is read as a document with the same outcome. -/
theorem admitted_iff_wellFormed (room : ∀ a ∈ draft.annotations, a.id < maxIndex) :
    ((∃ document, draft.toDocument = .ok document) ↔ draft.WellFormed) ∧
      (∀ document, draft.toDocument = .ok document → draft.Becomes document) ∧
      (∀ misfit, draft.toDocument = .error misfit → ∃ fault, misfit = .document fault) ∧
      ∀ text, Json.decode Draft.ofValue text = .ok draft →
        Json.decode Document.ofValue text = draft.toDocument := by
  refine ⟨?_, draft.toDocument_becomes, fun misfit failed => ?_, fun text =>
    decode_toDocument text draft⟩
  · rw [draft.toDocument_succeeds_iff, and_iff_left room]
  · obtain ⟨_, a, present, last⟩ | ⟨broken, _⟩ := draft.toDocument_fails misfit failed
    · exact absurd (room a present) (Nat.not_lt.mpr last)
    · exact broken

/-- Tokens are numbered wrongly, one sentence has no table and the other a table with a column too
short and none of written forms, annotations come out of order and the next identity is taken. -/
def untidyDraft : Draft where
  id := "d"
  sentences :=
    [⟨"s1", ["Jan", "śpi"].map fun orth => Token.ofOrth orth 7, none⟩,
      ⟨"s2", ["On", "też"].map fun orth => Token.ofOrth orth 0, some ⟨["case"], 2, [[some "nom"]]⟩⟩]
  annotations := [⟨7, 1, 0, 1, "PERSON", some 0, 0, ""⟩, ⟨2, 0, 0, 0, "PERSON", none, 0, "names"⟩]
  relations := [.coreference 7 2]
  nextId := 7

theorem untidyDraft_admitted :
    (∀ a ∈ untidyDraft.annotations, a.id < maxIndex) ∧
      ∃ document, untidyDraft.toDocument = .ok document ∧ document.nextId = 8 ∧
        document.offset 1 = 2 ∧ document.relations = [.coreference 7 2] := by
  have room : ∀ a ∈ untidyDraft.annotations, a.id < maxIndex := by decide
  have wellFormed : untidyDraft.WellFormed := by
    constructor
    case identities => decide
    case tables => simp [untidyDraft]
    case spans =>
      refine List.forall_mem_cons.mpr ⟨?_, List.forall_mem_singleton.mpr ?_⟩
      · exact ⟨⟨2, rfl, by decide⟩, by decide, by decide, by decide⟩
      · exact ⟨⟨2, rfl, by decide⟩, by decide, by decide, by decide⟩
    case endpoints => decide
  obtain ⟨succeeds, becomes, _⟩ := untidyDraft.admitted_iff_wellFormed room
  obtain ⟨document, made⟩ := succeeds.mpr wellFormed
  have all := becomes document made
  refine ⟨room, document, made, all.counter, ?_, all.relations⟩
  have two : document.sentences.length = 2 := by rw [all.sentences]; rfl
  exact all.offsets 1 (by omega)

end Draft

end Document

end SpanAnnotation
