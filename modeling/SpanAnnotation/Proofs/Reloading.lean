import SpanAnnotation.Proofs.JsonText
import SpanAnnotation.Proofs.SpanRules
import SpanAnnotation.Wire.Document

/-!
Documents written as JSON and read again. What is accepted has the annotations, the relations and
the next identity of the document that was written, and follows the rules of the span model.
-/

set_option autoImplicit false

namespace SpanAnnotation

namespace Wire

-- Writers give plain values.

theorem plain_ofList {α : Type} (write : α → Value) (items : List α) (depth : Nat)
    (shallow : depth < Json.maxDepth) (each : ∀ item, (write item).plain (depth + 1) = true) :
    (ofList write items).plain depth = true := by
  have all : Value.allPlain (depth + 1) (items.map write) = true := by
    rw [Value.allPlain_iff]
    intro v present
    obtain ⟨item, _, rfl⟩ := List.mem_map.mp present
    exact each item
  simp [ofList, Value.plain, shallow, all]

theorem plain_ofOption {α : Type} (write : α → Value) (option : Option α) (depth : Nat)
    (each : ∀ a, (write a).plain depth = true) : (ofOption write option).plain depth = true := by
  cases option with
  | none => rfl
  | some a => exact each a

-- Reading what was written.

theorem settled_ofList {α : Type} (write : α → Value) (items : List α) :
    (ofList write items).settled = .array (items.map fun item => (write item).settled) := by
  simp [ofList, Value.settled, Value.allSettled_eq_map]

theorem readItems_eq_of_each {α : Type} (read : Read α) (write : α → Value) (items : List α)
    (each : ∀ item ∈ items, ∀ b, read (write item) = .ok b → b = item) (found : List α)
    (accepted : readItems read (items.map write) = .ok found) : found = items := by
  induction items generalizing found with
  | nil => simpa [readItems, eq_comm] using accepted
  | cons item rest ih =>
    simp only [List.map_cons, readItems, bind_eq_ok_iff] at accepted
    obtain ⟨first, head, others, tail, joined⟩ := accepted
    obtain rfl := each item (by simp) first head
    obtain rfl := ih (fun other present => each other (List.mem_cons_of_mem _ present)) others tail
    exact (Except.ok.inj joined).symm

theorem settledNumber_ne_null (n : Int) : settledNumber n ≠ .null := by
  unfold settledNumber digitsValue
  simp only [wholeValue, scaledValue]
  repeat (first | split | simp)

theorem readOption_settledNumber (option : Option Nat) (found : Option Nat)
    (accepted : readOption readNat (ofOption ofNat option).settled = .ok found) :
    found = option := by
  cases option with
  | none => simpa [ofOption, Value.settled, readOption, eq_comm] using accepted
  | some n =>
    have present : (ofOption ofNat (some n)).settled = settledNumber n := rfl
    rw [present] at accepted
    unfold readOption at accepted
    split at accepted
    next null => exact absurd null (settledNumber_ne_null n)
    next =>
      obtain ⟨m, number, rfl⟩ := (map_eq_ok_iff _ _ _).mp accepted
      rw [readNat_settledNumber n m number]

end Wire

open Wire

theorem Annotation.eq_of_reloaded (a b : Annotation)
    (accepted : Annotation.ofValue a.toValue.settled = .ok b) : b = a := by
  obtain ⟨id, idRead, sentence, sentenceRead, first, firstRead, last, lastRead, head, headRead,
      channel, channelRead, rfl⟩ :
      ∃ id, readNat (settledNumber a.id) = .ok id ∧
        ∃ sentence, readNat (settledNumber a.sentence) = .ok sentence ∧
        ∃ first, readNat (settledNumber a.first) = .ok first ∧
        ∃ last, readNat (settledNumber a.last) = .ok last ∧
        ∃ head, readOption readNat (ofOption ofNat a.head).settled = .ok head ∧
        ∃ channel, readNat (settledNumber a.channel) = .ok channel ∧
          ⟨id, sentence, first, last, a.category, head, channel, a.source⟩ = b := by
    simpa [ofNat, Annotation.ofValue, Annotation.toValue, Value.settled, Value.membersSettled,
      objectRecord, occurrences, bind_eq_ok_iff, map_eq_ok_iff, Fields.required, Fields.optional,
      Fields.withDefault, List.lookup_cons, readText] using accepted
  rw [readNat_settledNumber _ _ idRead, readNat_settledNumber _ _ sentenceRead,
    readNat_settledNumber _ _ firstRead, readNat_settledNumber _ _ lastRead,
    readOption_settledNumber _ _ headRead, readNat_settledNumber _ _ channelRead]

theorem Relation.eq_of_reloaded (relation found : Relation)
    (accepted : Relation.ofValue relation.toValue.settled = .ok found) : found = relation := by
  obtain ⟨source, sourceRead, target, targetRead, rfl⟩ :
      ∃ source, readNat (settledNumber relation.source) = .ok source ∧
        ∃ target, readNat (settledNumber relation.target) = .ok target ∧
          ⟨source, target, relation.kind, relation.set⟩ = found := by
    simpa [Relation.ofValue, Relation.toValue, ofNat, Value.settled, Value.membersSettled,
      objectRecord, occurrences, bind_eq_ok_iff, map_eq_ok_iff, Fields.required, Fields.withDefault,
      List.lookup_cons, readText] using accepted
  rw [readNat_settledNumber _ _ sourceRead, readNat_settledNumber _ _ targetRead]

namespace Document

theorem insertAll_entries (arena final : Arena) (list : List Annotation)
    (increasing : (arena.entries ++ list).Pairwise fun a b => a.id < b.id)
    (accepted : insertAll arena list = .ok final) : final.entries = arena.entries ++ list := by
  induction list generalizing arena with
  | nil =>
    obtain rfl : arena = final := by simpa [insertAll] using accepted
    simp
  | cons a rest ih =>
    have below : ∀ b ∈ arena.entries, b.id < a.id := fun b present =>
      (List.pairwise_append.mp increasing).2.2 b present a (by simp)
    have longer := arena.entries_insert_last a below
    simp only [insertAll] at accepted
    split at accepted
    · simp at accepted
    · rw [List.append_cons, ← longer] at increasing
      rw [ih (arena.insert a) increasing accepted, longer, ← List.append_cons]

theorem mapM_successor?_eq_some_iff (list : List Annotation) (nexts : List Nat) :
    (list.mapM fun a => successor? a.id) = some nexts ↔
      (∀ a ∈ list, a.id < maxIndex) ∧ list.map (fun a => a.id + 1) = nexts := by
  induction list generalizing nexts with
  | nil => simp
  | cons a rest ih =>
    simp only [List.mapM_cons, Option.bind_eq_bind, Option.bind_eq_some_iff, ih,
      successor?_eq_some_iff, List.forall_mem_cons, List.map_cons, pure, Option.some.injEq]
    constructor
    next =>
      rintro ⟨_, ⟨room, rfl⟩, _, ⟨others, rfl⟩, joined⟩
      exact ⟨⟨room, others⟩, joined⟩
    next =>
      rintro ⟨⟨room, others⟩, joined⟩
      exact ⟨_, ⟨room, rfl⟩, _, ⟨others, rfl⟩, joined⟩

theorem freshAfter_eq_some_iff (list : List Annotation) (fresh : Nat) :
    freshAfter list = some fresh ↔
      (∀ a ∈ list, a.id < maxIndex) ∧ (list.map fun a => a.id + 1).foldl max 0 = fresh := by
  simp [freshAfter, Option.bind_eq_some_iff, mapM_successor?_eq_some_iff, and_assoc]

theorem freshAfter_le (list : List Annotation) (fresh limit : Nat)
    (after : freshAfter list = some fresh) (below : ∀ a ∈ list, a.id < limit) : fresh ≤ limit := by
  have largest : ∀ start ≤ limit, (list.map fun a => a.id + 1).foldl max start ≤ limit := by
    clear after
    induction list with
    | nil => exact fun _ small => small
    | cons a rest ih =>
      intro start small
      refine ih (fun b present => below b (List.mem_cons_of_mem a present)) _ ?_
      exact Nat.max_le.mpr ⟨small, below a (by simp)⟩
  obtain ⟨_, rfl⟩ := (freshAfter_eq_some_iff list fresh).mp after
  exact largest 0 (Nat.zero_le limit)

theorem assemble_eq_ok_iff (id : String) (sentences : List Sentence)
    (annotations : List Annotation) (relations : List Relation) (nextId : Nat)
    (found : Document) :
    assemble id sentences annotations relations nextId = .ok found ↔
      ∃ fresh, freshAfter annotations = some fresh ∧
        compose id sentences annotations relations (max nextId fresh) = .ok found := by
  unfold assemble
  split
  next none => simp [none]
  next fresh after =>
    simp only [after, Option.some.injEq, exists_eq_left']
    split <;> simp_all

theorem assemble_eq_ok (id : String) (sentences : List Sentence) (annotations : List Annotation)
    (relations : List Relation) (nextId : Nat) (found : Document)
    (accepted : assemble id sentences annotations relations nextId = .ok found) :
    found.Sound ∧ insertAll .empty annotations = .ok found.annotations ∧
      found.relations = relations ∧
      ∃ fresh, freshAfter annotations = some fresh ∧ found.nextId = max nextId fresh := by
  obtain ⟨fresh, after, composed⟩ := (assemble_eq_ok_iff _ _ _ _ _ _).mp accepted
  simp only [compose, bind_eq_ok_iff] at composed
  obtain ⟨arena, inserted, _, checked, rest⟩ := composed
  cases rest
  exact ⟨(check_eq_ok_iff _).mp checked, inserted, rfl, fresh, after, rfl⟩

theorem ofValue_settled (document found : Document)
    (accepted : Document.ofValue document.toValue.settled = .ok found) :
    ∃ sentences nextId,
      readNat (settledNumber document.nextId) = .ok nextId ∧
        assemble document.id sentences document.annotations.entries document.relations nextId =
          .ok found := by
  simp only [ofValue, record_object, objectRecord, toValue, ofNat, Int.ofNat_eq_natCast, Value.settled,
    Value.membersSettled, settled_ofList, occurrences, List.all_cons, BEq.rfl,
    List.filter_cons_of_pos, String.reduceBEq, Bool.false_eq_true, not_false_eq_true,
    List.filter_cons_of_neg, List.filter_nil, List.length_cons, List.length_nil, Nat.zero_add,
    Std.le_refl, decide_true, List.all_nil, Bool.and_self, ↓reduceIte, Fields.withDefault, readText,
    Fields.required, readList, bind_eq_ok_iff, Except.ok.injEq, exists_eq_left',
    List.lookup_cons] at accepted
  obtain ⟨sentences, _, annotations, annotationsRead, relations, relationsRead, nextId, nextIdRead,
    assembled⟩ := accepted
  obtain rfl := readItems_eq_of_each _ _ document.annotations.entries
    (fun a _ b => a.eq_of_reloaded b) annotations annotationsRead
  obtain rfl := readItems_eq_of_each _ _ document.relations
    (fun relation _ other => relation.eq_of_reloaded other) relations relationsRead
  exact ⟨sentences, nextId, nextIdRead, assembled⟩

-- The text of a document is nested at most six deep.

theorem attributes_plain (table : AttributeTable) (depth : Nat)
    (shallow : depth + 2 < Json.maxDepth) : table.toValue.plain depth = true := by
  have names := plain_ofList Value.text table.names (depth + 1) (by omega) fun _ => rfl
  have values := fun values : List (Option String) =>
    plain_ofList (ofOption Value.text) values (depth + 2) shallow fun value =>
      plain_ofOption Value.text value (depth + 3) fun _ => rfl
  have columns := plain_ofList (fun column : Column => ofList (ofOption .text) column.values)
    table.columns (depth + 1) (by omega) fun column => values column.values
  have here : depth < Json.maxDepth := by omega
  simp [AttributeTable.toValue, Value.plain, Value.membersPlain, ofNat, here, names, columns]

theorem sentence_plain (sentence : Sentence) : sentence.toValue.plain 2 = true := by
  have tokens := plain_ofList Token.toValue sentence.tokens 3 (by decide) fun _ => rfl
  have attributes := attributes_plain sentence.attributes 3 (by decide)
  simp [Sentence.toValue, Value.plain, Value.membersPlain, Json.maxDepth, tokens, attributes]

theorem annotation_plain (a : Annotation) : a.toValue.plain 2 = true := by
  have head := plain_ofOption ofNat a.head 3 fun _ => rfl
  simp [head, Annotation.toValue, Value.plain, Value.membersPlain, ofNat, Json.maxDepth]

theorem toValue_plain (document : Document) : document.toValue.plain 0 = true := by
  have sentences := plain_ofList Sentence.toValue document.sentences 1 (by decide) sentence_plain
  have annotations := plain_ofList Annotation.toValue document.annotations.entries 1 (by decide)
    annotation_plain
  have relations := plain_ofList Relation.toValue document.relations 1 (by decide) fun _ => rfl
  simp [Document.toValue, Value.plain, Value.membersPlain, ofNat, Json.maxDepth, sentences,
    annotations, relations]

/-- A document that is read back is sound and has the annotations, the relations and the next
identity of the one that was written. -/
theorem reloaded (document found : Document) (sound : document.Sound)
    (accepted : Json.decode Document.ofValue (Json.render document.toValue) = .ok found) :
    found.Sound ∧ found.annotations = document.annotations ∧
      found.relations = document.relations ∧ found.nextId = document.nextId := by
  rw [Json.decode_render _ _ document.toValue_plain] at accepted
  obtain ⟨sentences, nextId, nextIdRead, assembled⟩ := ofValue_settled document found accepted
  obtain ⟨foundSound, inserted, relations, next, after, counter⟩ :=
    assemble_eq_ok _ _ _ _ _ _ assembled
  have entries := insertAll_entries .empty _ _ (by simpa using document.annotations.increasing)
    inserted
  have fresh := freshAfter_le _ next document.nextId after sound.identities
  rw [readNat_settledNumber _ _ nextIdRead, Nat.max_eq_left fresh] at counter
  exact ⟨foundSound, Arena.ext_entries (by simpa using entries), relations, counter⟩

end Document

end SpanAnnotation
