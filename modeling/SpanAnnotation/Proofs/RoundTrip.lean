import SpanAnnotation.Proofs.Reloading

/-!
Documents that come back from their JSON text as they were. Reading is not writing backwards:
it numbers tokens anew, registers the columns of a table one by one, adds a column of written forms
where there is none, and counts identities again. A portable document is one on which none of that
changes anything.
-/

set_option autoImplicit false

namespace SpanAnnotation

namespace Wire

/-- What is written comes back through JSON text. -/
def Returns {α : Type} (read : Read α) (write : α → Value) (a : α) : Prop :=
  read (write a).settled = .ok a

theorem returns_nat (n : Nat) (small : n < natLimit) : Returns readNat ofNat n := by
  have settled : (ofNat n).settled = settledNumber n := rfl
  rw [Returns, settled, settledNumber_ofNat n small, readNat_ofNat n small]

theorem returns_text (s : String) : Returns readText .text s := rfl

theorem returns_list {α : Type} (read : Read α) (write : α → Value) (items : List α)
    (each : ∀ item ∈ items, Returns read write item) :
    Returns (readList read) (ofList write) items := by
  rw [Returns, settled_ofList]
  exact readItems_map read (fun item => (write item).settled) items each

theorem returns_option {α : Type} (read : Read α) (write : α → Value) (option : Option α)
    (present : ∀ a, (write a).settled ≠ .null)
    (each : ∀ a ∈ option, Returns read write a) :
    Returns (readOption read) (ofOption write) option := by
  cases option with
  | none => rfl
  | some a =>
    have back : read (write a).settled = .ok a := each a rfl
    simp only [Returns, ofOption, readOption]
    split
    next null => exact absurd null (present a)
    next => rw [back]; rfl

theorem returns_head (head : Option Nat) (small : ∀ n ∈ head, n < natLimit) :
    Returns (readOption readNat) (ofOption ofNat) head :=
  returns_option readNat ofNat head (fun n => settledNumber_ne_null n) fun n present =>
    returns_nat n (small n present)

end Wire

open Wire

theorem Token.returns (token : Token) (start : token.start < natLimit)
    (stop : token.stop < natLimit) (index : token.index < natLimit) :
    Returns Token.ofValue Token.toValue token := by
  have startBack := returns_nat token.start start
  have stopBack := returns_nat token.stop stop
  have indexBack := returns_nat token.index index
  simp only [Returns] at startBack stopBack indexBack
  simp [Returns, Token.ofValue, Token.toValue, Value.settled, Value.membersSettled, objectRecord,
    occurrences, Fields.required, Fields.withDefault, List.lookup_cons, readText, startBack,
    stopBack, indexBack, bind, Except.bind, pure, Except.pure]

theorem Relation.returns (relation : Relation) (source : relation.source < natLimit)
    (target : relation.target < natLimit) :
    Returns Relation.ofValue Relation.toValue relation := by
  have sourceBack := returns_nat relation.source source
  have targetBack := returns_nat relation.target target
  simp only [Returns] at sourceBack targetBack
  simp [Returns, Relation.ofValue, Relation.toValue, Value.settled, Value.membersSettled, objectRecord,
    occurrences, Fields.required, Fields.withDefault, List.lookup_cons, readText, sourceBack,
    targetBack, bind, Except.bind, pure, Except.pure]

structure Annotation.Small (a : Annotation) : Prop where
  id : a.id < natLimit
  sentence : a.sentence < natLimit
  first : a.first < natLimit
  last : a.last < natLimit
  head : ∀ head ∈ a.head, head < natLimit
  channel : a.channel < natLimit

theorem Annotation.returns (a : Annotation) (small : a.Small) :
    Returns Annotation.ofValue Annotation.toValue a := by
  have id := returns_nat a.id small.id
  have sentence := returns_nat a.sentence small.sentence
  have first := returns_nat a.first small.first
  have last := returns_nat a.last small.last
  have head := returns_head a.head small.head
  have channel := returns_nat a.channel small.channel
  simp only [Returns] at id sentence first last head channel
  simp [Returns, Annotation.ofValue, Annotation.toValue, Value.settled, Value.membersSettled,
    objectRecord, occurrences, Fields.required, Fields.withDefault, Fields.optional, List.lookup_cons,
    readText, id, sentence, first, last, head, channel, bind, Except.bind, pure, Except.pure]

-- Attribute tables.

namespace AttributeTable

theorem ext_columns {left right : AttributeTable} (count : left.tokenCount = right.tokenCount)
    (columns : left.columns = right.columns) : left = right := by
  cases left
  cases right
  simp_all

theorem find?_eq_none_iff (table : AttributeTable) (name : String) :
    table.find? name = none ↔ name ∉ table.names := by
  simp only [find?, names, List.findIdx?_eq_none_iff, beq_eq_false_iff_ne, List.mem_map, not_exists,
    not_and]

theorem register_new (table : AttributeTable) (name : String) (new : name ∉ table.names) :
    (table.register name).1.columns =
        table.columns ++ [⟨name, List.replicate table.tokenCount none⟩] ∧
      (table.register name).2 = table.columns.length := by
  have missing := (table.find?_eq_none_iff name).mpr new
  unfold register
  split
  next found => simp [missing] at found
  next => exact ⟨rfl, rfl⟩

theorem fit_full (values : List (Option String)) : fit values.length values = values := by
  simp [fit]

/-- A new name takes a full column of its own at the end. -/
theorem register_putColumn (table : AttributeTable) (column : Column)
    (new : column.name ∉ table.names) (full : column.values.length = table.tokenCount) :
    ((table.register column.name).1.putColumn (table.register column.name).2
      column.values).columns = table.columns ++ [column] := by
  obtain ⟨columns, index⟩ := table.register_new column.name new
  have values : fit table.tokenCount column.values = column.values := by
    rw [← full, fit_full]
  simp only [putColumn, modifyValues, columns, index]
  rw [List.modify_eq_take_cons_drop (by simp)]
  simp [values]

/-- The names and the columns of a table make up that table again. -/
theorem fill_columns (table : AttributeTable) (columns : List Column)
    (distinct : ((table.columns ++ columns).map Column.name).Nodup)
    (full : ∀ column ∈ columns, column.values.length = table.tokenCount) :
    (table.fill (columns.map Column.name) (columns.map Column.values)).columns =
      table.columns ++ columns := by
  induction columns generalizing table with
  | nil => simp [fill]
  | cons column rest ih =>
    have new : column.name ∉ table.names := by
      rw [List.map_append, List.map_cons] at distinct
      exact fun old => (List.nodup_append.mp distinct).2.2 _ old _ (by simp) rfl
    have longer := table.register_putColumn column new (full column (by simp))
    have count := table.register_tokenCount column.name
    rw [List.append_cons, ← longer] at distinct ⊢
    refine ih _ distinct fun other present => ?_
    rw [full other (List.mem_cons_of_mem column present)]
    exact count.symm

theorem fill_own (table : AttributeTable) :
    (empty table.tokenCount).fill table.names (table.columns.map Column.values) = table := by
  apply ext_columns
  · rw [fill_tokenCount]
    rfl
  · exact fill_columns (empty table.tokenCount) table.columns table.distinct table.full

theorem returns (table : AttributeTable) (count : table.tokenCount < natLimit) :
    Returns AttributeTable.ofValue AttributeTable.toValue table := by
  have names := returns_list readText .text table.names fun name _ => returns_text name
  have tokenCount := returns_nat table.tokenCount count
  have columns : readList (readList (readOption readText))
      (ofList (fun column : Column => ofList (ofOption .text) column.values)
        table.columns).settled = .ok (table.columns.map Column.values) := by
    have each := returns_list (readList (readOption readText)) (ofList (ofOption .text))
      (table.columns.map Column.values) fun values _ =>
        returns_list _ _ values fun value _ =>
          returns_option readText .text value (by simp [Value.settled]) fun s _ => returns_text s
    simpa [Returns, ofList, Function.comp_def] using each
  simp only [Returns] at names tokenCount
  simp [Returns, AttributeTable.ofValue, AttributeTable.toValue, Value.settled, Value.membersSettled,
    objectRecord, occurrences, Fields.required, Fields.withDefault, List.lookup_cons, names, tokenCount,
    columns, table.fill_own, bind, Except.bind, pure, Except.pure]

end AttributeTable

-- Sentences and documents.

structure Sentence.Portable (sentence : Sentence) : Prop where
  numbered : renumber sentence.tokens = sentence.tokens
  offsets : ∀ token ∈ sentence.tokens, token.start < natLimit ∧ token.stop < natLimit
  size : sentence.size < natLimit
  written : orthName ∈ sentence.attributes.names

theorem Sentence.Portable.index_lt {sentence : Sentence} (portable : sentence.Portable)
    (token : Token) (present : token ∈ sentence.tokens) : token.index < natLimit := by
  rw [← portable.numbered, renumber, List.mem_mapIdx] at present
  obtain ⟨place, inside, rfl⟩ := present
  exact Nat.lt_trans inside portable.size

theorem Sentence.returns (sentence : Sentence) (portable : sentence.Portable)
    (count : sentence.attributes.tokenCount = sentence.size) :
    Returns Sentence.ofValue Sentence.toValue sentence := by
  have tokens := returns_list Token.ofValue Token.toValue sentence.tokens fun token present =>
    token.returns (portable.offsets token present).1 (portable.offsets token present).2
      (portable.index_lt token present)
  have table := sentence.attributes.returns (count ▸ portable.size)
  have known : (sentence.attributes.find? orthName).isNone = false := by
    rw [Bool.eq_false_iff, ne_eq, Option.isNone_iff_eq_none, AttributeTable.find?_eq_none_iff]
    exact fun missing => missing portable.written
  have attributes := returns_option AttributeTable.ofValue AttributeTable.toValue
    (some sentence.attributes) (fun table => by simp [AttributeTable.toValue, Value.settled])
    (by simpa using table)
  simp only [Returns, ofOption] at tokens attributes
  simp [Returns, Sentence.ofValue, Sentence.toValue, Value.settled, Value.membersSettled, objectRecord,
    occurrences, Fields.required, Fields.withDefault, Fields.optional, List.lookup_cons, readText,
    tokens, attributes, withTable, known, portable.numbered, bind, Except.bind, pure, Except.pure]

/-- What a document needs for its text to be read back, beside the rules of the span model. -/
structure Document.Portable (document : Document) : Prop where
  sentences : ∀ sentence ∈ document.sentences, sentence.Portable
  count : document.sentences.length ≤ natLimit
  channels : ∀ a ∈ document.annotations.entries, a.channel < natLimit

namespace Document

variable (document : Document)

theorem annotation_small (sound : document.Sound) (portable : document.Portable)
    (counter : document.nextId < natLimit) (a : Annotation)
    (present : a ∈ document.annotations.entries) : a.Small := by
  have fits := sound.spans a present
  obtain ⟨size, found, bound⟩ := fits.inside
  rw [sizes, List.getElem?_map, Option.map_eq_some_iff] at found
  obtain ⟨sentence, found, rfl⟩ := found
  have place := (List.getElem?_eq_some_iff.mp found).1
  have size := (portable.sentences sentence (List.mem_of_getElem? found)).size
  have upright := fits.upright
  have count := portable.count
  have identity := sound.identities a present
  refine ⟨by omega, by omega, by omega, by omega, fun head named => ?_, portable.channels a present⟩
  have covered := fits.head head named
  simp only [Bool.and_eq_true, decide_eq_true_eq, Annotation.covers] at covered
  omega

theorem insertAll_own (arena : Arena) (list : List Annotation)
    (increasing : (arena.entries ++ list).Pairwise fun a b => a.id < b.id) :
    ∃ final, insertAll arena list = .ok final := by
  induction list generalizing arena with
  | nil => exact ⟨arena, rfl⟩
  | cons a rest ih =>
    have below : ∀ b ∈ arena.entries, b.id < a.id := fun b present =>
      (List.pairwise_append.mp increasing).2.2 b present a (by simp)
    have new : arena.contains a.id = false := by
      rw [Bool.eq_false_iff, ne_eq, arena.contains_iff]
      rintro ⟨b, present, same⟩
      exact Nat.ne_of_lt (below b present) same
    rw [List.append_cons, ← arena.entries_insert_last a below] at increasing
    obtain ⟨final, rest⟩ := ih (arena.insert a) increasing
    exact ⟨final, by simp [insertAll, new, rest]⟩

theorem assemble_own (sound : document.Sound) (counter : document.nextId < natLimit) :
    assemble document.id document.sentences document.annotations.entries document.relations
      document.nextId = .ok document := by
  have increasing : (Arena.empty.entries ++ document.annotations.entries).Pairwise
      fun a b => a.id < b.id := document.annotations.increasing
  obtain ⟨arena, inserted⟩ := insertAll_own _ _ increasing
  have entries := insertAll_entries _ arena _ increasing inserted
  obtain rfl : arena = document.annotations := Arena.ext_entries (by simpa using entries)
  have room (a : Annotation) (present : a ∈ document.annotations.entries) : a.id < maxIndex :=
    Nat.lt_of_lt_of_le (sound.identities a present) (Nat.le_of_lt_succ counter)
  obtain ⟨fresh, after⟩ : ∃ fresh, freshAfter document.annotations.entries = some fresh := by
    simpa [freshAfter_eq_some_iff] using room
  have least := freshAfter_le _ fresh document.nextId after sound.identities
  have checked := document.check_eq_ok_iff.mpr sound
  have same : { ofSentences document.id document.sentences with
      annotations := document.annotations, relations := document.relations,
      nextId := document.nextId } = document := eq_of_parts rfl rfl rfl rfl rfl
  rw [assemble_eq_ok_iff]
  refine ⟨fresh, after, ?_⟩
  simp [compose, inserted, Nat.max_eq_left least, same, checked, bind, Except.bind, pure,
    Except.pure]

theorem decode_render (sound : document.Sound) (portable : document.Portable)
    (counter : document.nextId < natLimit) :
    Json.decode Document.ofValue (Json.render document.toValue) = .ok document := by
  rw [Json.decode_render _ _ document.toValue_plain]
  have sentences := returns_list Sentence.ofValue Sentence.toValue document.sentences
    fun sentence present => sentence.returns (portable.sentences sentence present)
      (sound.tables sentence present)
  have annotations := returns_list Annotation.ofValue Annotation.toValue
    document.annotations.entries fun a present =>
      a.returns (document.annotation_small sound portable counter a present)
  have known : ∀ id, document.annotations.contains id = true → id < natLimit := by
    intro id present
    obtain ⟨a, there, rfl⟩ := (document.annotations.contains_iff id).mp present
    exact (document.annotation_small sound portable counter a there).id
  have relations := returns_list Relation.ofValue Relation.toValue document.relations
    fun relation present =>
      have ends := sound.endpoints relation present
      relation.returns (known _ ends.1) (known _ ends.2)
  have nextId := returns_nat document.nextId counter
  simp only [Returns] at sentences annotations relations nextId
  simp [Document.ofValue, Document.toValue, Value.settled, Value.membersSettled, objectRecord,
    occurrences, Fields.required, Fields.withDefault, List.lookup_cons, readText, sentences,
    annotations, relations, nextId, document.assemble_own sound counter, bind, Except.bind]

end Document

end SpanAnnotation
