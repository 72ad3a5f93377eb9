import SpanAnnotation.Proofs.CoveredRuns
import SpanAnnotation.Proofs.StableColumns

/-!
The tags of a category as an attribute of the tokens. They are those of the spans that the
annotations of the category have, they end up in one column, at need a new one, and nothing else of
the document changes.
-/

set_option autoImplicit false

namespace SpanAnnotation

-- The spans of a category.

namespace Document

variable (document : Document)

/-- The spans of the annotations of the category, in text order. -/
def spansOf (sentence : Nat) (category : String) : List (Nat × Nat) :=
  ((document.annotationsIn sentence).filter fun a => a.category == category).map fun a =>
    (a.first, a.last)

theorem isCovered_eq (sentence token : Nat) (category : String) :
    document.isCovered sentence token category =
      decide (Bio.Covers (document.spansOf sentence category) token) := by
  rw [Bool.eq_iff_iff, decide_eq_true_eq]
  simp only [isCovered, spansOf, Bio.Covers, List.any_eq_true, List.mem_map, List.mem_filter,
    mem_annotationsIn, Annotation.covers, Bool.and_eq_true, beq_iff_eq, decide_eq_true_eq]
  constructor
  next =>
    rintro ⟨a, present, ⟨here, kind⟩, covers⟩
    exact ⟨_, ⟨a, ⟨⟨present, here⟩, kind⟩, rfl⟩, covers⟩
  next =>
    rintro ⟨_, ⟨a, ⟨⟨present, here⟩, kind⟩, rfl⟩, covers⟩
    exact ⟨a, present, ⟨here, kind⟩, covers⟩

end Document

theorem Tag.ofLabel?_label (tag : Tag) : ofLabel? tag.label = some tag := by
  cases tag <;> decide

namespace Bio

theorem encode_eq_encodeSpans (document : Document) (sentence : Nat) (category : String)
    (small : document.sentenceSize sentence ≤ maxIndex) :
    encode document sentence category =
      encodeSpans (document.spansOf sentence category) (document.sentenceSize sentence) := by
  rw [encodeSpans_eq _ _ small]
  simp only [encode, Document.isCovered_eq]
  rfl

theorem encode_length (document : Document) (sentence : Nat) (category : String) :
    (encode document sentence category).length = document.sentenceSize sentence := by
  simp [encode, ofCoverage, tagsAfter_length, Document.sentenceSize]

theorem decodeLabels_labels (tags : List Tag) : decodeLabels (tags.map Tag.label) = decode tags := by
  simp [decodeLabels, Function.comp_def, Tag.ofLabel?_label]

end Bio

-- Columns.

namespace AttributeTable

variable (table : AttributeTable)

theorem column_of_cells (name : String) (j : Nat) (values : List (Option String))
    (named : table.nameAt? j = some name) (full : values.length = table.tokenCount)
    (cells : ∀ token, table.get? token (.index j) = (values[token]?).join) :
    table.columns[j]? = some ⟨name, values⟩ := by
  obtain ⟨held, there, count⟩ := table.column_of_nameAt? name j named
  rw [there]
  congr 2
  apply List.ext_getElem (count.trans full.symm)
  intro token left right
  have cell := cells token
  rw [get?_index, there] at cell
  simpa [left, right] using cell

theorem column_congr (other : AttributeTable) (j : Nat)
    (count : other.tokenCount = table.tokenCount) (named : other.nameAt? j = table.nameAt? j)
    (cells : ∀ token, other.get? token (.index j) = table.get? token (.index j)) :
    other.columns[j]? = table.columns[j]? := by
  cases there : table.columns[j]? with
  | none =>
    rw [nameAt?, nameAt?, there] at named
    simpa using named
  | some column =>
    have full := table.full column (List.mem_of_getElem? there)
    apply other.column_of_cells column.name j column.values
    next => rw [named, nameAt?, there]; rfl
    next => rw [full, count]
    next => intro token; rw [cells, get?_index, there]; rfl

theorem register_others (name : String) (j : Nat) (other : j ≠ (table.register name).2) :
    (table.register name).1.columns[j]? = table.columns[j]? := by
  cases found : table.find? name with
  | some i => rw [table.register_of_find? name i found]
  | none =>
    obtain ⟨columns, index⟩ := table.register_new name ((table.find?_eq_none_iff name).mp found)
    rw [columns]
    rw [index] at other
    rcases Nat.lt_or_gt_of_ne other with less | more
    · exact List.getElem?_append_left less
    · rw [List.getElem?_eq_none (by simp; omega), List.getElem?_eq_none (by omega)]

theorem set_index (token i : Nat) (value : String) (inside : token < table.tokenCount)
    (known : i < table.size) :
    table.set token (.index i) value = (table.write token i (some value), .ok i) := by
  simp only [set, if_neg (Nat.not_le_of_lt inside), if_pos known]
  rfl

end AttributeTable

namespace Bio

variable (table : AttributeTable)

theorem writeTags_cons (index token : Nat) (tag : Tag) (rest : List Tag)
    (inside : token < table.tokenCount) (known : index < table.size) :
    writeTags table index token (tag :: rest) =
      writeTags (table.write token index (some tag.label)) index (token + 1) rest := by
  simp only [writeTags, table.set_index token index tag.label inside known]

/-- From the first token on the cells of the column hold the labels, and no other cell changes. -/
structure Labels (before after : AttributeTable) (index token : Nat) (tags : List Tag) : Prop where
  count : after.tokenCount = before.tokenCount
  names : after.names = before.names
  cells : ∀ other key, after.get? other key =
    if before.resolve? key = some index ∧ token ≤ other ∧ other < token + tags.length then
      (tags[other - token]?).map Tag.label
    else before.get? other key

theorem Labels.cons {after : AttributeTable} {index token : Nat} {tag : Tag} {rest : List Tag}
    (inside : token < table.tokenCount) (known : index < table.size)
    (later : Labels (table.write token index (some tag.label)) after index (token + 1) rest) :
    Labels table after index token (tag :: rest) where
  count := later.count
  names := later.names.trans (table.write_names token index _)
  cells other key := by
    rw [later.cells, table.resolve?_congr (table.write_names token index _),
      table.write_get? token index _ known, List.length_cons]
    by_cases here : table.resolve? key = some index
    next =>
      rcases Nat.lt_trichotomy other token with less | rfl | more
      · have before : ¬ token ≤ other := Nat.not_le_of_lt less
        have earlier : ¬ token + 1 ≤ other := by omega
        simp [before, earlier, Nat.ne_of_lt less]
      · simp [here, inside]
      · have place : other - token = other - (token + 1) + 1 := by omega
        have bound : other < token + 1 + rest.length ↔ other < token + (rest.length + 1) := by omega
        have first : token ≤ other := Nat.le_of_lt more
        simp [here, place, bound, first, Nat.ne_of_gt more, Nat.succ_le_of_lt more]
    next => simp [here]

theorem writeTags_labels (index token : Nat) (tags : List Tag) (known : index < table.size)
    (room : token + tags.length ≤ table.tokenCount) :
    (writeTags table index token tags).2 = .ok () ∧
      Labels table (writeTags table index token tags).1 index token tags := by
  induction tags generalizing table token with
  | nil =>
    refine ⟨rfl, rfl, rfl, fun other key => (if_neg ?_).symm⟩
    rintro ⟨_, first, last⟩
    exact Nat.not_lt_of_le first last
  | cons tag rest ih =>
    rw [List.length_cons] at room
    have inside : token < table.tokenCount := by omega
    have same : (table.write token index (some tag.label)).size = table.size := by
      rw [AttributeTable.size_eq, AttributeTable.size_eq, AttributeTable.write_names]
    have written := ih (table.write token index (some tag.label)) (token + 1) (same ▸ known)
      (by rw [AttributeTable.write_tokenCount]; omega)
    rw [writeTags_cons table index token tag rest inside known]
    exact ⟨written.1, written.2.cons table inside known⟩

/-- A column of its own holds the labels of all tokens, and the other columns are as they were. -/
structure HoldsTags (before after : AttributeTable) (name : String) (index : Nat)
    (tags : List Tag) : Prop where
  count : after.tokenCount = before.tokenCount
  byName : ∀ token, after.get? token (.name name) = (tags[token]?).map Tag.label
  byIndex : ∀ token, after.get? token (.index index) = (tags[token]?).map Tag.label
  column : after.columns[index]? = some ⟨name, (tags.map Tag.label).map some⟩
  others : ∀ j, j ≠ index → after.columns[j]? = before.columns[j]?

namespace Labels

variable {table after : AttributeTable} {index : Nat} {tags : List Tag}

theorem reads (labels : Labels table after index 0 tags) (full : tags.length = table.tokenCount)
    (key : AttributeKey) (column : table.resolve? key = some index) (token : Nat) :
    after.get? token key = (tags[token]?).map Tag.label := by
  by_cases inside : token < tags.length
  next => simp [labels.cells, column, inside]
  next =>
    have outside : after.tokenCount ≤ token := by
      rw [labels.count, ← full]
      exact Nat.le_of_not_lt inside
    rw [after.get?_beyond token key outside, List.getElem?_eq_none (Nat.le_of_not_lt inside)]
    rfl

theorem column (labels : Labels table after index 0 tags) (full : tags.length = table.tokenCount)
    (name : String) (known : table.find? name = some index) :
    after.columns[index]? = some ⟨name, (tags.map Tag.label).map some⟩ := by
  have named := (table.find?_eq_some_iff name index).mp known
  have inside := table.lt_size_of_resolve? (.name name) index known
  apply after.column_of_cells
  next => rwa [AttributeTable.nameAt?_eq, labels.names, ← AttributeTable.nameAt?_eq]
  next => simp [full, labels.count]
  next =>
    intro token
    rw [labels.reads full _ (table.resolve?_index_of_lt index inside)]
    cases there : tags[token]? <;> simp [there]

theorem others {token : Nat} (labels : Labels table after index token tags) (j : Nat)
    (other : j ≠ index) : after.columns[j]? = table.columns[j]? := by
  apply AttributeTable.column_congr _ _ _ labels.count
  next => rw [AttributeTable.nameAt?_eq, labels.names, ← AttributeTable.nameAt?_eq]
  next =>
    intro cell
    rw [labels.cells, if_neg]
    rintro ⟨same, _⟩
    simp only [AttributeTable.resolve?] at same
    split at same
    next => exact other (Option.some.inj same)
    next => simp at same

end Labels

theorem HoldsTags.of_labels {after : AttributeTable} {name : String} {tags : List Tag}
    (full : tags.length = table.tokenCount)
    (labels : Labels (table.register name).1 after (table.register name).2 0 tags) :
    HoldsTags table after name (table.register name).2 tags := by
  have found := table.register_find? name
  have inside := AttributeTable.lt_size_of_resolve? _ (.name name) _ found
  have wide : tags.length = (table.register name).1.tokenCount := by
    rw [full, table.register_tokenCount]
  constructor
  next => rw [labels.count, table.register_tokenCount]
  next => exact labels.reads wide (.name name) found
  next => exact labels.reads wide (.index _) (AttributeTable.resolve?_index_of_lt _ _ inside)
  next => exact labels.column wide name found
  next =>
    intro j other
    rw [labels.others j other, table.register_others name j other]

end Bio

-- Documents.

namespace Document

theorem withTable_sentence? (document : Document) (place : Nat) (table : AttributeTable)
    (other : Nat) :
    (document.withTable place table).sentence? other =
      if other = place then (document.sentence? place).map fun s => { s with attributes := table }
      else document.sentence? other := by
  simp only [withTable, sentence?, List.getElem?_modify]
  by_cases same : other = place
  next => subst same; simp
  next =>
    have apart : ¬ place = other := Ne.symm same
    simp [same, apart]

/-- The sentence gets the tags of the category as the named attribute, from which the runs of covered
tokens are read back, and nothing else changes. -/
structure TakesTags (before after : Document) (sentence : Nat) (category name : String)
    (index : Nat) : Prop where
  target : ∃ old table, before.sentence? sentence = some old ∧
    after.sentence? sentence = some { old with attributes := table } ∧
    Bio.HoldsTags old.attributes table name index (Bio.encode before sentence category) ∧
    ∃ labels, table.columns[index]? = some ⟨name, labels.map some⟩ ∧
      Bio.AreRuns (Bio.Covers (before.spansOf sentence category)) (before.sentenceSize sentence)
        (Bio.decodeLabels labels)
  sentences : ∀ other, other ≠ sentence → after.sentence? other = before.sentence? other
  id : after.id = before.id
  annotations : after.annotations = before.annotations
  relations : after.relations = before.relations
  nextId : after.nextId = before.nextId
  offsets : after.offsets = before.offsets

end Document

namespace Bio

variable (document : Document)

theorem writeAttribute_of_missing (sentence : Nat) (category name : String)
    (missing : document.sentence? sentence = none) :
    writeAttribute document sentence category name =
      (document, .error (.invalidDocument (.noSentence sentence))) := by
  simp only [writeAttribute, missing]

theorem writeAttribute_of_found (sound : document.Sound) (sentence : Nat)
    (category name : String) (target : Sentence)
    (found : document.sentence? sentence = some target) :
    ∃ table index, writeAttribute document sentence category name =
        (document.withTable sentence table, .ok index) ∧
      HoldsTags target.attributes table name index (encode document sentence category) := by
  have full : (encode document sentence category).length = target.attributes.tokenCount := by
    rw [encode_length, document.sentenceSize_eq sentence target found,
      sound.tables target (List.mem_of_getElem? found)]
  have known := AttributeTable.lt_size_of_resolve? _ (.name name) _
    (target.attributes.register_find? name)
  have room : 0 + (encode document sentence category).length ≤
      (target.attributes.register name).1.tokenCount := by
    rw [target.attributes.register_tokenCount]
    omega
  obtain ⟨success, labels⟩ := writeTags_labels _ _ 0 _ known room
  refine ⟨_, _, ?_, .of_labels target.attributes full labels⟩
  simp only [writeAttribute, found, success]
  rfl

theorem takesTags_of_holdsTags (sentence : Nat) (category name : String) (target : Sentence)
    (found : document.sentence? sentence = some target)
    (small : document.sentenceSize sentence ≤ maxIndex) (table : AttributeTable) (index : Nat)
    (holds : HoldsTags target.attributes table name index (encode document sentence category)) :
    document.TakesTags (document.withTable sentence table) sentence category name index := by
  constructor
  next =>
    refine ⟨target, table, found, ?_, holds, _, holds.column, ?_⟩
    · rw [Document.withTable_sentence?, if_pos rfl, found]
      rfl
    · rw [decodeLabels_labels, encode_eq_encodeSpans document sentence category small]
      exact decode_encodeSpans_areRuns _ _ small
  next =>
    intro other apart
    rw [Document.withTable_sentence?, if_neg apart]
  all_goals rfl

/-- The tags of a category are those of the spans of its annotations. They can be stored for every
sentence that exists, without touching anything else, and are read back as the runs of covered
tokens; where there is no sentence nothing changes. -/
theorem writeAttribute_agrees_with_spans (valid : document.validate = .ok ()) (sentence : Nat)
    (small : document.sentenceSize sentence ≤ maxIndex) (category name : String) :
    encode document sentence category =
        encodeSpans (document.spansOf sentence category) (document.sentenceSize sentence) ∧
      ((∃ e, (writeAttribute document sentence category name).2 = .error e) ↔
        document.sentence? sentence = none) ∧
      (∀ e, (writeAttribute document sentence category name).2 = .error e →
        (writeAttribute document sentence category name).1 = document) ∧
      ∀ index, (writeAttribute document sentence category name).2 = .ok index →
        document.TakesTags (writeAttribute document sentence category name).1 sentence category
          name index := by
  have sound := document.validate_eq_ok_iff.mp valid
  refine ⟨encode_eq_encodeSpans document sentence category small, ?_⟩
  cases found : document.sentence? sentence with
  | none =>
    rw [writeAttribute_of_missing document sentence category name found]
    simp
  | some target =>
    obtain ⟨table, index, run, holds⟩ :=
      writeAttribute_of_found document sound sentence category name target found
    rw [run]
    refine ⟨by simp, by simp, fun other same => ?_⟩
    obtain rfl := Except.ok.inj same
    exact takesTags_of_holdsTags document sentence category name target found small table index
      holds

/-- Two annotations of the category touch, and those of other categories overlap them. -/
theorem writeAttribute_agrees_with_chainOfConflicts :
    Merger.chainOfConflicts.validate = .ok () ∧
      Merger.chainOfConflicts.sentenceSize 0 ≤ maxIndex ∧
      (writeAttribute Merger.chainOfConflicts 0 "PERSON" "person").2 = .ok 0 ∧
      Merger.chainOfConflicts.TakesTags
        (writeAttribute Merger.chainOfConflicts 0 "PERSON" "person").1 0 "PERSON" "person" 0 := by
  have valid : Merger.chainOfConflicts.validate = .ok () := by decide
  have small : Merger.chainOfConflicts.sentenceSize 0 ≤ maxIndex := by decide
  have written : (writeAttribute Merger.chainOfConflicts 0 "PERSON" "person").2 = .ok 0 := by
    decide +kernel
  obtain ⟨_, _, _, takes⟩ := writeAttribute_agrees_with_spans _ valid 0 small "PERSON" "person"
  exact ⟨valid, small, written, takes 0 written⟩

end Bio

end SpanAnnotation
