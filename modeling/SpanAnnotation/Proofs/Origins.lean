import Mathlib.Algebra.BigOperators.Group.List.Basic
import SpanAnnotation.Proofs.Portability
import SpanAnnotation.Proofs.TextCuts

/-!
Where documents come from: from a text, from tokens, or from structured data that was accepted.
Each such document is sound and portable. For a text that rests on its tokens being cut from it:
they end within the text and are no more than its bytes.
-/

set_option autoImplicit false

namespace SpanAnnotation

open Token Wire

-- Sentences.

theorem Sentence.renumber_renumber (tokens : List Token) :
    renumber (renumber tokens) = renumber tokens := by
  simp [renumber, List.mapIdx_mapIdx, Function.comp_def]

def Token.Small (tokens : List Token) : Prop :=
  tokens.length < natLimit ∧ ∀ token ∈ tokens, token.start < natLimit ∧ token.stop < natLimit

theorem Sentence.renumber_offsets (tokens : List Token)
    (small : ∀ token ∈ tokens, token.start < natLimit ∧ token.stop < natLimit) :
    ∀ token ∈ renumber tokens, token.start < natLimit ∧ token.stop < natLimit := by
  intro token present
  rw [renumber, List.mem_mapIdx] at present
  obtain ⟨place, inside, rfl⟩ := present
  exact small tokens[place] (List.getElem_mem inside)

theorem Sentence.fillOrth_written (sentence : Sentence) :
    orthName ∈ sentence.fillOrth.attributes.names := by
  simp only [fillOrth, AttributeTable.putColumn, AttributeTable.modifyValues_names]
  exact (sentence.attributes.register_names orthName).2

theorem Sentence.fillOrth_tokenCount (sentence : Sentence) :
    sentence.fillOrth.attributes.tokenCount = sentence.attributes.tokenCount :=
  sentence.attributes.register_tokenCount orthName

theorem Sentence.ofTokens_portable (id : String) (tokens : List Token) (small : Token.Small tokens) :
    (ofTokens id tokens).Portable where
  numbered := renumber_renumber tokens
  offsets := renumber_offsets tokens small.2
  size := by simpa [ofTokens, size, fillOrth, renumber] using small.1
  written := fillOrth_written _

theorem Sentence.ofTokens_tokenCount (id : String) (tokens : List Token) :
    (ofTokens id tokens).attributes.tokenCount = (ofTokens id tokens).size := by
  rw [ofTokens, fillOrth_tokenCount]
  simp [AttributeTable.empty, size, fillOrth, renumber]

-- Structured data.

namespace Wire

theorem lt_of_readNat (v : Value) (n : Nat) (found : readNat v = .ok n) : n < natLimit := by
  unfold readNat at found
  split at found
  next m =>
    split at found
    next bounds =>
      obtain rfl := Except.ok.inj found
      simp only [Bool.and_eq_true, decide_eq_true_eq] at bounds
      have upper : m < (natLimit : Int) := bounds.2
      omega
    next => simp at found
  next => simp at found

theorem Fields.withDefault_eq_ok {α : Type} (fields : Fields) (name : String) (read : Read α)
    (default found : α) (accepted : fields.withDefault name read default = .ok found) :
    found = default ∨ ∃ v, read v = .ok found := by
  unfold Fields.withDefault at accepted
  split at accepted
  next v _ => exact .inr ⟨v, accepted⟩
  next =>
    cases accepted
    exact .inl rfl

theorem lt_of_withDefault (fields : Fields) (name : String) (n : Nat)
    (found : fields.withDefault name readNat 0 = .ok n) : n < natLimit := by
  cases fields.withDefault_eq_ok name readNat 0 n found with
  | inl absent =>
    rw [absent]
    decide
  | inr given =>
    obtain ⟨v, read⟩ := given
    exact lt_of_readNat v n read

theorem exists_of_readItems {α : Type} (read : Read α) (items : List Value) (found : List α)
    (accepted : readItems read items = .ok found) : ∀ a ∈ found, ∃ v, read v = .ok a := by
  induction items generalizing found with
  | nil =>
    obtain rfl := Except.ok.inj accepted
    simp
  | cons v rest ih =>
    simp only [readItems, bind_eq_ok_iff] at accepted
    obtain ⟨first, head, others, tail, joined⟩ := accepted
    obtain rfl := Except.ok.inj joined
    exact List.forall_mem_cons.mpr ⟨⟨v, head⟩, ih others tail⟩

theorem exists_of_readList {α : Type} (read : Read α) (v : Value) (found : List α)
    (accepted : readList read v = .ok found) : ∀ a ∈ found, ∃ v, read v = .ok a := by
  unfold readList at accepted
  split at accepted
  · exact exists_of_readItems read _ found accepted
  · simp at accepted

theorem exists_of_required {α : Type} (fields : Fields) (name : String) (read : Read α)
    (found : List α) (accepted : fields.required name (readList read) = .ok found) :
    ∀ a ∈ found, ∃ v, read v = .ok a := by
  unfold Fields.required at accepted
  split at accepted
  · exact exists_of_readList read _ found accepted
  · simp at accepted

theorem exists_of_withDefault {α : Type} (fields : Fields) (name : String) (read : Read α)
    (found : List α) (accepted : fields.withDefault name (readList read) [] = .ok found) :
    ∀ a ∈ found, ∃ v, read v = .ok a := by
  cases fields.withDefault_eq_ok name (readList read) [] found accepted with
  | inl absent => simp [absent]
  | inr given =>
    obtain ⟨v, listed⟩ := given
    exact exists_of_readList read v found listed

end Wire

theorem Token.ofValue_small (v : Value) (token : Token) (accepted : Token.ofValue v = .ok token) :
    token.start < natLimit ∧ token.stop < natLimit := by
  simp only [Token.ofValue, bind_eq_ok_iff] at accepted
  obtain ⟨_, _, _, _, start, startRead, stop, stopRead, _, _, built⟩ := accepted
  obtain rfl := Except.ok.inj built
  exact ⟨lt_of_withDefault _ _ _ startRead, lt_of_withDefault _ _ _ stopRead⟩

theorem Annotation.ofValue_small (v : Value) (a : Annotation)
    (accepted : Annotation.ofValue v = .ok a) : a.channel < natLimit := by
  simp only [bind_eq_ok_iff, Annotation.ofValue] at accepted
  obtain ⟨_, _, _, _, _, _, _, _, _, _, _, _, _, _, channel, channelRead, _, _, built⟩ := accepted
  obtain rfl := Except.ok.inj built
  exact lt_of_withDefault _ _ _ channelRead

theorem Sentence.withTable_portable (id : String) (tokens : List Token) (table : AttributeTable)
    (small : Token.Small tokens) (count : (withTable id tokens table).attributes.tokenCount =
      (withTable id tokens table).size) : (withTable id tokens table).Portable := by
  have few : (renumber tokens).length < natLimit := by simpa [renumber] using small.1
  unfold withTable at count ⊢
  dsimp only at count ⊢
  split at count
  next bare =>
    rw [if_pos bare]
    exact ⟨renumber_renumber tokens, renumber_offsets tokens small.2, few, fillOrth_written _⟩
  next complete =>
    rw [if_neg complete]
    refine ⟨renumber_renumber tokens, renumber_offsets tokens small.2, few, ?_⟩
    -- A table of the right size would have been given the column.
    have sized : table.tokenCount = tokens.length := by simpa [size, renumber] using count
    simp only [sized, BEq.rfl, Bool.and_true, Option.isNone_iff_eq_none,
      AttributeTable.find?_eq_none_iff, not_not] at complete
    exact complete

theorem Sentence.ofValue_portable (v : Value) (sentence : Sentence)
    (accepted : Sentence.ofValue v = .ok sentence) (few : sentence.size < natLimit)
    (count : sentence.attributes.tokenCount = sentence.size) : sentence.Portable := by
  simp only [Sentence.ofValue, bind_eq_ok_iff] at accepted
  obtain ⟨_, _, id, _, tokens, tokensRead, attributes, _, built⟩ := accepted
  have small : ∀ token ∈ tokens, token.start < natLimit ∧ token.stop < natLimit := by
    intro token present
    obtain ⟨v, read⟩ := exists_of_required _ _ _ tokens tokensRead token present
    exact token.ofValue_small v read
  cases attributes with
  | none =>
    obtain rfl := Except.ok.inj built
    refine ofTokens_portable id tokens ⟨?_, small⟩
    simpa [ofTokens, size, fillOrth, renumber] using few
  | some table =>
    obtain rfl := Except.ok.inj built
    refine withTable_portable id tokens table ⟨?_, small⟩ count
    unfold withTable size at few
    dsimp only at few
    split at few <;> simpa [fillOrth, renumber] using few

namespace Document

theorem ofSentences_sound (id : String) (sentences : List Sentence)
    (tables : ∀ s ∈ sentences, s.attributes.tokenCount = s.size) :
    (ofSentences id sentences).Sound where
  tables := tables
  identities := by simp [ofSentences]
  spans := by simp [ofSentences]
  endpoints := by simp [ofSentences]

theorem mem_of_insertAll (arena final : Arena) (list : List Annotation)
    (inserted : insertAll arena list = .ok final) (a : Annotation) (present : a ∈ final.entries) :
    a ∈ arena.entries ∨ a ∈ list := by
  induction list generalizing arena with
  | nil =>
    obtain rfl := Except.ok.inj inserted
    exact .inl present
  | cons b rest ih =>
    simp only [insertAll] at inserted
    split at inserted
    · simp at inserted
    · rcases ih (arena.insert b) inserted with old | later
      · rcases mem_insertById b a _ old with rfl | older
        · exact .inr (by simp)
        · exact .inl older
      · exact .inr (List.mem_cons_of_mem b later)

/-- Where a document may come from. Lists and texts are no longer than can be counted. -/
inductive Origin : Document → Prop where
  | text (id text : String) (short : byteSize text.toList < natLimit) : Origin (ofText id text)
  | tokens (id : String) (sentences : List (String × List Token))
      (short : sentences.length ≤ natLimit) (small : ∀ s ∈ sentences, Token.Small s.2) :
      Origin (ofSentences id (sentences.map fun s => Sentence.ofTokens s.1 s.2))
  | accepted (v : Value) (document : Document) (accepted : Document.ofValue v = .ok document)
      (short : document.sentences.length ≤ natLimit)
      (few : ∀ s ∈ document.sentences, s.size < natLimit) : Origin document

theorem ofSentences_portable (id : String) (sentences : List Sentence)
    (short : sentences.length ≤ natLimit)
    (each : ∀ s ∈ sentences, ∃ name tokens, s = Sentence.ofTokens name tokens ∧
      Token.Small tokens) :
    (ofSentences id sentences).Sound ∧ (ofSentences id sentences).Portable ∧
      (ofSentences id sentences).nextId < natLimit := by
  refine ⟨ofSentences_sound id sentences fun s present => ?_,
    ⟨fun s present => ?_, short, by simp [ofSentences]⟩, by simp [ofSentences, natLimit]⟩
  · obtain ⟨name, tokens, rfl, _⟩ := each s present
    exact Sentence.ofTokens_tokenCount name tokens
  · obtain ⟨name, tokens, rfl, small⟩ := each s present
    exact Sentence.ofTokens_portable name tokens small

theorem splitSentences_small (text : String) (short : byteSize text.toList < natLimit) :
    (splitSentences text).length < natLimit ∧
      ∀ tokens ∈ splitSentences text, Token.Small tokens := by
  have cuts := tokenizeSegments_cuts 0 (Text.sentences text.toList)
  rw [Text.sentences_flatten] at cuts
  have total : (splitSentences text).flatten.length < natLimit := by
    have few := cuts.length_le
    rw [List.length_map] at few
    exact Nat.lt_of_le_of_lt few short
  constructor
  · -- No sentence is empty, so they are no more than their tokens.
    have filled : ∀ size ∈ (splitSentences text).map List.length, 1 ≤ size := by
      intro size listed
      obtain ⟨tokens, present, rfl⟩ := List.mem_map.mp listed
      exact List.length_pos_iff.mpr (mem_tokenizeSegments 0 _ tokens present).1
    have few := List.length_le_sum_of_one_le _ filled
    rw [List.length_map, ← List.length_flatten] at few
    exact Nat.lt_of_le_of_lt few total
  · intro tokens present
    have part : tokens.Sublist (splitSentences text).flatten := List.sublist_flatten_of_mem present
    refine ⟨Nat.lt_of_le_of_lt part.length_le total, fun token there => ?_⟩
    have bounds := cuts.stop_le token.toPiece (List.mem_map_of_mem (part.subset there))
    simp only [Token.toPiece] at bounds
    omega

theorem accepted_portable (v : Value) (document : Document)
    (accepted : Document.ofValue v = .ok document) (short : document.sentences.length ≤ natLimit)
    (few : ∀ s ∈ document.sentences, s.size < natLimit) :
    document.Sound ∧ document.Portable ∧ document.nextId < natLimit := by
  simp only [Document.ofValue, bind_eq_ok_iff] at accepted
  obtain ⟨_, _, id, _, sentences, sentencesRead, annotations, annotationsRead, relations, _, nextId,
    nextIdRead, assembled⟩ := accepted
  obtain ⟨fresh, after, composed⟩ := (assemble_eq_ok_iff _ _ _ _ _ _).mp assembled
  simp only [compose, bind_eq_ok_iff] at composed
  obtain ⟨arena, inserted, _, checked, built⟩ := composed
  obtain rfl := Except.ok.inj built
  have sound := (check_eq_ok_iff _).mp checked
  refine ⟨sound, ⟨fun s present => ?_, short, fun a present => ?_⟩, ?_⟩
  · obtain ⟨v, read⟩ := exists_of_required _ _ _ sentences sentencesRead s present
    exact s.ofValue_portable v read (few s present) (sound.tables s present)
  · rcases mem_of_insertAll .empty arena annotations inserted a present with none | listed
    · simp at none
    · obtain ⟨v, read⟩ := exists_of_withDefault _ _ _ annotations annotationsRead a listed
      exact a.ofValue_small v read
  · have least := freshAfter_le annotations fresh maxIndex after
      ((freshAfter_eq_some_iff annotations fresh).mp after).1
    exact Nat.max_lt.mpr ⟨lt_of_withDefault _ _ _ nextIdRead, Nat.lt_succ_of_le least⟩

theorem Origin.portable {document : Document} (origin : document.Origin) :
    document.Sound ∧ document.Portable ∧ document.nextId < natLimit := by
  cases origin with
  | text id text short =>
    obtain ⟨few, small⟩ := splitSentences_small text short
    refine ofSentences_portable id _ (by simpa using Nat.le_of_lt few) fun s present => ?_
    obtain ⟨place, inside, rfl⟩ := List.mem_mapIdx.mp present
    exact ⟨_, _, rfl, small _ (List.getElem_mem inside)⟩
  | tokens id sentences short small =>
    refine ofSentences_portable id _ (by simpa using short) fun s present => ?_
    obtain ⟨part, listed, rfl⟩ := List.mem_map.mp present
    exact ⟨part.1, part.2, rfl, small part listed⟩
  | accepted v _ read short few => exact accepted_portable v document read short few

theorem process_portable (document final : Document) (pipeline : Pipeline) (clock : Clock)
    (summary : ProcessSummary) (sound : document.Sound) (portable : document.Portable)
    (small : pipeline.Small)
    (room : document.nextId + (pipeline.chunkedIds document).length < maxIndex)
    (run : pipeline.process clock document = (final, .ok summary)) :
    final.Sound ∧ final.Portable ∧ final.nextId < natLimit := by
  have issued : document.issuedOver [.process pipeline clock] = pipeline.chunkedIds document := by
    simp [issuedOver, Operation.issued, Pipeline.issuedIds, run]
  have allSmall : ∀ operation ∈ [Operation.process pipeline clock], operation.Small :=
    List.forall_mem_singleton.mpr small
  refine document.history_portable sound portable _ allSmall (by rwa [HasRoom, issued]) final ?_
  simp [history, Operation.after, run]

/-- The text of a document that comes in is accepted and gives the same document. So does, at any
time, the text of what operations make of it, and the text of what a run leaves that succeeds. -/
theorem history_reloads (start : Document) (origin : start.Origin) :
    Json.decode ofValue (Json.render start.toValue) = .ok start ∧
      ∀ operations : List Operation, (∀ operation ∈ operations, operation.Small) →
        start.HasRoom operations → ∀ state ∈ start.history operations,
          Json.decode ofValue (Json.render state.toValue) = .ok state ∧
          ∀ (pipeline : Pipeline) (clock : Clock) (final : Document) (summary : ProcessSummary),
            pipeline.Small → state.nextId + (pipeline.chunkedIds state).length < maxIndex →
            pipeline.process clock state = (final, .ok summary) →
            Json.decode ofValue (Json.render final.toValue) = .ok final := by
  obtain ⟨sound, portable, counter⟩ := origin.portable
  refine ⟨start.decode_render sound portable counter, fun operations small room state present => ?_⟩
  obtain ⟨stateSound, statePortable, stateCounter⟩ :=
    start.history_portable sound portable operations small room state present
  refine ⟨state.decode_render stateSound statePortable stateCounter, ?_⟩
  intro pipeline clock final summary pipelineSmall pipelineRoom run
  obtain ⟨finalSound, finalPortable, finalCounter⟩ := state.process_portable final pipeline clock
    summary stateSound statePortable pipelineSmall pipelineRoom run
  exact final.decode_render finalSound finalPortable finalCounter

def nowakInLublin : Document :=
  ofSentences "d" [Sentence.ofOrths "s1" ["Jan", "Nowak", "w", "Lublinie"]]

/-- A name is found, tagged and linked to a place, and a column is added that stays empty. -/
def taggedName : List Operation :=
  [.chunk ⟨"names", fun _ => [.plain 0 1 "PERSON", .plain 3 3 "PLACE"]⟩,
    .writeTags 0 "PERSON" "tag", .register 0 "lemma", .relate (.ofKind 0 1 "lives in"),
    .merge (.ranking ["PERSON", "PLACE"]), .add 0 (.plain 2 2 "VERB") "hand"]

theorem taggedName_reloads :
    nowakInLublin.issuedOver taggedName = [0, 1, 2] ∧
      ∀ state ∈ nowakInLublin.history taggedName,
        Json.decode ofValue (Json.render state.toValue) = .ok state := by
  have origin : nowakInLublin.Origin :=
    .tokens "d" [("s1", ["Jan", "Nowak", "w", "Lublinie"].mapIdx fun index orth =>
      Token.ofOrth orth index)] (by decide) (by simp [Token.Small, Token.ofOrth, natLimit])
  have small : ∀ operation ∈ taggedName, operation.Small := by
    simp [taggedName, Operation.Small, Chunker.Small, Proposal.plain, natLimit]
  have issued : nowakInLublin.issuedOver taggedName = [0, 1, 2] := by decide +kernel
  have room : nowakInLublin.HasRoom taggedName := by
    rw [HasRoom, issued]
    decide
  exact ⟨issued, fun state present =>
    ((history_reloads _ origin).2 taggedName small room state present).1⟩

end Document

end SpanAnnotation
