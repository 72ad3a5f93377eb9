import SpanAnnotation.Proofs.StableColumns
import SpanAnnotation.Proofs.TextCuts
import SpanAnnotation.Proofs.TokenDistance

/-!
Documents that are made of a text. However the text falls into segments, the tokens of the sentences
taken together are cut from the whole text, and the document has exactly these tokens, with their
written forms as an attribute and with their numbers in the text as positions.
-/

set_option autoImplicit false

namespace SpanAnnotation

namespace Token

/-- The tokens of sentences of a text: none is empty, each is numbered on its own, and all together
are cut from the text. -/
structure SplitFrom (text : String) (sentences : List (List Token)) : Prop where
  filled : ∀ tokens ∈ sentences, tokens ≠ []
  numbered : ∀ tokens ∈ sentences, tokens.map Token.index = List.range tokens.length
  cut : CutFrom text sentences.flatten

theorem tokenizeSegments_splitFrom (text : String) (segments : List (List Char))
    (whole : segments.flatten = text.toList) : SplitFrom text (tokenizeSegments 0 segments) where
  filled tokens present := (mem_tokenizeSegments 0 segments tokens present).1
  numbered tokens present := (mem_tokenizeSegments 0 segments tokens present).2
  cut := cutFrom_of_cuts text _ (whole ▸ tokenizeSegments_cuts 0 segments)

end Token

-- Sentences.

namespace Sentence

theorem renumber_of_numbered (tokens : List Token)
    (numbered : tokens.map Token.index = List.range tokens.length) : renumber tokens = tokens := by
  apply List.ext_getElem
  next => simp [renumber]
  next =>
    intro place _ within
    have index : (tokens.map Token.index)[place]? = some place := by simp [numbered, within]
    have same : tokens[place].index = place := by simpa [within] using index
    have kept : { tokens[place] with index := place } = tokens[place] := by
      generalize tokens[place] = token at same
      subst same
      rfl
    simpa [renumber] using kept

theorem ofTokens_tokens (id : String) (tokens : List Token) :
    (ofTokens id tokens).tokens = renumber tokens := rfl

theorem ofTokens_columns (id : String) (tokens : List Token) :
    (ofTokens id tokens).attributes.columns =
      [⟨orthName, (renumber tokens).map fun token : Token => some token.orth⟩] :=
  (AttributeTable.empty tokens.length).register_putColumn
    ⟨orthName, (renumber tokens).map fun token : Token => some token.orth⟩
    (by simp [AttributeTable.names, AttributeTable.empty])
    (by simp [renumber, AttributeTable.empty])

theorem ofTokens_attribute? (id : String) (tokens : List Token) (place : Nat) :
    (ofTokens id tokens).attribute? place orthName = (ofTokens id tokens).orth? place := by
  have column : (ofTokens id tokens).attributes.columns[0]? =
      some ⟨orthName, (renumber tokens).map fun token : Token => some token.orth⟩ := by
    rw [ofTokens_columns]
    rfl
  rw [attribute?, AttributeTable.get?_name _ orthName 0 _ column, orth?, ofTokens_tokens]
  cases there : (renumber tokens)[place]? <;> simp [there]

end Sentence

-- Documents.

namespace Document

/-- A document of the sentences, named in turn, in which every token has its written form as an
attribute and its number in the whole text as its position. -/
structure MadeOf (id : String) (sentences : List (List Token)) (document : Document) : Prop where
  id : document.id = id
  valid : document.validate = .ok ()
  names : document.sentences.map Sentence.id =
    (List.range sentences.length).map fun place => "s" ++ toString (place + 1)
  tokens : document.sentences.map Sentence.tokens = sentences
  orths : ∀ sentence ∈ document.sentences, ∀ token,
    sentence.attribute? token Sentence.orthName = sentence.orth? token
  positions : document.positions = List.range document.tokenCount
  places : ∀ place token sentence, document.sentence? place = some sentence →
    token < sentence.size →
      sentences.flatten[document.position place token]? = sentence.tokens[token]?

theorem ofTokens_madeOf (id : String) (sentences : List (List Token))
    (numbered : ∀ tokens ∈ sentences, tokens.map Token.index = List.range tokens.length) :
    MadeOf id sentences (ofTokens id sentences) := by
  have tokens : (ofTokens id sentences).sentences.map Sentence.tokens = sentences := by
    apply List.ext_getElem
    next => simp [ofTokens, ofSentences]
    next =>
      intro place _ within
      have same := Sentence.renumber_of_numbered _ (numbered _ (List.getElem_mem within))
      simpa [ofTokens, ofSentences, Sentence.ofTokens_tokens] using same
  have made : ∀ sentence ∈ (ofTokens id sentences).sentences,
      ∃ name tokens, sentence = Sentence.ofTokens name tokens := by
    intro sentence present
    obtain ⟨place, _, rfl⟩ := List.mem_mapIdx.mp present
    exact ⟨_, _, rfl⟩
  constructor
  next => rfl
  next =>
    apply (validate_eq_ok_iff _).mpr
    apply ofSentences_sound
    intro sentence present
    obtain ⟨name, tokens, rfl⟩ := made sentence present
    exact Sentence.ofTokens_tokenCount name tokens
  next =>
    apply List.ext_getElem
    next => simp [ofTokens, ofSentences]
    next =>
      intro place _ _
      simp [ofTokens, ofSentences, Sentence.ofTokens, Sentence.fillOrth]
  next => exact tokens
  next =>
    intro sentence present token
    obtain ⟨name, tokens, rfl⟩ := made sentence present
    exact Sentence.ofTokens_attribute? name tokens token
  next => exact positions_eq_range _
  next =>
    intro place token sentence found within
    have there := tokens_getElem?_position _ place token sentence found within
    rwa [Document.tokens, List.flatMap_def, tokens] at there

/-- However a text is cut into segments, its sentences keep all of it but the blanks, in order, and
the document made of them keeps the tokens. A text falls into such segments. -/
theorem ofText_keeps_text (id text : String) :
    (∀ segments : List (List Char), segments.flatten = text.toList →
      Token.SplitFrom text (tokenizeSegments 0 segments) ∧
        MadeOf id (tokenizeSegments 0 segments) (ofTokens id (tokenizeSegments 0 segments))) ∧
      Token.SplitFrom text (splitSentences text) ∧
        MadeOf id (splitSentences text) (ofText id text) := by
  have made (segments : List (List Char)) (whole : segments.flatten = text.toList) :
      Token.SplitFrom text (tokenizeSegments 0 segments) ∧
        MadeOf id (tokenizeSegments 0 segments) (ofTokens id (tokenizeSegments 0 segments)) := by
    have split := Token.tokenizeSegments_splitFrom text segments whole
    exact ⟨split, ofTokens_madeOf id _ split.numbered⟩
  exact ⟨made, made (Text.sentences text.toList) (Text.sentences_flatten text.toList)⟩

-- The third segment has no token, and the first one ends within a word.
theorem ofText_keeps_text_of_blankSegment :
    ["Ana v", "ê. ", " ", "Jan"].flatMap String.toList = "Ana vê.  Jan".toList ∧
      (tokenizeSegments 0 (["Ana v", "ê. ", " ", "Jan"].map String.toList)).length = 3 ∧
      Token.SplitFrom "Ana vê.  Jan"
        (tokenizeSegments 0 (["Ana v", "ê. ", " ", "Jan"].map String.toList)) :=
  ⟨by decide, by decide +kernel, ((ofText_keeps_text "text" "Ana vê.  Jan").1 _ (by decide)).1⟩

end Document

end SpanAnnotation
