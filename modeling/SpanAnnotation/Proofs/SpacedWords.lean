import SpanAnnotation.Proofs.TextDocuments

/-!
Words with blanks between them. What was put together from words, one blank apart, is cut into the
same words again, and the tokens of a text are such words.
-/

set_option autoImplicit false

namespace SpanAnnotation

namespace Text

/-- What stands between blanks. -/
structure IsWord (word : List Char) : Prop where
  filled : word ≠ []
  solid : ∀ c ∈ word, isBlank c = false

instance (word : List Char) : Decidable (IsWord word) :=
  decidable_of_iff (word ≠ [] ∧ word.all (fun c => !isBlank c) = true) <| by
    rw [List.all_eq_true]
    simp only [Bool.not_eq_true']
    exact ⟨fun ⟨filled, solid⟩ => ⟨filled, solid⟩, fun isWord => ⟨isWord.filled, isWord.solid⟩⟩

-- Cutting what was put together.

variable (cut : Char → Bool)

theorem splitAt_of_uncut (piece : List Char) (whole : ∀ c ∈ piece, cut c = false) :
    splitAt cut piece = [piece] := by
  induction piece with
  | nil => rfl
  | cons c rest ih =>
    obtain ⟨here, later⟩ := List.forall_mem_cons.mp whole
    simp [splitAt, here, ih later]

theorem splitAt_append (piece : List Char) (mark : Char) (rest : List Char)
    (whole : ∀ c ∈ piece, cut c = false) (cuts : cut mark = true) :
    splitAt cut (piece ++ mark :: rest) = piece :: splitAt cut rest := by
  induction piece with
  | nil => simp [splitAt, cuts]
  | cons c piece ih =>
    obtain ⟨here, later⟩ := List.forall_mem_cons.mp whole
    simp [splitAt, here, ih later]

theorem splitAt_intercalate (mark : Char) (cuts : cut mark = true) (pieces : List (List Char))
    (some : pieces ≠ []) (whole : ∀ piece ∈ pieces, ∀ c ∈ piece, cut c = false) :
    splitAt cut ([mark].intercalate pieces) = pieces := by
  induction pieces with
  | nil => exact absurd rfl some
  | cons piece rest ih =>
    obtain ⟨here, later⟩ := List.forall_mem_cons.mp whole
    cases rest with
    | nil => rw [List.intercalate_singleton, splitAt_of_uncut cut piece here]
    | cons next rest =>
      rw [List.intercalate_cons_cons, List.append_assoc, List.singleton_append,
        splitAt_append cut piece mark _ here cuts, ih (by simp) later]

theorem words_intercalate (spoken : List (List Char)) (each : ∀ word ∈ spoken, IsWord word) :
    words ([' '].intercalate spoken) = spoken := by
  by_cases some : spoken = []
  next => simp [some, words, splitAt]
  next =>
    rw [words, splitAt_intercalate isBlank ' ' (by decide) spoken some fun word listed =>
      (each word listed).solid, List.filter_eq_self]
    intro word listed
    simpa using (each word listed).filled

end Text

-- Tokens of a text.

namespace Token

theorem Cuts.isWord {position : Nat} {cs : List Char} {found : List Piece}
    (cuts : Cuts position cs found) : ∀ piece ∈ found, Text.IsWord piece.text := by
  induction cuts with
  | nil => simp
  | blank _ _ ih => exact ih
  | piece filled solid _ ih => exact List.forall_mem_cons.mpr ⟨⟨filled, solid⟩, ih⟩

theorem isWord_of_cuts (position : Nat) (cs : List Char) (tokens : List Token)
    (cuts : Cuts position cs (tokens.map toPiece)) :
    ∀ token ∈ tokens, Text.IsWord token.orth.toList := by
  intro token present
  exact cuts.isWord token.toPiece (List.mem_map_of_mem present)

theorem isWord_of_tokenize (text : String) :
    ∀ token ∈ tokenize text, Text.IsWord token.orth.toList := by
  refine isWord_of_cuts 0 text.toList _ ?_
  rw [tokenize, number_toPiece]
  exact pieces_cuts text.toList

end Token

theorem Document.isWord_of_ofText (id text : String) :
    ∀ sentence ∈ (ofText id text).sentences, ∀ token ∈ sentence.tokens,
      Text.IsWord token.orth.toList := by
  intro sentence listed token present
  have split := Token.tokenizeSegments_splitFrom text _ (Text.sentences_flatten text.toList)
  have kept : (ofText id text).sentences.map Sentence.tokens = splitSentences text :=
    (ofTokens_madeOf id _ split.numbered).tokens
  have there : sentence.tokens ∈ splitSentences text := kept ▸ List.mem_map_of_mem listed
  have cuts := Token.tokenizeSegments_cuts 0 (Text.sentences text.toList)
  exact Token.isWord_of_cuts 0 _ _ cuts token (List.mem_flatten.mpr ⟨_, there, present⟩)

end SpanAnnotation
