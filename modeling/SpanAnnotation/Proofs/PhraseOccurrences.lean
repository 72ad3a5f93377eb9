import SpanAnnotation.Proofs.Acceptance
import SpanAnnotation.Proofs.DictionaryMatches
import SpanAnnotation.Proofs.SpacedWords

/-!
Where the phrases of a dictionary occur. However it was filled, a dictionary proposes each place of
a sentence at which the words of a phrase stand as tokens, and nothing else. The text of a span is
such a phrase, so that it is found again where the span is.
-/

set_option autoImplicit false

namespace SpanAnnotation

-- Words of a phrase.

def wordsOf (phrase : String) : List String := (Text.words phrase.toList).map String.ofList

theorem phraseWords_eq (caseSensitive : Bool) (phrase : String) :
    phraseWords caseSensitive phrase = (wordsOf phrase).map (spelled caseSensitive) := by
  rw [phraseWords, wordsOf, List.map_map]
  rfl

theorem wordsOf_intercalate (orths : List String)
    (each : ∀ orth ∈ orths, Text.IsWord orth.toList) :
    wordsOf (" ".intercalate orths) = orths := by
  have cut := Text.words_intercalate (orths.map String.toList) (List.forall_mem_map.mpr each)
  have spaced : (" ".intercalate orths).toList = [' '].intercalate (orths.map String.toList) :=
    String.toList_intercalate
  rw [wordsOf, spaced, cut, List.map_map]
  simp [Function.comp_def]

/-- The words stand in the sentence from a token on, one token each. -/
structure Sentence.Shows (sentence : Sentence) (caseSensitive : Bool) (first : Nat)
    (words : List String) : Prop where
  filled : words ≠ []
  spells : ∀ skipped word, words[skipped]? = some word →
    ∃ token, sentence.tokens[first + skipped]? = some token ∧
      spelled caseSensitive token.orth = spelled caseSensitive word

namespace Sentence

variable {sentence : Sentence} {caseSensitive : Bool} {first : Nat}

theorem hasPhrase_iff (phrase : String) :
    sentence.hasPhrase caseSensitive first phrase = true ↔
      sentence.Shows caseSensitive first (wordsOf phrase) := by
  have stands : phraseWords caseSensitive phrase <+:
      (sentence.tokens.map fun t => spelled caseSensitive t.orth).drop first ↔
      ∀ skipped word, (wordsOf phrase)[skipped]? = some word →
        ∃ token, sentence.tokens[first + skipped]? = some token ∧
          spelled caseSensitive token.orth = spelled caseSensitive word := by
    simp [phraseWords_eq, List.prefix_iff_getElem?, List.getElem?_eq_some_iff]
  rw [hasPhrase, Bool.and_eq_true, List.isPrefixOf_iff_prefix, stands, phraseWords_eq]
  constructor
  · rintro ⟨filled, spells⟩
    exact ⟨by simpa using filled, spells⟩
  · rintro ⟨filled, spells⟩
    exact ⟨by simpa using filled, spells⟩

theorem Shows.within {words : List String} (shown : sentence.Shows caseSensitive first words) :
    first + words.length - 1 < sentence.size := by
  have long := List.length_pos_iff.mpr shown.filled
  obtain ⟨token, there, _⟩ := shown.spells (words.length - 1) _
    (List.getElem?_eq_getElem (by omega))
  have bound := (List.getElem?_eq_some_iff.mp there).1
  rw [size]
  omega

-- A part of the sentence shows itself.
theorem shows_part (caseSensitive : Bool) (first count : Nat)
    (some : (sentence.tokens.drop first).take count ≠ []) :
    sentence.Shows caseSensitive first
      (((sentence.tokens.drop first).take count).map Token.orth) := by
  refine ⟨by simpa using some, fun skipped word there => ?_⟩
  simp only [List.getElem?_map, List.getElem?_take, List.getElem?_drop, Option.map_eq_some_iff,
    Option.ite_none_right_eq_some] at there
  obtain ⟨token, ⟨_, there⟩, rfl⟩ := there
  exact ⟨token, there, rfl⟩

end Sentence

/-- An entry of a dictionary that was found in a sentence: the token at which it starts, the number
of the entry, and what the entry holds. -/
structure Occurrence where
  first : Nat
  entry : Nat
  phrase : String
  category : String

namespace Occurrence

def proposal (o : Occurrence) : Proposal :=
  .plain o.first (o.first + (wordsOf o.phrase).length - 1) o.category

def Before (a b : Occurrence) : Prop :=
  a.first < b.first ∨ a.first = b.first ∧ a.entry < b.entry

end Occurrence

/-- The occurrences of numbered phrases in a sentence, by token and then by entry. -/
structure AllOccurrences (caseSensitive : Bool) (phrases : List (String × String))
    (sentence : Sentence) (found : List Occurrence) : Prop where
  ordered : found.Pairwise Occurrence.Before
  exact : ∀ o, o ∈ found ↔ phrases[o.entry]? = some (o.phrase, o.category) ∧
    sentence.Shows caseSensitive o.first (wordsOf o.phrase)

def phraseOccurrences (caseSensitive : Bool) (phrases : List (String × String))
    (sentence : Sentence) : List Occurrence :=
  (List.range sentence.size).flatMap fun first =>
    (phrases.zipIdx.filter fun entry => sentence.hasPhrase caseSensitive first entry.1.1).map
      fun entry => ⟨first, entry.2, entry.1.1, entry.1.2⟩

section

variable (caseSensitive : Bool) (phrases : List (String × String)) (sentence : Sentence)

theorem phraseOccurrences_ordered :
    (phraseOccurrences caseSensitive phrases sentence).Pairwise Occurrence.Before := by
  have numbered : phrases.zipIdx.Pairwise fun a b => a.2 < b.2 := by
    rw [← List.pairwise_map (f := Prod.snd) (R := (· < ·)), List.zipIdx_map_snd]
    exact List.pairwise_lt_range'
  rw [phraseOccurrences, List.pairwise_flatMap]
  constructor
  · intro first _
    rw [List.pairwise_map]
    exact (numbered.filter _).imp fun later => .inr ⟨rfl, later⟩
  · refine List.pairwise_lt_range.imp fun earlier a left b right => .inl ?_
    obtain ⟨_, _, rfl⟩ := List.mem_map.mp left
    obtain ⟨_, _, rfl⟩ := List.mem_map.mp right
    exact earlier

theorem mem_phraseOccurrences (o : Occurrence) :
    o ∈ phraseOccurrences caseSensitive phrases sentence ↔
      phrases[o.entry]? = some (o.phrase, o.category) ∧
        sentence.Shows caseSensitive o.first (wordsOf o.phrase) := by
  obtain ⟨first, entry, phrase, category⟩ := o
  simp only [phraseOccurrences, List.mem_flatMap, List.mem_range, List.mem_map, List.mem_filter,
    Sentence.hasPhrase_iff]
  constructor
  · rintro ⟨_, _, ⟨⟨_, _⟩, _⟩, ⟨listed, shown⟩, same⟩
    cases same
    exact ⟨List.mem_zipIdx_iff_getElem?.mp listed, shown⟩
  · rintro ⟨listed, shown⟩
    have filled := List.length_pos_iff.mpr shown.filled
    have bound := shown.within
    exact ⟨first, by omega, ((phrase, category), entry),
      ⟨List.mem_zipIdx_iff_getElem?.mpr listed, shown⟩, rfl⟩

theorem phraseOccurrences_all :
    AllOccurrences caseSensitive phrases sentence
      (phraseOccurrences caseSensitive phrases sentence) :=
  ⟨phraseOccurrences_ordered caseSensitive phrases sentence,
    mem_phraseOccurrences caseSensitive phrases sentence⟩

theorem phraseMatches_eq_occurrences :
    phraseMatches caseSensitive (phrases.map fun entry => (entry.2, [entry.1])) sentence =
      (phraseOccurrences caseSensitive phrases sentence).map Occurrence.proposal := by
  rw [phraseMatches, phraseOccurrences, List.map_flatMap]
  refine List.flatMap_congr fun first _ => ?_
  rw [List.map_map, List.flatMap_map]
  conv_lhs => rw [← List.zipIdx_map_fst 0 phrases, List.flatMap_map]
  generalize phrases.zipIdx = numbered
  induction numbered with
  | nil => rfl
  | cons entry rest ih =>
    rw [List.flatMap_cons, ih, List.filter_cons]
    by_cases shown : sentence.hasPhrase caseSensitive first entry.1.1 = true
    next => simp [shown, Occurrence.proposal, phraseWords_eq]
    next => simp [shown]

end

theorem AllOccurrences.within {caseSensitive : Bool} {phrases : List (String × String)}
    {sentence : Sentence} {found : List Occurrence}
    (all : AllOccurrences caseSensitive phrases sentence found) :
    ∀ o ∈ found, o.proposal.Within sentence.size := by
  intro o present
  have shown := ((all.exact o).mp present).2
  have filled := List.length_pos_iff.mpr shown.filled
  refine ⟨?_, shown.within, rfl⟩
  simp only [Occurrence.proposal, Proposal.plain]
  omega

namespace Dictionary

/-- The dictionary was told how to compare words and then filled with the phrases, given one by one
or in files. -/
inductive Filled (name : String) (caseSensitive : Bool) :
    List (String × String) → Dictionary → Prop
  | fresh : Filled name caseSensitive [] ((empty name).withCase caseSensitive)
  | add {phrases : List (String × String)} {dictionary : Dictionary} (phrase category : String) :
      Filled name caseSensitive phrases dictionary →
        Filled name caseSensitive (phrases ++ [(phrase, category)])
          (dictionary.add phrase category)
  -- A file that breaks off gives the phrases up to there.
  | extend {phrases : List (String × String)} {dictionary longer : Dictionary} {files : Files}
      {path contents : String} {outcome : Except Error Nat} :
      Filled name caseSensitive phrases dictionary → files path = some contents →
        dictionary.extend files path = (longer, outcome) →
          Filled name caseSensitive (phrases ++ phrasesRead contents) longer

variable {name : String} {caseSensitive : Bool} {phrases : List (String × String)}
  {dictionary : Dictionary}

theorem Filled.eq_addPhrases (filled : Filled name caseSensitive phrases dictionary) :
    dictionary = ((empty name).withCase caseSensitive).addPhrases phrases := by
  induction filled with
  | fresh => rfl
  | add phrase category _ ih =>
    rw [addPhrases_append, ← ih]
    rfl
  | @extend _ dictionary longer files path contents outcome _ stored extended ih =>
    have kept := dictionary.extend_fst files path contents stored
    rw [extended] at kept
    rw [addPhrases_append, ← ih]
    exact kept

theorem Filled.propose_eq (filled : Filled name caseSensitive phrases dictionary)
    (sentence : Sentence) :
    dictionary.propose sentence =
      (phraseOccurrences caseSensitive phrases sentence).map Occurrence.proposal := by
  have paired : (phrases.map fun entry : String × String => (entry.2, [entry.1])).flatMap
      (fun entry => entry.2.map fun phrase => (phrase, entry.1)) = phrases := by
    simp [List.flatMap_map]
  have grouped := propose_eq_phraseMatches name caseSensitive
    (phrases.map fun entry => (entry.2, [entry.1])) sentence
  rw [addEntries, paired, ← addPhrases, ← filled.eq_addPhrases] at grouped
  rw [grouped, phraseMatches_eq_occurrences]

theorem Filled.hasWords (filled : Filled name caseSensitive phrases dictionary) :
    dictionary.HasWords := by
  rw [filled.eq_addPhrases]
  exact addPhrases_hasWords _ (fun _ present => absurd present List.not_mem_nil) phrases

/-- No proposal of a dictionary is refused, and each takes an identity. -/
theorem Filled.applyChunker_outcome (filled : Filled name caseSensitive phrases dictionary)
    (named : "" ∉ dictionary.categories) (document : Document)
    (counter : document.nextId ≤ maxIndex) :
    if document.nextId + (document.sentences.flatMap dictionary.propose).length ≤ maxIndex then
      ∃ ids, (document.applyChunker (.ofDictionary dictionary)).2 = .ok ids
    else (document.applyChunker (.ofDictionary dictionary)).2 = .error (.panic .overflow) := by
  let chunker := Chunker.ofDictionary dictionary
  have keeps : chunker.KeepsTo dictionary.categories :=
    fun sentence proposal => dictionary.propose_within filled.hasWords sentence proposal
  have count : (chunker.placed 0 document.sentences).length =
      (document.sentences.flatMap dictionary.propose).length :=
    chunker.placed_length 0 document.sentences
  have outcome := document.chunkFrom_of_within chunker _ keeps
  have room := fun final =>
    document.addPlaced_room final chunker.name (chunker.placed 0 document.sentences)
  have short := document.addPlaced_short chunker.name (chunker.placed 0 document.sentences)
  have panics := document.addPlaced_panics chunker.name (chunker.placed 0 document.sentences)
  rw [Document.applyChunker]
  rw [Document.chunkFrom_eq_addPlaced] at outcome ⊢
  rw [← count]
  generalize document.addPlaced chunker.name _ = run at outcome room short panics ⊢
  obtain ⟨final, ids, result⟩ := run
  cases outcome with
  | added success _ =>
    obtain rfl : result = .ok () := success
    rw [if_pos (room final ids rfl counter)]
    exact ⟨ids, rfl⟩
  | refused _ _ proposal present unnamed =>
    obtain ⟨sentence, _, proposed⟩ := List.mem_flatMap.mp present
    exact absurd (unnamed ▸ (keeps sentence proposal proposed).2) named
  | ended failure =>
    obtain rfl : result = .error (.panic .overflow) := failure
    have used := panics .overflow rfl
    have fewer := short (.panic .overflow) rfl
    rw [if_neg (by omega)]

theorem Filled.proposes_span (filled : Filled name caseSensitive phrases dictionary)
    (document : Document) (a : Annotation) (category : String) (sentence : Sentence)
    (there : document.sentence? a.sentence = some sentence) (upright : a.first ≤ a.last)
    (inside : a.last < sentence.size)
    (spoken : ∀ token ∈ sentence.tokens, Text.IsWord token.orth.toList) :
    .plain a.first a.last category ∈
      (dictionary.add (document.spanText a) category).propose sentence := by
  have count : ((sentence.tokens.drop a.first).take (a.last + 1 - a.first)).length =
      a.last + 1 - a.first := by
    rw [Sentence.size] at inside
    rw [List.length_take, List.length_drop]
    omega
  have read : wordsOf (document.spanText a) =
      ((sentence.tokens.drop a.first).take (a.last + 1 - a.first)).map Token.orth := by
    simp only [Document.spanText, there]
    apply wordsOf_intercalate
    intro orth listed
    obtain ⟨token, present, rfl⟩ := List.mem_map.mp listed
    exact spoken token (List.mem_of_mem_drop (List.mem_of_mem_take present))
  have shown : sentence.Shows caseSensitive a.first (wordsOf (document.spanText a)) := by
    rw [read]
    apply Sentence.shows_part
    apply List.ne_nil_of_length_pos
    omega
  rw [(filled.add (document.spanText a) category).propose_eq]
  refine List.mem_map.mpr
    ⟨⟨a.first, phrases.length, document.spanText a, category⟩, ?_, ?_⟩
  · exact (mem_phraseOccurrences ..).mpr ⟨by simp, shown⟩
  · have last : a.first + (a.last + 1 - a.first) - 1 = a.last := by omega
    simp only [Occurrence.proposal, read, List.length_map, count, last]

/-- A dictionary proposes the occurrences of its phrases, each once and in order, so that a document
accepts them unless a category has no name or the identities run out. The text of a span is a phrase that occurs at the span,
as long as the tokens are words; those of a text are. -/
theorem Filled.proposes_occurrences (filled : Filled name caseSensitive phrases dictionary) :
    (∀ sentence, ∃ found, dictionary.propose sentence = found.map Occurrence.proposal ∧
      AllOccurrences caseSensitive phrases sentence found ∧
      ∀ o ∈ found, o.proposal.Within sentence.size) ∧
    ("" ∉ dictionary.categories → ∀ document : Document, document.nextId ≤ maxIndex →
      if document.nextId + (document.sentences.flatMap dictionary.propose).length ≤ maxIndex then
        ∃ ids, (document.applyChunker (.ofDictionary dictionary)).2 = .ok ids
      else (document.applyChunker (.ofDictionary dictionary)).2 = .error (.panic .overflow)) ∧
    (∀ (document : Document) (a : Annotation) (category : String) (sentence : Sentence),
      document.sentence? a.sentence = some sentence → a.first ≤ a.last → a.last < sentence.size →
      (∀ token ∈ sentence.tokens, Text.IsWord token.orth.toList) →
      .plain a.first a.last category ∈
        (dictionary.add (document.spanText a) category).propose sentence) ∧
    (∀ text, ∀ token ∈ tokenize text, Text.IsWord token.orth.toList) ∧
    ∀ id text, ∀ sentence ∈ (Document.ofText id text).sentences, ∀ token ∈ sentence.tokens,
      Text.IsWord token.orth.toList := by
  refine ⟨fun sentence => ?_, filled.applyChunker_outcome, filled.proposes_span,
    Token.isWord_of_tokenize, Document.isWord_of_ofText⟩
  have all := phraseOccurrences_all caseSensitive phrases sentence
  exact ⟨_, filled.propose_eq sentence, all, all.within⟩

-- Small letters, two blanks within a phrase, and two phrases that begin at one token.
theorem proposes_occurrences_of_jan :
    let dictionary :=
      (((empty "names").withCase false).add "Jan  Kowalski" "person").add "JAN" "name"
    let document := Document.ofText "text" "Jan Kowalski i jan."
    let sentence := Sentence.ofTokens "s1" (tokenize "Jan Kowalski i jan.")
    document.sentence? 0 = some sentence ∧
      dictionary.propose sentence = [.plain 0 1 "person", .plain 0 0 "name", .plain 3 3 "name"] ∧
      (∃ found, dictionary.propose sentence = found.map Occurrence.proposal ∧
        AllOccurrences false [("Jan  Kowalski", "person"), ("JAN", "name")] sentence found) ∧
      .plain 1 3 "quote" ∈ (dictionary.add "Kowalski i jan" "quote").propose sentence ∧
      ∃ ids, (document.applyChunker (.ofDictionary dictionary)).2 = .ok ids := by
  intro dictionary document sentence
  have filled : Filled "names" false [("Jan  Kowalski", "person"), ("JAN", "name")] dictionary :=
    .add "JAN" "name" (.add "Jan  Kowalski" "person" .fresh)
  obtain ⟨proposed, accepted, refound, _, spoken⟩ := filled.proposes_occurrences
  have there : document.sentence? 0 = some sentence := by decide +kernel
  obtain ⟨found, same, all, _⟩ := proposed sentence
  have quoted := refound document (.ofProposal 0 0 "" (.plain 1 3 "quote")) "quote" sentence there
    (by decide) (by decide +kernel) (spoken "text" _ sentence (List.mem_of_getElem? there))
  have text : document.spanText (.ofProposal 0 0 "" (.plain 1 3 "quote")) = "Kowalski i jan" := by
    decide +kernel
  rw [text] at quoted
  have taken := accepted (by decide +kernel) document (by decide +kernel)
  rw [if_pos (by decide +kernel)] at taken
  exact ⟨there, by decide +kernel, ⟨found, same, all⟩, quoted, taken⟩

end Dictionary

end SpanAnnotation
