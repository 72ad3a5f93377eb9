import SpanAnnotation.Proofs.PhraseOccurrences
import SpanAnnotation.Proofs.SmallForms

/-!
Dictionaries that are told again how to compare words. A phrase keeps the spelling that was asked
for when it was added, while tokens are spelled as asked for last. So a dictionary proposes what it
would if it had been told first only as long as the phrases added before are in small letters.
-/

set_option autoImplicit false

namespace SpanAnnotation

theorem forall_of_countP_eq {α : Type} (p q : α → Bool) (list : List α)
    (implies : ∀ a ∈ list, p a = true → q a = true) (same : list.countP p = list.countP q) :
    ∀ a ∈ list, q a = true → p a = true := by
  induction list with
  | nil => simp
  | cons a rest ih =>
    obtain ⟨first, later⟩ := List.forall_mem_cons.mp implies
    have fewer := List.countP_mono_left later
    rw [List.countP_cons, List.countP_cons] at same
    have here : q a = true → p a = true := by
      intro right
      by_contra left
      simp only [left, right, if_true, if_false] at same
      omega
    have equal : rest.countP p = rest.countP q := by
      rw [Bool.eq_iff_iff.mpr ⟨first, here⟩] at same
      exact Nat.add_right_cancel same
    exact List.forall_mem_cons.mpr ⟨here, ih later equal⟩

-- Phrases in small letters.

def IsSmallPhrase (phrase : String) : Prop :=
  ∀ word ∈ wordsOf phrase, Text.lowercase word = word

instance (phrase : String) : Decidable (IsSmallPhrase phrase) :=
  inferInstanceAs (Decidable (∀ word ∈ wordsOf phrase, Text.lowercase word = word))

theorem map_spelled_true (words : List String) : words.map (spelled true) = words :=
  List.map_id words

theorem map_spelled_false (words : List String) :
    words.map (spelled false) = words.map Text.lowercase := rfl

section

variable {earlier final : Bool} {phrase other : String}

theorem phraseWords_eq_iff (apart : earlier ≠ final) :
    phraseWords earlier phrase = phraseWords final phrase ↔ IsSmallPhrase phrase := by
  simp only [phraseWords_eq, List.map_inj_left, IsSmallPhrase]
  refine forall₂_congr fun word _ => ?_
  cases earlier <;> cases final <;> simp_all [spelled, eq_comm]

-- What matches a phrase with capitals as it was stored does so as well when it is spelled anew.
theorem phraseWords_respelled (capital : ¬ IsSmallPhrase other)
    (same : phraseWords earlier phrase = phraseWords final other) :
    phraseWords final phrase = phraseWords final other := by
  have stored : (wordsOf phrase).map (spelled earlier) = (wordsOf other).map (spelled final) := by
    rw [← phraseWords_eq, ← phraseWords_eq, same]
  cases earlier with
  | true =>
    rw [map_spelled_true] at stored
    rw [phraseWords_eq, phraseWords_eq, stored, List.map_map]
    apply List.map_congr_left
    intro word _
    cases final with
    | false => exact Text.lowercase_lowercase word
    | true => rfl
  | false =>
    cases final with
    | false => exact same
    | true =>
      rw [map_spelled_true, map_spelled_false] at stored
      refine absurd (fun word listed => ?_) capital
      rw [← stored] at listed
      obtain ⟨before, _, rfl⟩ := List.mem_map.mp listed
      exact Text.lowercase_lowercase before

end

/-- A phrase and how words were compared when it was added. -/
structure AddedPhrase where
  caseSensitive : Bool
  phrase : String
  category : String
  deriving DecidableEq, Repr

def AddedPhrase.pair (added : AddedPhrase) : String × String := (added.phrase, added.category)

namespace Dictionary

/-- The dictionary was given phrases, one by one or in files, and was told at any time how to
compare words. -/
inductive Told (name : String) : List AddedPhrase → Dictionary → Prop
  | fresh : Told name [] (empty name)
  | withCase {phrases : List AddedPhrase} {dictionary : Dictionary} (caseSensitive : Bool) :
      Told name phrases dictionary → Told name phrases (dictionary.withCase caseSensitive)
  | add {phrases : List AddedPhrase} {dictionary : Dictionary} (phrase category : String) :
      Told name phrases dictionary →
        Told name (phrases ++ [⟨dictionary.caseSensitive, phrase, category⟩])
          (dictionary.add phrase category)
  | extend {phrases : List AddedPhrase} {dictionary longer : Dictionary} {files : Files}
      {path contents : String} {outcome : Except Error Nat} :
      Told name phrases dictionary → files path = some contents →
        dictionary.extend files path = (longer, outcome) →
          Told name (phrases ++ (phrasesRead contents).map fun entry =>
            ⟨dictionary.caseSensitive, entry.1, entry.2⟩) longer

theorem told_of_load {name path contents : String} {files : Files} {loaded : Dictionary}
    (stored : files path = some contents) (success : load name files path = .ok loaded) :
    Told name ((phrasesOf contents).map fun entry => ⟨false, entry.1, entry.2⟩) loaded := by
  obtain ⟨read, extended⟩ := ((empty name).withFile_eq_ok_iff loaded files path).mp success
  have whole := (empty name).phrasesRead_of_extend files path contents read stored
    (by rw [extended])
  rw [← whole]
  exact Told.fresh.extend stored extended

variable {name : String} {phrases : List AddedPhrase} {dictionary first : Dictionary}

/-- The dictionary that compares words in one way and holds phrases that were stored in others. -/
def storing (name : String) (caseSensitive : Bool) (stored : AddedPhrase → Bool)
    (phrases : List AddedPhrase) : Dictionary :=
  ⟨name, caseSensitive,
    phrases.filterMap fun added => entryOf (stored added) added.phrase added.category⟩

theorem Told.eq_storing (told : Told name phrases dictionary) :
    dictionary = storing name dictionary.caseSensitive AddedPhrase.caseSensitive phrases := by
  induction told with
  | fresh => rfl
  | withCase caseSensitive _ ih => rw [ih]; rfl
  | @add phrases dictionary phrase category _ ih =>
    rw [add_eq, storing, List.filterMap_append, ih]
    rfl
  | @extend phrases dictionary longer files path contents outcome _ stored extended ih =>
    have kept := dictionary.extend_fst files path contents stored
    rw [extended, addPhrases_eq] at kept
    obtain rfl : longer = _ := kept
    rw [storing, List.filterMap_append, List.filterMap_map, ih]
    rfl

theorem Filled.eq_storing {caseSensitive : Bool}
    (filled : Filled name caseSensitive (phrases.map AddedPhrase.pair) first) :
    first = storing name caseSensitive (fun _ => caseSensitive) phrases := by
  rw [filled.eq_addPhrases, addPhrases_eq, List.filterMap_map]
  rfl

theorem entryOf_filled (caseSensitive : Bool) (phrase category : String) (entry : DictionaryEntry)
    (made : entryOf caseSensitive phrase category = some entry) : entry.words ≠ [] := by
  simp only [entryOf, Option.ite_none_left_eq_some, Option.some.injEq] at made
  obtain ⟨filled, rfl⟩ := made
  simpa using filled

theorem storing_hasWords (name : String) (caseSensitive : Bool) (stored : AddedPhrase → Bool)
    (phrases : List AddedPhrase) : (storing name caseSensitive stored phrases).HasWords := by
  intro entry listed
  obtain ⟨added, _, made⟩ := List.mem_filterMap.mp listed
  exact entryOf_filled _ _ _ entry made

-- The proposals that cover the whole of a sentence.

def spells (words : List String) (category : String) (entry : DictionaryEntry) : Bool :=
  entry.words == words && entry.category == category

theorem count_propose (dictionary : Dictionary) (hasWords : dictionary.HasWords)
    (sentence : Sentence) (category : String) (some : sentence.tokens ≠ []) :
    (dictionary.propose sentence).count (.plain 0 (sentence.size - 1) category) =
      dictionary.entries.countP (spells
        (sentence.tokens.map fun token => dictionary.normalize token.orth) category) := by
  obtain ⟨word, rest, words⟩ : ∃ word rest,
      (sentence.tokens.map fun token => dictionary.normalize token.orth) = word :: rest :=
    List.exists_cons_of_ne_nil (by simpa using some)
  have length : sentence.size = rest.length + 1 := by
    rw [Sentence.size, ← List.length_cons (a := word), ← words, List.length_map]
  have later :
      (dictionary.matchesFrom 1 rest).count (.plain 0 (sentence.size - 1) category) = 0 := by
    rw [List.count_eq_zero]
    intro present
    obtain ⟨skipped, _, _, _, _, same⟩ := (dictionary.mem_matchesFrom 1 rest _).mp present
    have first := congrArg Proposal.first same
    simp only [Proposal.plain] at first
    omega
  rw [propose, words, matchesFrom, List.count_append, later, Nat.add_zero, matchesAt, List.count,
    List.countP_map, List.countP_filter]
  apply List.countP_congr
  intro entry listed
  have filled := List.length_pos_iff.mpr (hasWords entry listed)
  simp only [Function.comp_apply, spells, Bool.and_eq_true, beq_iff_eq, Proposal.plain,
    Proposal.mk.injEq, List.isPrefixOf_iff_prefix, true_and, and_true, length]
  constructor
  · rintro ⟨⟨last, same⟩, stands⟩
    exact ⟨stands.eq_of_length (by simp only [List.length_cons]; omega), same⟩
  · rintro ⟨stands, same⟩
    have long := congrArg List.length stands
    rw [List.length_cons] at long
    exact ⟨⟨by omega, same⟩, stands ▸ List.prefix_rfl⟩

theorem countP_entries (spelling : AddedPhrase → Bool) (phrases : List AddedPhrase)
    (words : List String) (category : String) (filled : words ≠ []) :
    (phrases.filterMap fun added => entryOf (spelling added) added.phrase added.category).countP
        (spells words category) =
      phrases.countP fun added =>
        phraseWords (spelling added) added.phrase == words && added.category == category := by
  rw [List.countP_filterMap]
  apply List.countP_congr
  intro added _
  by_cases empty : phraseWords (spelling added) added.phrase = []
  next => simpa [entryOf, empty] using fun none => absurd none filled
  next => simp [entryOf, empty, spells]

end Dictionary

theorem Sentence.ofOrths_orths (id : String) (orths : List String) :
    (ofOrths id orths).tokens.map Token.orth = orths := by
  apply List.ext_getElem?
  intro place
  simp [ofOrths, ofTokens, fillOrth, renumber, Token.ofOrth, Function.comp_def]

namespace Dictionary

variable {name : String} {phrases : List AddedPhrase} {dictionary first : Dictionary}

/-- The proposals for the whole of a sentence are as many as the phrases that were stored as the
sentence is spelled. -/
theorem count_propose_storing (name : String) (caseSensitive : Bool) (stored : AddedPhrase → Bool)
    (phrases : List AddedPhrase) (sentence : Sentence) (category : String)
    (some : sentence.tokens ≠ []) :
    ((storing name caseSensitive stored phrases).propose sentence).count
        (.plain 0 (sentence.size - 1) category) =
      phrases.countP fun added =>
        phraseWords (stored added) added.phrase ==
          sentence.tokens.map (fun token => spelled caseSensitive token.orth) &&
        added.category == category := by
  rw [count_propose _ (storing_hasWords name caseSensitive stored phrases) sentence category some]
  exact countP_entries stored phrases _ category (by simpa using some)

theorem Told.small_of_propose_eq (told : Told name phrases dictionary)
    (filled : Filled name dictionary.caseSensitive (phrases.map AddedPhrase.pair) first)
    (same : ∀ sentence, dictionary.propose sentence = first.propose sentence)
    (added : AddedPhrase) (listed : added ∈ phrases)
    (apart : added.caseSensitive ≠ dictionary.caseSensitive) : IsSmallPhrase added.phrase := by
  by_contra capital
  -- The sentence is the phrase itself, with its capitals.
  let sentence := Sentence.ofOrths "" (wordsOf added.phrase)
  have spoken : sentence.tokens ≠ [] := by
    intro none
    have empty := Sentence.ofOrths_orths "" (wordsOf added.phrase)
    rw [none, List.map_nil] at empty
    simp [IsSmallPhrase, ← empty] at capital
  have words : sentence.tokens.map (fun token => spelled dictionary.caseSensitive token.orth) =
      phraseWords dictionary.caseSensitive added.phrase := by
    rw [phraseWords_eq, ← Sentence.ofOrths_orths "" (wordsOf added.phrase), List.map_map]
    rfl
  have counted := congrArg (List.count (.plain 0 (sentence.size - 1) added.category))
    (same sentence)
  rw [told.eq_storing, filled.eq_storing, count_propose_storing _ _ _ _ _ _ spoken,
    count_propose_storing _ _ _ _ _ _ spoken, words] at counted
  have stored := forall_of_countP_eq _ _ phrases (fun other _ matched => ?_) counted added listed
    (by simp)
  · rw [Bool.and_eq_true, beq_iff_eq] at stored
    exact capital ((phraseWords_eq_iff apart).mp stored.1)
  · rw [Bool.and_eq_true, beq_iff_eq] at matched ⊢
    exact ⟨phraseWords_respelled capital matched.1, matched.2⟩

theorem Told.eq_first (told : Told name phrases dictionary)
    (filled : Filled name dictionary.caseSensitive (phrases.map AddedPhrase.pair) first)
    (small : ∀ added ∈ phrases, added.caseSensitive ≠ dictionary.caseSensitive →
      IsSmallPhrase added.phrase) : dictionary = first := by
  rw [told.eq_storing, filled.eq_storing, storing, storing]
  congr 1
  apply List.filterMap_congr
  intro added listed
  by_cases apart : added.caseSensitive = dictionary.caseSensitive
  next => rw [apart]
  next =>
    have words := (phraseWords_eq_iff apart).mpr (small added listed apart)
    rw [entryOf, entryOf, words]

/-- However often a dictionary is told how to compare words while it is given phrases, it proposes
the same as one that was told so first exactly when each phrase that was added under the other rule
is in small letters. So a dictionary that was read from a file and only then made case sensitive
misses the phrases of the file that have capitals. -/
theorem switched_proposes_iff (name : String) :
    (∀ (phrases : List AddedPhrase) (dictionary first : Dictionary),
      Told name phrases dictionary →
      Filled name dictionary.caseSensitive (phrases.map AddedPhrase.pair) first →
        ((∀ sentence, dictionary.propose sentence = first.propose sentence) ↔
          ∀ added ∈ phrases, added.caseSensitive ≠ dictionary.caseSensitive →
            IsSmallPhrase added.phrase)) ∧
    ∀ (files : Files) (path contents : String) (loaded first : Dictionary) (caseSensitive : Bool),
      files path = some contents → load name files path = .ok loaded →
      Filled name caseSensitive (phrasesOf contents) first →
        ((∀ sentence,
            (loaded.withCase caseSensitive).propose sentence = first.propose sentence) ↔
          (caseSensitive = true → ∀ entry ∈ phrasesOf contents, IsSmallPhrase entry.1)) := by
  have general (phrases : List AddedPhrase) (dictionary first : Dictionary)
      (told : Told name phrases dictionary)
      (filled : Filled name dictionary.caseSensitive (phrases.map AddedPhrase.pair) first) :
      (∀ sentence, dictionary.propose sentence = first.propose sentence) ↔
        ∀ added ∈ phrases, added.caseSensitive ≠ dictionary.caseSensitive →
          IsSmallPhrase added.phrase := by
    constructor
    · exact told.small_of_propose_eq filled
    · intro small sentence
      rw [told.eq_first filled small]
  refine ⟨general, ?_⟩
  intro files path contents loaded first caseSensitive stored success filled
  have pairs : ((phrasesOf contents).map fun entry =>
      (⟨false, entry.1, entry.2⟩ : AddedPhrase)).map AddedPhrase.pair = phrasesOf contents := by
    rw [List.map_map]
    exact List.map_id _
  rw [general _ _ first ((told_of_load stored success).withCase caseSensitive)
    (by rw [pairs]; exact filled), List.forall_mem_map]
  cases caseSensitive with
  | false => simp [withCase]
  | true => simp [withCase]

-- The name of the file is in small letters; the one added later was added as words are compared.
theorem switched_proposes_of_nowak :
    let files : Files := fun path => if path = "names.txt" then some "jan\tperson" else none
    let loaded := (empty "names").add "jan" "person"
    let first := ((empty "names").withCase true).add "jan" "person"
    let sentence := Sentence.ofOrths "s1" ["Jan", "Nowak", "i", "jan"]
    load "names" files "names.txt" = .ok loaded ∧
      (∀ sentence, (loaded.withCase true).propose sentence = first.propose sentence) ∧
      (∀ sentence, ((loaded.withCase true).add "Nowak" "person").propose sentence =
        (first.add "Nowak" "person").propose sentence) ∧
      (first.add "Nowak" "person").propose sentence =
        [.plain 1 1 "person", .plain 3 3 "person"] := by
  intro files loaded first sentence
  have success : load "names" files "names.txt" = .ok loaded := by decide +kernel
  have listed : phrasesOf "jan\tperson" = [("jan", "person")] := by decide +kernel
  have told : Told "names" [⟨false, "jan", "person"⟩] loaded := by
    have whole := told_of_load (show files "names.txt" = some "jan\tperson" from rfl) success
    rwa [listed] at whole
  have filled : Filled "names" true [("jan", "person")] first := .add "jan" "person" .fresh
  obtain ⟨general, ofFile⟩ := switched_proposes_iff "names"
  refine ⟨success, ?_, ?_, by decide +kernel⟩
  · refine (ofFile files "names.txt" _ loaded first true rfl success ?_).mpr ?_
    · rw [listed]
      exact filled
    · rw [listed]
      decide +kernel
  · exact (general _ _ _ ((told.withCase true).add "Nowak" "person")
      (filled.add "Nowak" "person")).mpr (by decide +kernel)

-- The capital of the name is lost on reading, before the dictionary is made case sensitive.
theorem loaded_switched_misses_jan :
    let files : Files := fun path => if path = "names.txt" then some "Jan\tperson" else none
    let sentence := Sentence.ofOrths "s1" ["Jan"]
    ∃ loaded first, load "names" files "names.txt" = .ok loaded ∧
      ((empty "names").withCase true).extend files "names.txt" = (first, .ok 1) ∧
      (loaded.withCase true).propose sentence = [] ∧
      first.propose sentence = [.plain 0 0 "person"] := by
  refine ⟨(empty "names").add "Jan" "person", ((empty "names").withCase true).add "Jan" "person",
    ?_, ?_, ?_, ?_⟩ <;> decide +kernel

end Dictionary

end SpanAnnotation
