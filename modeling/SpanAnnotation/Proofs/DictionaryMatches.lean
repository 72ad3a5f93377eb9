import Mathlib.Data.List.Basic
import SpanAnnotation.Proofs.Proposals

/-!
The matches of a dictionary, said of the phrases that were added and of the sentence alone.
-/

set_option autoImplicit false

namespace SpanAnnotation

-- How a dictionary compares a word.
def spelled (caseSensitive : Bool) (word : String) : String :=
  if caseSensitive then word else Text.lowercase word

def phraseWords (caseSensitive : Bool) (phrase : String) : List String :=
  (Text.words phrase.toList).map fun word => spelled caseSensitive (String.ofList word)

/-- The phrase has words, and these stand in the sentence from the token on. -/
def Sentence.hasPhrase (sentence : Sentence) (caseSensitive : Bool) (token : Nat)
    (phrase : String) : Bool :=
  let words := phraseWords caseSensitive phrase
  !words.isEmpty &&
    words.isPrefixOf ((sentence.tokens.map fun t => spelled caseSensitive t.orth).drop token)

/-- From left to right; at one token in the order of the entries, and of the phrases of an entry. -/
def phraseMatches (caseSensitive : Bool) (entries : List (String × List String))
    (sentence : Sentence) : List Proposal :=
  (List.range sentence.size).flatMap fun token =>
    entries.flatMap fun entry =>
      (entry.2.filter (sentence.hasPhrase caseSensitive token)).map fun phrase =>
        .plain token (token + (phraseWords caseSensitive phrase).length - 1) entry.1

namespace Dictionary

variable (dictionary : Dictionary)

theorem matchesFrom_eq (token : Nat) (words : List String) :
    dictionary.matchesFrom token words =
      (List.range words.length).flatMap fun skipped =>
        dictionary.matchesAt (token + skipped) (words.drop skipped) := by
  induction words generalizing token with
  | nil => rfl
  | cons word rest ih =>
    rw [matchesFrom, ih, List.length_cons, List.range_succ_eq_map, List.flatMap_cons,
      List.flatMap_map]
    simp [Nat.add_assoc, Nat.add_comm 1]

-- The entry that a phrase makes.
def entryOf (caseSensitive : Bool) (phrase category : String) : Option DictionaryEntry :=
  let words := phraseWords caseSensitive phrase
  if words.isEmpty then none else some ⟨words, category⟩

theorem add_eq (phrase category : String) :
    dictionary.add phrase category =
      { dictionary with entries := dictionary.entries ++
          (entryOf dictionary.caseSensitive phrase category).toList } := by
  have same : ((Text.words phrase.toList).map fun word => dictionary.normalize (String.ofList word)) =
      phraseWords dictionary.caseSensitive phrase := rfl
  unfold add entryOf
  dsimp only
  rw [same]
  by_cases empty : (phraseWords dictionary.caseSensitive phrase).isEmpty = true
  · simp [empty]
  · simp [empty]

theorem addPhrases_eq (phrases : List (String × String)) :
    dictionary.addPhrases phrases =
      { dictionary with entries := dictionary.entries ++
          phrases.filterMap fun entry => entryOf dictionary.caseSensitive entry.1 entry.2 } := by
  induction phrases generalizing dictionary with
  | nil => simp [addPhrases]
  | cons entry rest ih =>
    rw [addPhrases, List.foldl_cons, ← addPhrases, ih, add_eq, List.filterMap_cons]
    cases entryOf dictionary.caseSensitive entry.1 entry.2 <;> simp

theorem addEntries_eq (entries : List (String × List String)) :
    dictionary.addEntries entries =
      { dictionary with entries := dictionary.entries ++ entries.flatMap fun entry =>
          entry.2.filterMap fun phrase => entryOf dictionary.caseSensitive phrase entry.1 } := by
  rw [addEntries, ← addPhrases, addPhrases_eq, List.filterMap_flatMap]
  simp only [List.filterMap_map, Function.comp_def]

theorem filter_entries (caseSensitive : Bool) (sentence : Sentence) (token : Nat)
    (category : String) (phrases : List String) :
    ((phrases.filterMap fun phrase => entryOf caseSensitive phrase category).filter fun entry =>
      entry.words.isPrefixOf
        ((sentence.tokens.map fun t => spelled caseSensitive t.orth).drop token)) =
      (phrases.filter (sentence.hasPhrase caseSensitive token)).map fun phrase =>
        ⟨phraseWords caseSensitive phrase, category⟩ := by
  induction phrases with
  | nil => rfl
  | cons phrase rest ih =>
    rw [List.filterMap_cons, List.filter_cons, Sentence.hasPhrase, entryOf]
    by_cases empty : (phraseWords caseSensitive phrase).isEmpty = true
    next => simpa [empty] using ih
    next =>
      simp only [empty, Bool.false_eq_true, if_false, Bool.not_false, Bool.true_and,
        List.filter_cons, ih]
      split <;> rfl

theorem propose_eq_phraseMatches (name : String) (caseSensitive : Bool)
    (entries : List (String × List String)) (sentence : Sentence) :
    (((empty name).withCase caseSensitive).addEntries entries).propose sentence =
      phraseMatches caseSensitive entries sentence := by
  have filled : ((empty name).withCase caseSensitive).addEntries entries =
      ⟨name, caseSensitive, entries.flatMap fun entry =>
        entry.2.filterMap fun phrase => entryOf caseSensitive phrase entry.1⟩ := by
    rw [addEntries_eq]
    rfl
  rw [filled, propose, matchesFrom_eq, List.length_map, phraseMatches, Sentence.size]
  apply List.flatMap_congr
  intro token _
  rw [matchesAt, List.filter_flatMap, List.map_flatMap, Nat.zero_add]
  apply List.flatMap_congr
  intro entry _
  have kept := filter_entries caseSensitive sentence token entry.1 entry.2
  unfold spelled at kept
  unfold normalize
  dsimp only
  rw [kept, List.map_map]
  rfl

end Dictionary

end SpanAnnotation
