import Mathlib.Data.List.TakeWhile
import SpanAnnotation.Proofs.Composition

/-!
What chunkers propose. An entry of a dictionary has words, so that its matches are spans of tokens
that the sentence has; unions and corrections only choose among the proposals of their parts. A
chunker that was built from a configuration therefore keeps to the sentence and to the categories
that were declared.
-/

set_option autoImplicit false

namespace SpanAnnotation

namespace Dictionary

variable (dictionary : Dictionary)

-- Entries.

def HasWords : Prop := ∀ entry ∈ dictionary.entries, entry.words ≠ []

theorem add_hasWords (hasWords : dictionary.HasWords) (phrase category : String) :
    (dictionary.add phrase category).HasWords := by
  unfold add
  dsimp only
  split
  · exact hasWords
  next some =>
    intro entry present
    rcases List.mem_append.mp present with old | new
    · exact hasWords entry old
    · obtain rfl := List.mem_singleton.mp new
      simpa using some

def addPhrases (phrases : List (String × String)) : Dictionary :=
  phrases.foldl (fun grown entry => grown.add entry.1 entry.2) dictionary

theorem addPhrases_append (phrases more : List (String × String)) :
    dictionary.addPhrases (phrases ++ more) = (dictionary.addPhrases phrases).addPhrases more :=
  List.foldl_append

theorem addPhrases_keeps (P : Dictionary → Prop) (phrases : List (String × String))
    (step : ∀ grown, ∀ entry ∈ phrases, P grown → P (grown.add entry.1 entry.2))
    (start : P dictionary) : P (dictionary.addPhrases phrases) :=
  List.foldlRecOn _ _ start fun grown holds entry listed => step grown entry listed holds

theorem addPhrases_hasWords (hasWords : dictionary.HasWords) (phrases : List (String × String)) :
    (dictionary.addPhrases phrases).HasWords :=
  dictionary.addPhrases_keeps HasWords phrases
    (fun grown entry _ words => grown.add_hasWords words entry.1 entry.2) hasWords

def addEntries (entries : List (String × List String)) : Dictionary :=
  (entries.flatMap fun entry => entry.2.map fun phrase => (phrase, entry.1)).foldl
    (fun grown entry => grown.add entry.1 entry.2) dictionary

theorem addEntries_keeps (P : Dictionary → Prop) (entries : List (String × List String))
    (step : ∀ grown phrase, ∀ category ∈ entries.map Prod.fst,
      P grown → P (grown.add phrase category))
    (start : P dictionary) : P (dictionary.addEntries entries) := by
  refine dictionary.addPhrases_keeps P _ (fun grown entry listed holds => ?_) start
  obtain ⟨group, present, phrase, _, rfl⟩ :
      ∃ group ∈ entries, ∃ phrase ∈ group.2, (phrase, group.1) = entry := by
    simpa only [List.mem_flatMap, List.mem_map] using listed
  exact step grown phrase group.1 (List.mem_map_of_mem present) holds

theorem addEntries_hasWords (hasWords : dictionary.HasWords)
    (entries : List (String × List String)) : (dictionary.addEntries entries).HasWords :=
  dictionary.addPhrases_hasWords hasWords _

theorem add_categories_subset (phrase category : String) :
    (dictionary.add phrase category).categories ⊆ category :: dictionary.categories := by
  unfold add categories
  dsimp only
  split <;> simp

theorem addEntries_categories (entries : List (String × List String)) (declared : List String)
    (listed : entries.map Prod.fst ⊆ declared) (start : dictionary.categories ⊆ declared) :
    (dictionary.addEntries entries).categories ⊆ declared := by
  refine dictionary.addEntries_keeps (·.categories ⊆ declared) entries ?_ start
  intro grown phrase category present within
  exact List.Subset.trans (grown.add_categories_subset phrase category)
    (List.cons_subset.mpr ⟨listed present, within⟩)

def phraseOfLine (line : List Char) : Option (String × String) :=
  let trimmed := Text.trim line
  if isSignificant trimmed then
    (Text.cutLast '\t' trimmed).map fun parts =>
      (String.ofList parts.1, String.ofList (Text.trim parts.2))
  else none

/-- The phrases of a file with their categories. -/
def phrasesOf (contents : String) : List (String × String) :=
  (Text.lines contents.toList).filterMap phraseOfLine

-- A line that counts must have a tab.
def isReadable (line : List Char) : Bool :=
  !isSignificant (Text.trim line) || (Text.cutLast '\t' (Text.trim line)).isSome

/-- The phrases of a file up to the first line that cannot be read. -/
def phrasesRead (contents : String) : List (String × String) :=
  ((Text.lines contents.toList).takeWhile isReadable).filterMap phraseOfLine

theorem addLines_fst (path : String) (lines : List (List Char × Nat)) :
    (dictionary.addLines path lines).1 =
      dictionary.addPhrases (((lines.map Prod.fst).takeWhile isReadable).filterMap phraseOfLine) := by
  induction lines generalizing dictionary with
  | nil => rfl
  | cons line rest ih =>
    rw [List.map_cons, List.takeWhile_cons]
    by_cases significant : isSignificant (Text.trim line.1) = true
    next =>
      cases cut : Text.cutLast '\t' (Text.trim line.1) with
      | none => simp [addLines, isReadable, significant, cut, addPhrases]
      | some parts =>
        simp only [addLines, isReadable, significant, cut, if_true, ih, Option.isSome_some,
          Bool.or_true, List.filterMap_cons, phraseOfLine, Option.map_some]
        rfl
    next => simp [addLines, isReadable, significant, ih, phraseOfLine]

theorem isReadable_of_addLines (path : String) (lines : List (List Char × Nat))
    (success : (dictionary.addLines path lines).2 = .ok ()) :
    ∀ line ∈ lines.map Prod.fst, isReadable line = true := by
  induction lines generalizing dictionary with
  | nil => simp
  | cons line rest ih =>
    rw [List.map_cons, List.forall_mem_cons]
    by_cases significant : isSignificant (Text.trim line.1) = true
    next =>
      cases cut : Text.cutLast '\t' (Text.trim line.1) with
      | none => simp [addLines, significant, cut] at success
      | some parts =>
        simp only [addLines, significant, cut, if_true] at success
        exact ⟨by simp [isReadable, cut], ih _ success⟩
    next =>
      simp only [addLines, significant, Bool.false_eq_true, if_false] at success
      exact ⟨by simp [isReadable, significant], ih dictionary success⟩

theorem extend_fst (files : Files) (path contents : String) (stored : files path = some contents) :
    (dictionary.extend files path).1 = dictionary.addPhrases (phrasesRead contents) := by
  have read := dictionary.addLines_fst path ((Text.lines contents.toList).zipIdx 1)
  rw [List.zipIdx_map_fst] at read
  simp only [extend, stored, addText, read]
  rfl

theorem extend_hasWords (hasWords : dictionary.HasWords) (files : Files) (path : String) :
    (dictionary.extend files path).1.HasWords := by
  cases stored : files path with
  | none => simpa [extend, stored] using hasWords
  | some contents =>
    rw [dictionary.extend_fst files path contents stored]
    exact dictionary.addPhrases_hasWords hasWords _

/-- A file that is read to its end gives all of its phrases. -/
theorem phrasesRead_of_extend (files : Files) (path contents : String) (read : Nat)
    (stored : files path = some contents) (success : (dictionary.extend files path).2 = .ok read) :
    phrasesRead contents = phrasesOf contents := by
  have whole := dictionary.isReadable_of_addLines path ((Text.lines contents.toList).zipIdx 1)
  simp only [extend, stored, addText] at success
  obtain ⟨_, added, _⟩ := (map_eq_ok_iff _ _ _).mp success
  have each := whole added
  rw [List.zipIdx_map_fst] at each
  rw [phrasesRead, phrasesOf, List.takeWhile_eq_self_iff.mpr each]

theorem withFile_eq_ok_iff (longer : Dictionary) (files : Files) (path : String) :
    dictionary.withFile files path = .ok longer ↔
      ∃ read, dictionary.extend files path = (longer, .ok read) := by
  unfold withFile
  generalize dictionary.extend files path = outcome
  obtain ⟨grown, result⟩ := outcome
  cases result <;> simp [Except.map]

-- Matches.

theorem mem_matchesFrom (token : Nat) (words : List String) (proposal : Proposal) :
    proposal ∈ dictionary.matchesFrom token words ↔
      ∃ skipped < words.length, ∃ entry ∈ dictionary.entries,
        entry.words <+: words.drop skipped ∧
          proposal = .plain (token + skipped) (token + skipped + entry.words.length - 1)
            entry.category := by
  induction words generalizing token with
  | nil => simp [matchesFrom]
  | cons word rest ih =>
    have here : proposal ∈ dictionary.matchesAt token (word :: rest) ↔
        ∃ entry ∈ dictionary.entries, entry.words <+: word :: rest ∧
          proposal = .plain token (token + entry.words.length - 1) entry.category := by
      simp only [matchesAt, List.mem_map, List.mem_filter, List.isPrefixOf_iff_prefix, and_assoc,
        eq_comm (a := proposal)]
    rw [matchesFrom, List.mem_append, here, ih]
    constructor
    · rintro (first | ⟨skipped, bound, later⟩)
      · exact ⟨0, by simp, by simpa using first⟩
      · exact ⟨skipped + 1, by simpa using bound, by
          simpa [Nat.add_assoc, Nat.add_comm 1 skipped] using later⟩
    · rintro ⟨_ | skipped, bound, found⟩
      · exact .inl (by simpa using found)
      · exact .inr ⟨skipped, by simpa using bound, by
          simpa [Nat.add_assoc, Nat.add_comm 1 skipped] using found⟩

end Dictionary

/-- The span lies in a sentence of the size, and no head is designated. -/
structure Proposal.Within (size : Nat) (proposal : Proposal) : Prop where
  upright : proposal.first ≤ proposal.last
  inside : proposal.last < size
  headless : proposal.head = none

theorem Dictionary.propose_within (dictionary : Dictionary) (hasWords : dictionary.HasWords)
    (sentence : Sentence) (proposal : Proposal) (proposed : proposal ∈ dictionary.propose sentence) :
    proposal.Within sentence.size ∧ proposal.category ∈ dictionary.categories := by
  obtain ⟨skipped, bound, entry, listed, fits, rfl⟩ :=
    (dictionary.mem_matchesFrom 0 _ proposal).mp proposed
  have some := List.length_pos_iff.mpr (hasWords entry listed)
  have short := fits.length_le
  rw [List.length_drop, List.length_map] at short
  rw [List.length_map] at bound
  refine ⟨⟨?_, ?_, rfl⟩, List.mem_map_of_mem listed⟩
  · simp only [Proposal.plain]
    omega
  · simp only [Proposal.plain, Sentence.size]
    omega

namespace Chunker

-- Choosing among proposals.

theorem mem_distinctFrom (seen proposals : List Proposal) (proposal : Proposal) :
    proposal ∈ distinctFrom seen proposals ↔ proposal ∈ proposals ∧ proposal ∉ seen := by
  induction proposals generalizing seen with
  | nil => simp [distinctFrom]
  | cons first rest ih =>
    simp only [distinctFrom]
    split
    next known =>
      rw [ih, List.mem_cons]
      refine and_congr_left fun fresh => (or_iff_right ?_).symm
      rintro rfl
      exact fresh (by simpa using known)
    next fresh =>
      rw [List.mem_cons, ih, List.mem_cons]
      by_cases same : proposal = first
      · simpa [same] using fresh
      · simp [same]

theorem distinctFrom_eq (seen proposals : List Proposal) :
    distinctFrom seen proposals =
      (proposals.filter fun proposal => !seen.contains proposal).eraseDups := by
  induction proposals generalizing seen with
  | nil => rfl
  | cons first rest ih =>
    rw [distinctFrom]
    by_cases known : seen.contains first = true
    next => rw [if_pos known, ih, List.filter_cons_of_neg (by simpa using known)]
    next =>
      rw [if_neg known, ih, List.filter_cons_of_pos (by simpa using known), List.eraseDups_cons,
        List.filter_filter]
      congr 2
      apply List.filter_congr
      intro proposal _
      rw [List.contains_cons, Bool.not_or]

theorem distinctFrom_nil (proposals : List Proposal) :
    distinctFrom [] proposals = proposals.eraseDups := by
  simp [distinctFrom_eq]

theorem union_propose (name : String) (members : List Chunker) (sentence : Sentence) :
    (union name members).propose sentence =
      (members.flatMap fun member => member.propose sentence).eraseDups := by
  simp [union, distinctFrom_nil]

theorem runStages_fixes (fixes : List Fix) (sentence : Sentence) (proposals : List Proposal) :
    runStages (fixes.map Fix.stage) sentence proposals =
      proposals.filter fun proposal => fixes.all fun fix => fix.keeps sentence proposal := by
  unfold runStages
  induction fixes generalizing proposals with
  | nil => simp
  | cons fix rest ih =>
    rw [List.map_cons, List.foldl_cons, ih]
    simp only [Fix.stage, Fix.apply, List.filter_filter]
    apply List.filter_congr
    intro proposal _
    rw [List.all_cons, Bool.and_comm]

theorem runStages_fixes_sublist (fixes : List Fix) (sentence : Sentence)
    (proposals : List Proposal) :
    (runStages (fixes.map Fix.stage) sentence proposals).Sublist proposals := by
  rw [runStages_fixes]
  exact List.filter_sublist

theorem corrected_subset (name : String) (base : Chunker) (fixes : List Fix) (sentence : Sentence) :
    (corrected name base (fixes.map Fix.stage)).propose sentence ⊆ base.propose sentence := by
  intro proposal proposed
  rcases List.mem_append.mp proposed with kept | inverted
  · exact List.filter_sublist.subset ((runStages_fixes_sublist fixes sentence _).subset kept)
  · exact List.filter_sublist.subset inverted

/-- All proposals lie in the sentence and have one of the categories. -/
def KeepsTo (categories : List String) (chunker : Chunker) : Prop :=
  ∀ sentence, ∀ proposal ∈ chunker.propose sentence,
    proposal.Within sentence.size ∧ proposal.category ∈ categories

variable {categories : List String}

theorem union_keepsTo (name : String) (members : List Chunker)
    (each : ∀ member ∈ members, member.KeepsTo categories) :
    (union name members).KeepsTo categories := by
  intro sentence proposal proposed
  obtain ⟨collected, _⟩ := (mem_distinctFrom [] _ proposal).mp proposed
  obtain ⟨member, listed, found⟩ := List.mem_flatMap.mp collected
  exact each member listed sentence proposal found

theorem corrected_keepsTo (name : String) (base : Chunker) (fixes : List Fix)
    (keeps : base.KeepsTo categories) :
    (corrected name base (fixes.map Fix.stage)).KeepsTo categories :=
  fun sentence proposal proposed =>
    keeps sentence proposal (corrected_subset name base fixes sentence proposed)

end Chunker

namespace Configuration

variable (config : Configuration) (files : Files)

-- The dictionary before the entries of the configuration.
def startedDictionary (name : String) (path : Option String) (caseSensitive : Bool) :
    Except Error Dictionary :=
  let empty := (Dictionary.empty name).withCase caseSensitive
  match path with
  | none => .ok empty
  | some path => empty.withFile files path

theorem startedDictionary_hasWords (name : String) (path : Option String) (caseSensitive : Bool)
    (started : Dictionary)
    (success : startedDictionary files name path caseSensitive = .ok started) :
    started.HasWords := by
  have empty : ((Dictionary.empty name).withCase caseSensitive).HasWords :=
    fun _ present => absurd present List.not_mem_nil
  cases path with
  | none =>
    obtain rfl := Except.ok.inj success
    exact empty
  | some path =>
    obtain ⟨read, extended⟩ := (Dictionary.withFile_eq_ok_iff _ started files path).mp success
    have longer := Dictionary.extend_hasWords _ empty files path
    rwa [extended] at longer

theorem buildDictionary_eq_ok_iff (name : String) (entries : List (String × List String))
    (path : Option String) (caseSensitive : Bool) (dictionary : Dictionary) :
    config.buildDictionary files name entries path caseSensitive = .ok dictionary ↔
      ∃ started, startedDictionary files name path caseSensitive = .ok started ∧
        started.addEntries entries = dictionary ∧ dictionary.categories ⊆ config.categories := by
  have finish (started : Dictionary) :
      (do
        (started.addEntries entries).categories.forM (config.checkCategory (.dictionary name))
        return started.addEntries entries) = Except.ok dictionary ↔
        started.addEntries entries = dictionary ∧ dictionary.categories ⊆ config.categories := by
    simp only [check_bind_eq_ok_iff, forM_eq_ok_iff, checkCategory_eq_ok_iff, pure, Except.pure,
      Except.ok.injEq, List.subset_def]
    constructor
    · rintro ⟨declared, rfl⟩
      exact ⟨rfl, fun {_} => declared _⟩
    · rintro ⟨rfl, declared⟩
      exact ⟨fun _ => declared, rfl⟩
  simp only [← finish]
  cases path with
  | none =>
    simp only [startedDictionary, Except.ok.injEq, exists_eq_left']
    rfl
  | some path => exact bind_eq_ok_iff _ _ _

theorem buildDictionary_keepsTo (name : String) (entries : List (String × List String))
    (path : Option String) (caseSensitive : Bool) (dictionary : Dictionary)
    (read : config.buildDictionary files name entries path caseSensitive = .ok dictionary) :
    (Chunker.ofDictionary dictionary).KeepsTo config.categories := by
  intro sentence proposal proposed
  obtain ⟨started, start, rfl, declared⟩ :=
    (config.buildDictionary_eq_ok_iff files name entries path caseSensitive dictionary).mp read
  have startWords := startedDictionary_hasWords files name path caseSensitive started start
  have hasWords := started.addEntries_hasWords startWords entries
  obtain ⟨within, category⟩ := Dictionary.propose_within _ hasWords sentence proposal proposed
  exact ⟨within, declared category⟩

theorem buildChunker_keepsTo (chunker : Chunker)
    (success : config.buildChunker files = .ok (some chunker)) :
    chunker.KeepsTo config.categories := by
  have handed := config.buildChunker_hands_on (P := fun _ part => part.KeepsTo config.categories)
    files
    (fun name entries path caseSensitive dictionary _ =>
      config.buildDictionary_keepsTo files name entries path caseSensitive dictionary)
    (fun name _ below _ each => Chunker.union_keepsTo name below (forall_mem_of_forall₂ each))
    (fun name _ fixes below _ => Chunker.corrected_keepsTo name below fixes) chunker success
  obtain ⟨_, _, keeps⟩ := handed
  exact keeps

end Configuration

end SpanAnnotation
