import Mathlib.Data.List.Forall2
import Mathlib.Data.List.TakeWhile
import SpanAnnotation.Proofs.PhraseOccurrences

/-!
Files of a dictionary. A line that counts and holds a tab is an entry with words and a category:
neither its first character nor its last is a blank, so the last tab has something on both sides. The
first line that counts and holds no tab is the one that an error names. Entries that were written to
a file are read from it.
-/

set_option autoImplicit false

namespace SpanAnnotation

namespace Text

variable (cs : List Char)

-- Trimming.

theorem mem_dropWhile (drops : Char → Bool) (c : Char) (present : c ∈ cs)
    (kept : drops c = false) : c ∈ cs.dropWhile drops := by
  rw [← List.takeWhile_append_dropWhile (p := drops) (l := cs), List.mem_append] at present
  rcases present with dropped | there
  · simp [List.mem_takeWhile_imp dropped] at kept
  · exact there

theorem mem_trim (c : Char) (present : c ∈ cs) (inner : isBlank c = false) : c ∈ trim cs := by
  have left : c ∈ trimLeft cs := mem_dropWhile cs isBlank c present inner
  rw [trim, trimRight, List.mem_reverse]
  exact mem_dropWhile _ isBlank c (List.mem_reverse.mpr left) inner

theorem trimRight_last (c : Char) (last : (trimRight cs).getLast? = some c) :
    isBlank c = false := by
  have ends := List.head?_dropWhile_not isBlank cs.reverse
  rw [trimRight, List.getLast?_reverse] at last
  simpa [last] using ends

theorem trim_last (c : Char) (last : (trim cs).getLast? = some c) : isBlank c = false :=
  trimRight_last (trimLeft cs) c last

theorem trimRight_prefix : trimRight cs <+: cs := by
  rw [trimRight, ← List.reverse_suffix, List.reverse_reverse]
  exact List.dropWhile_suffix isBlank

theorem trim_first (c : Char) (first : (trim cs).head? = some c) : isBlank c = false := by
  have starts := List.head?_dropWhile_not isBlank cs
  obtain ⟨more, whole⟩ := trimRight_prefix (trimLeft cs)
  have same : (trimLeft cs).head? = some c := by
    rw [← whole, List.head?_append]
    rw [trim] at first
    simp [first]
  rw [trimLeft] at same
  simpa [same] using starts

theorem dropWhile_eq_self (drops : Char → Bool) (first : ∀ c ∈ cs.head?, drops c = false) :
    cs.dropWhile drops = cs := by
  cases cs with
  | nil => rfl
  | cons c rest => rw [List.dropWhile_cons_of_neg (by simpa using first)]

theorem trim_eq_self (first : ∀ c ∈ cs.head?, isBlank c = false)
    (last : ∀ c ∈ cs.getLast?, isBlank c = false) : trim cs = cs := by
  have left : trimLeft cs = cs := dropWhile_eq_self cs isBlank first
  rw [trim, left, trimRight, dropWhile_eq_self _ isBlank (by simpa using last),
    List.reverse_reverse]

-- Cutting.

theorem exists_piece_of_mem (cut : Char → Bool) (c : Char) (present : c ∈ cs)
    (whole : cut c = false) : ∃ piece ∈ splitAt cut cs, c ∈ piece := by
  induction cs with
  | nil => simp at present
  | cons d rest ih =>
    by_cases cuts : cut d = true
    next =>
      have later : c ∈ rest := by
        rcases List.mem_cons.mp present with rfl | later
        · simp [whole] at cuts
        · exact later
      obtain ⟨piece, listed, there⟩ := ih later
      exact ⟨piece, by simp [splitAt, cuts, listed], there⟩
    next =>
      simp only [splitAt, cuts, Bool.false_eq_true, if_false]
      cases pieces : splitAt cut rest with
      | nil => exact absurd pieces (splitAt_ne_nil cut rest)
      | cons first others =>
        rcases List.mem_cons.mp present with rfl | later
        · exact ⟨c :: first, by simp, by simp⟩
        · obtain ⟨piece, listed, there⟩ := ih later
          rw [pieces] at listed
          rcases List.mem_cons.mp listed with rfl | other
          · exact ⟨d :: piece, by simp, by simp [there]⟩
          · exact ⟨piece, by simp [other], there⟩

theorem words_ne_nil_of_mem (c : Char) (present : c ∈ cs) (inner : isBlank c = false) :
    words cs ≠ [] := by
  obtain ⟨word, listed, there⟩ := exists_piece_of_mem cs isBlank c present inner
  apply List.ne_nil_of_mem (a := word)
  rw [words, List.mem_filter]
  exact ⟨listed, by simpa using List.ne_nil_of_mem there⟩

theorem cutLast_eq_none_iff (mark : Char) : cutLast mark cs = none ↔ mark ∉ cs := by
  induction cs with
  | nil => simp [cutLast]
  | cons c rest ih =>
    rw [cutLast]
    cases later : cutLast mark rest with
    | some parts =>
      have present : mark ∈ rest := by simpa [later] using ih
      simp [present]
    | none =>
      have absent := ih.mp later
      by_cases here : c = mark
      · simp [here]
      · simp [here, absent, Ne.symm here]

theorem cutLast_eq_some_iff (mark : Char) (before after : List Char) :
    cutLast mark cs = some (before, after) ↔ cs = before ++ mark :: after ∧ mark ∉ after := by
  induction cs generalizing before with
  | nil => simp [cutLast]
  | cons c rest ih =>
    rw [cutLast]
    constructor
    · intro found
      cases later : cutLast mark rest with
      | some parts =>
        obtain ⟨rfl, rfl⟩ : c :: parts.1 = before ∧ parts.2 = after := by
          simpa [later] using found
        obtain ⟨whole, absent⟩ := (ih parts.1).mp later
        exact ⟨by rw [whole, List.cons_append], absent⟩
      | none =>
        obtain ⟨rfl, rfl, rfl⟩ : c = mark ∧ [] = before ∧ rest = after := by
          simpa [later] using found
        exact ⟨rfl, (cutLast_eq_none_iff rest c).mp later⟩
    · rintro ⟨whole, absent⟩
      cases before with
      | nil =>
        obtain ⟨rfl, rfl⟩ := List.cons.inj whole
        simp [(cutLast_eq_none_iff rest c).mpr absent]
      | cons d before =>
        obtain ⟨rfl, tail⟩ := List.cons.inj whole
        simp [(ih before).mpr ⟨tail, absent⟩]

theorem splitAt_append_cut (cut : Char → Bool) (mark : Char) (others : List Char)
    (cuts : cut mark = true) :
    splitAt cut (cs ++ mark :: others) = splitAt cut cs ++ splitAt cut others := by
  induction cs with
  | nil => simp [splitAt, cuts]
  | cons c rest ih =>
    rw [List.cons_append, splitAt, splitAt, ih]
    by_cases here : cut c = true
    next => simp [here]
    next =>
      cases pieces : splitAt cut rest with
      | nil => exact absurd pieces (splitAt_ne_nil cut rest)
      | cons first others => simp [here]

theorem forall_mem_intercalate (holds : Char → Prop) (mark : Char) (pieces : List (List Char))
    (between : holds mark) (each : ∀ piece ∈ pieces, ∀ c ∈ piece, holds c) :
    ∀ c ∈ [mark].intercalate pieces, holds c := by
  induction pieces with
  | nil => simp
  | cons piece rest ih =>
    obtain ⟨here, later⟩ := List.forall_mem_cons.mp each
    cases rest with
    | nil => simpa using here
    | cons next rest =>
      rw [List.intercalate_cons_cons]
      exact List.forall_mem_append.mpr
        ⟨List.forall_mem_append.mpr ⟨here, by simpa using between⟩, ih later⟩

end Text

namespace Dictionary

variable (dictionary : Dictionary) (path : String)

-- Lines that count.

/-- The trimmed lines of a file that are not empty and do not start with a number sign. -/
def significantLines (contents : String) : List (List Char) :=
  ((Text.lines contents.toList).map Text.trim).filter isSignificant

/-- The line counts and has no tab. -/
def Offends (line : List Char) : Prop :=
  isSignificant (Text.trim line) = true ∧ '\t' ∉ Text.trim line

instance (line : List Char) : Decidable (Offends line) := inferInstanceAs (Decidable (_ ∧ _))

theorem fine_iff (lines : List (List Char)) :
    (∀ line ∈ lines, ¬ Offends line) ↔
      ∀ line ∈ (lines.map Text.trim).filter isSignificant, '\t' ∈ line := by
  simp [Offends]

theorem isReadable_iff (line : List Char) : isReadable line = true ↔ ¬ Offends line := by
  rw [isReadable, Bool.or_eq_true, Option.isSome_iff_ne_none, ne_eq, Text.cutLast_eq_none_iff,
    Offends, not_and, Bool.not_eq_true', ← Bool.not_eq_true, imp_iff_not_or]

theorem addLines_cons_of_fine (line : List Char) (number : Nat) (fine : ¬ Offends line) :
    ∃ grown : Dictionary, ∀ rest,
      dictionary.addLines path ((line, number) :: rest) = grown.addLines path rest := by
  by_cases significant : isSignificant (Text.trim line) = true
  next =>
    cases cut : Text.cutLast '\t' (Text.trim line) with
    | none => exact absurd ⟨significant, (Text.cutLast_eq_none_iff _ _).mp cut⟩ fine
    | some parts => exact ⟨_, fun rest => by simp only [addLines, significant, cut, if_true]; rfl⟩
  next => exact ⟨dictionary, fun rest => by simp [addLines, significant]⟩

theorem addLines_succeeds (lines : List (List Char)) (first : Nat)
    (fine : ∀ line ∈ lines, ¬ Offends line) :
    (dictionary.addLines path (lines.zipIdx first)).2 = .ok () := by
  induction lines generalizing dictionary first with
  | nil => rfl
  | cons line rest ih =>
    obtain ⟨here, later⟩ := List.forall_mem_cons.mp fine
    obtain ⟨grown, step⟩ := dictionary.addLines_cons_of_fine path line first here
    rw [List.zipIdx_cons, step]
    exact ih grown (first + 1) later

theorem addLines_fails (before : List (List Char)) (line : List Char) (after : List (List Char))
    (first : Nat) (fine : ∀ earlier ∈ before, ¬ Offends earlier) (offends : Offends line) :
    (dictionary.addLines path ((before ++ line :: after).zipIdx first)).2 =
      .error (.config (.entryWithoutCategory path (first + before.length))) := by
  induction before generalizing dictionary first with
  | nil =>
    have uncut := (Text.cutLast_eq_none_iff _ _).mpr offends.2
    simp [addLines, offends.1, uncut]
  | cons earlier rest ih =>
    obtain ⟨here, later⟩ := List.forall_mem_cons.mp fine
    obtain ⟨grown, step⟩ := dictionary.addLines_cons_of_fine path earlier first here
    rw [List.cons_append, List.zipIdx_cons, step, ih grown (first + 1) later, List.length_cons,
      Nat.add_right_comm, Nat.add_assoc]

-- The entry of a line.

/-- The entry has the words before the last tab and the category after it. -/
structure Holds (caseSensitive : Bool) (line : List Char) (entry : DictionaryEntry) : Prop where
  parts : ∃ before after, line = before ++ '\t' :: after ∧ '\t' ∉ after ∧
    entry.words = phraseWords caseSensitive (String.ofList before) ∧
    entry.category = String.ofList (Text.trim after)
  worded : entry.words ≠ []
  named : entry.category ≠ ""

-- A trimmed text has something that is not blank on both sides of a blank.
theorem solid_of_trimmed (line before after : List Char) (mark : Char)
    (white : Text.isBlank mark = true) (cut : Text.trim line = before ++ mark :: after) :
    (∃ c ∈ before, Text.isBlank c = false) ∧ ∃ c ∈ after, Text.isBlank c = false := by
  constructor
  next =>
    cases before with
    | nil =>
      have inner := Text.trim_first line mark (by rw [cut]; rfl)
      simp [white] at inner
    | cons c rest => exact ⟨c, by simp, Text.trim_first line c (by rw [cut]; rfl)⟩
  next =>
    cases last : after.getLast? with
    | none =>
      obtain rfl := List.getLast?_eq_none_iff.mp last
      have inner := Text.trim_last line mark (by rw [cut]; simp)
      simp [white] at inner
    | some c =>
      have ends : (Text.trim line).getLast? = some c := by
        rw [cut, List.getLast?_append, List.getLast?_cons, last]
        rfl
      exact ⟨c, List.mem_of_getLast? last, Text.trim_last line c ends⟩

theorem exists_holds (caseSensitive : Bool) (line : List Char)
    (significant : isSignificant (Text.trim line) = true) (tab : '\t' ∈ Text.trim line) :
    ∃ phrase category entry, phraseOfLine line = some (phrase, category) ∧
      entryOf caseSensitive phrase category = some entry ∧
      Holds caseSensitive (Text.trim line) entry := by
  obtain ⟨⟨before, after⟩, cut⟩ : ∃ parts, Text.cutLast '\t' (Text.trim line) = some parts := by
    rw [← Option.ne_none_iff_exists']
    exact fun uncut => (Text.cutLast_eq_none_iff _ _).mp uncut tab
  obtain ⟨whole, absent⟩ := (Text.cutLast_eq_some_iff _ _ _ _).mp cut
  obtain ⟨⟨c, there, inner⟩, d, later, solid⟩ :=
    solid_of_trimmed line before after '\t' (by decide) whole
  have worded : phraseWords caseSensitive (String.ofList before) ≠ [] := by
    rw [phraseWords, String.toList_ofList, ne_eq, List.map_eq_nil_iff]
    exact Text.words_ne_nil_of_mem before c there inner
  have named : String.ofList (Text.trim after) ≠ "" := by
    have present := List.ne_nil_of_mem (Text.mem_trim after d later solid)
    simpa using present
  refine ⟨String.ofList before, String.ofList (Text.trim after), ⟨_, _⟩, ?_, ?_,
    ⟨before, after, whole, absent, rfl, rfl⟩, worded, named⟩
  next => simp [phraseOfLine, significant, cut]
  next => exact if_neg (by simpa using worded)

def entriesOf (caseSensitive : Bool) (lines : List (List Char)) : List DictionaryEntry :=
  (lines.filterMap phraseOfLine).filterMap fun entry => entryOf caseSensitive entry.1 entry.2

theorem entriesOf_holds (caseSensitive : Bool) (lines : List (List Char))
    (fine : ∀ line ∈ lines, ¬ Offends line) :
    List.Forall₂ (Holds caseSensitive) ((lines.map Text.trim).filter isSignificant)
      (entriesOf caseSensitive lines) := by
  induction lines with
  | nil => exact .nil
  | cons line rest ih =>
    obtain ⟨here, later⟩ := List.forall_mem_cons.mp fine
    rw [entriesOf, List.map_cons, List.filterMap_cons]
    by_cases significant : isSignificant (Text.trim line) = true
    next =>
      have tab : '\t' ∈ Text.trim line := by
        by_contra absent
        exact here ⟨significant, absent⟩
      obtain ⟨phrase, category, entry, read, made, holds⟩ :=
        exists_holds caseSensitive line significant tab
      rw [List.filter_cons_of_pos significant, read]
      simp only [List.filterMap_cons, made]
      exact .cons holds (ih later)
    next =>
      have skipped : phraseOfLine line = none := by simp [phraseOfLine, significant]
      rw [List.filter_cons_of_neg significant, skipped]
      exact ih later

def append (added : List DictionaryEntry) : Dictionary :=
  { dictionary with entries := dictionary.entries ++ added }

variable (files : Files) (contents : String)

/-- The entries of the lines before the first offence are kept. -/
theorem extend_keeps (stored : files path = some contents) (before after : List (List Char))
    (split : Text.lines contents.toList = before ++ after)
    (fine : ∀ line ∈ before, ¬ Offends line) (ends : ∀ line ∈ after.head?, Offends line) :
    (dictionary.extend files path).1 =
      dictionary.append (entriesOf dictionary.caseSensitive before) := by
  have readable : ∀ line ∈ before, isReadable line = true := fun line present =>
    (isReadable_iff line).mpr (fine line present)
  have stops : after.takeWhile isReadable = [] := by
    rw [List.takeWhile_eq_nil_iff]
    intro some readable
    exact (isReadable_iff _).mp readable (ends _ (by rw [List.head?_eq_getElem?]; simp))
  rw [dictionary.extend_fst files path contents stored, addPhrases_eq, phrasesRead, split,
    List.takeWhile_append_of_pos readable, stops, List.append_nil]
  rfl

theorem extend_of_fine (stored : files path = some contents)
    (fine : ∀ line ∈ Text.lines contents.toList, ¬ Offends line) :
    let added := entriesOf dictionary.caseSensitive (Text.lines contents.toList)
    dictionary.extend files path = (dictionary.append added, .ok added.length) := by
  intro added
  have success := dictionary.addLines_succeeds path _ 1 fine
  have filled : (dictionary.extend files path).1 = dictionary.append added :=
    dictionary.extend_keeps path files contents stored _ [] (by simp) fine (by simp)
  have grown : (dictionary.append added).entries.length - dictionary.entries.length =
      added.length := by
    rw [append, List.length_append, Nat.add_sub_cancel_left]
  simp only [extend, stored, addText, success] at filled ⊢
  rw [filled, ← grown]
  rfl

theorem extend_of_offence (stored : files path = some contents) (before : List (List Char))
    (line : List Char) (after : List (List Char))
    (split : Text.lines contents.toList = before ++ line :: after)
    (fine : ∀ earlier ∈ before, ¬ Offends earlier) (offends : Offends line) :
    dictionary.extend files path =
      (dictionary.append (entriesOf dictionary.caseSensitive before),
        .error (.config (.entryWithoutCategory path (before.length + 1)))) := by
  have failed := dictionary.addLines_fails path before line after 1 fine offends
  have filled := dictionary.extend_keeps path files contents stored before (line :: after) split
    fine (by simpa using offends)
  rw [Nat.add_comm, ← split] at failed
  simp only [extend, stored, addText, failed] at filled ⊢
  rw [filled]
  rfl

/-- What comes of reading a file with these contents. -/
structure ReadsLines (contents : String) (longer : Dictionary) (outcome : Except Error Nat) :
    Prop where
  succeeds : (∃ read, outcome = .ok read) ↔ ∀ line ∈ significantLines contents, '\t' ∈ line
  entries : ∀ read, outcome = .ok read →
    read = (significantLines contents).length ∧
      ∃ added, longer = dictionary.append added ∧
        List.Forall₂ (Holds dictionary.caseSensitive) (significantLines contents) added
  -- What stands before the line is kept.
  offence : ∀ e, outcome = .error e → ∃ before line after,
    Text.lines contents.toList = before ++ line :: after ∧
      (∀ earlier ∈ before, ¬ Offends earlier) ∧ Offends line ∧
      e = .config (.entryWithoutCategory path (before.length + 1)) ∧
      ∃ added, longer = dictionary.append added ∧
        List.Forall₂ (Holds dictionary.caseSensitive)
          ((before.map Text.trim).filter isSignificant) added

theorem extend_readsLines (stored : files path = some contents) :
    dictionary.ReadsLines path contents (dictionary.extend files path).1
      (dictionary.extend files path).2 := by
  cases offending : (Text.lines contents.toList).find? fun line => decide (Offends line) with
  | none =>
    have fine : ∀ line ∈ Text.lines contents.toList, ¬ Offends line := by
      simpa using offending
    have held := entriesOf_holds dictionary.caseSensitive _ fine
    rw [dictionary.extend_of_fine path files contents stored fine]
    refine ⟨⟨fun _ => (fine_iff _).mp fine, fun _ => ⟨_, rfl⟩⟩, ?_, by simp⟩
    rintro _ ⟨⟩
    exact ⟨held.length_eq.symm, _, rfl, held⟩
  | some line =>
    obtain ⟨offends, before, after, split, fine⟩ := List.find?_eq_some_iff_append.mp offending
    simp only [decide_eq_true_eq] at offends
    simp only [Bool.not_eq_true', decide_eq_false_iff_not] at fine
    have present : line ∈ Text.lines contents.toList := by simp [split]
    have known : ¬ ∀ line ∈ significantLines contents, '\t' ∈ line :=
      fun tabs => (fine_iff _).mpr tabs line present offends
    rw [dictionary.extend_of_offence path files contents stored before line after split fine
      offends]
    refine ⟨by simp [known], by simp, ?_⟩
    rintro _ ⟨⟩
    exact ⟨before, line, after, split, fine, offends, rfl, _, rfl,
      entriesOf_holds dictionary.caseSensitive before fine⟩

end Dictionary

-- Entries that are written.

namespace DictionaryEntry

def line (entry : DictionaryEntry) : String :=
  " ".intercalate entry.words ++ "\t" ++ entry.category

/-- The entry can be told from its line. -/
structure Writable (entry : DictionaryEntry) : Prop where
  worded : entry.words ≠ []
  words : ∀ word ∈ entry.words, Text.IsWord word.toList
  counts : ∀ word ∈ entry.words.head?, word.toList.head? ≠ some '#'
  named : entry.category ≠ ""
  trimmed : Text.trim entry.category.toList = entry.category.toList
  oneLine : '\t' ∉ entry.category.toList ∧ '\n' ∉ entry.category.toList

def normalised (caseSensitive : Bool) (entry : DictionaryEntry) : DictionaryEntry :=
  ⟨entry.words.map (spelled caseSensitive), entry.category⟩

theorem line_toList (entry : DictionaryEntry) : entry.line.toList =
    [' '].intercalate (entry.words.map String.toList) ++ '\t' :: entry.category.toList := by
  simp [line]

namespace Writable

variable {entry : DictionaryEntry} (writable : entry.Writable)

include writable

theorem line_starts : ∃ c rest, entry.line.toList = c :: rest ∧ Text.isBlank c = false ∧
    c ≠ '#' := by
  cases spoken : entry.words with
  | nil => exact absurd spoken writable.worded
  | cons word words =>
    have isWord := writable.words word (by simp [spoken])
    have counts := writable.counts word (by simp [spoken])
    cases letters : word.toList with
    | nil => exact absurd letters isWord.filled
    | cons c rest =>
      have opens : ∃ more, [' '].intercalate ((word :: words).map String.toList) = c :: more := by
        cases words with
        | nil => exact ⟨rest, by simp [letters]⟩
        | cons next words =>
          exact ⟨_, by rw [List.map_cons, List.map_cons, List.intercalate_cons_cons, letters]; rfl⟩
      obtain ⟨more, whole⟩ := opens
      refine ⟨c, more ++ '\t' :: entry.category.toList, ?_, isWord.solid c (by simp [letters]),
        by simpa [letters] using counts⟩
      rw [line_toList, spoken, whole, List.cons_append]

theorem line_ends : ∀ c ∈ entry.line.toList.getLast?, Text.isBlank c = false := by
  intro c last
  have named : entry.category.toList ≠ [] := by simpa using writable.named
  refine Text.trim_last entry.category.toList c ?_
  rw [writable.trimmed]
  rw [line_toList, List.getLast?_append, List.getLast?_cons] at last
  cases ends : entry.category.toList.getLast? with
  | none => exact absurd (List.getLast?_eq_none_iff.mp ends) named
  | some d => simpa [ends] using last

theorem line_trimmed : Text.trim entry.line.toList = entry.line.toList := by
  obtain ⟨c, rest, opens, inner, _⟩ := writable.line_starts
  refine Text.trim_eq_self _ ?_ writable.line_ends
  simpa [opens] using inner

theorem phraseOfLine_line : Dictionary.phraseOfLine entry.line.toList =
    some (" ".intercalate entry.words, entry.category) := by
  obtain ⟨c, rest, opens, _, counts⟩ := writable.line_starts
  have significant : Dictionary.isSignificant entry.line.toList = true := by
    simpa [opens, Dictionary.isSignificant] using counts
  have cut := (Text.cutLast_eq_some_iff _ '\t' _ _).mpr
    ⟨entry.line_toList, writable.oneLine.1⟩
  have joined : String.ofList ([' '].intercalate (entry.words.map String.toList)) =
      " ".intercalate entry.words := by
    rw [← String.toList_inj, String.toList_ofList, String.toList_intercalate]
    rfl
  simp only [Dictionary.phraseOfLine, writable.line_trimmed, significant, cut, writable.trimmed,
    joined, if_true, Option.map_some, String.ofList_toList]

theorem not_offends : ¬ Dictionary.Offends entry.line.toList := by
  rw [Dictionary.Offends, writable.line_trimmed, line_toList]
  simp

theorem entryOf_line (caseSensitive : Bool) :
    Dictionary.entryOf caseSensitive (" ".intercalate entry.words) entry.category =
      some (entry.normalised caseSensitive) := by
  have spoken : phraseWords caseSensitive (" ".intercalate entry.words) =
      entry.words.map (spelled caseSensitive) := by
    rw [phraseWords_eq, wordsOf_intercalate _ writable.words]
  have filled : entry.words.map (spelled caseSensitive) ≠ [] := by
    simpa using writable.worded
  rw [Dictionary.entryOf, spoken]
  exact if_neg (by simpa using filled)

theorem line_unbroken : ∀ c ∈ entry.line.toList, (c == '\n') = false := by
  have spoken := Text.forall_mem_intercalate (fun c => (c == '\n') = false) ' '
    (entry.words.map String.toList) (by decide) ?_
  next =>
    rw [line_toList]
    refine List.forall_mem_append.mpr ⟨spoken, List.forall_mem_cons.mpr ⟨by decide, ?_⟩⟩
    intro c present
    rw [beq_eq_false_iff_ne]
    rintro rfl
    exact writable.oneLine.2 present
  next =>
    refine List.forall_mem_map.mpr fun word listed c present => ?_
    have inner := (writable.words word listed).solid c present
    rw [beq_eq_false_iff_ne]
    rintro rfl
    simp [Text.isBlank] at inner

end Writable

end DictionaryEntry

namespace Dictionary

/-- The entries one a line, with or without a line break at the end. -/
def written (entries : List DictionaryEntry) (ending : String) : String :=
  "\n".intercalate (entries.map DictionaryEntry.line) ++ ending

theorem lines_written (entries : List DictionaryEntry) (ending : String)
    (each : ∀ entry ∈ entries, entry.Writable) (ends : ending ∈ ["", "\n"]) :
    ∃ extra, Text.lines (written entries ending).toList =
        (entries.map fun entry => entry.line.toList) ++ extra ∧ ∀ piece ∈ extra, piece = [] := by
  have whole : ∀ piece ∈ entries.map (fun entry => entry.line.toList), ∀ c ∈ piece,
      (c == '\n') = false :=
    List.forall_mem_map.mpr fun entry listed => (each entry listed).line_unbroken
  have joined : ("\n".intercalate (entries.map DictionaryEntry.line)).toList =
      ['\n'].intercalate (entries.map fun entry => entry.line.toList) := by
    simp [String.toList_intercalate, Function.comp_def]
  have body : ∃ extra, Text.lines (['\n'].intercalate
        (entries.map fun entry => entry.line.toList)) =
        (entries.map fun entry => entry.line.toList) ++ extra ∧ ∀ piece ∈ extra, piece = [] := by
    by_cases none : entries = []
    next => exact ⟨[[]], by simp [none, Text.lines, Text.splitAt], by simp⟩
    next =>
      refine ⟨[], ?_, by simp⟩
      rw [List.append_nil]
      exact Text.splitAt_intercalate _ '\n' (by decide) _ (by simpa using none) whole
  obtain ⟨extra, cut, empty⟩ := body
  rw [written, String.toList_append, joined]
  rcases List.mem_cons.mp ends with rfl | broken
  · exact ⟨extra, by simpa using cut, empty⟩
  · obtain rfl := List.mem_singleton.mp broken
    refine ⟨extra ++ [[]], ?_, List.forall_mem_append.mpr ⟨empty, by simp⟩⟩
    have last := Text.splitAt_append_cut (['\n'].intercalate
      (entries.map fun entry => entry.line.toList)) (· == '\n') '\n' [] (by decide)
    rw [← List.append_assoc, ← cut]
    exact last

theorem entriesOf_written (caseSensitive : Bool) (entries : List DictionaryEntry)
    (each : ∀ entry ∈ entries, entry.Writable) (extra : List (List Char))
    (empty : ∀ piece ∈ extra, piece = []) :
    entriesOf caseSensitive ((entries.map fun entry => entry.line.toList) ++ extra) =
      entries.map (DictionaryEntry.normalised caseSensitive) := by
  have skipped : extra.filterMap phraseOfLine = [] := by
    refine List.filterMap_eq_nil_iff.mpr fun piece listed => ?_
    rw [empty piece listed]
    rfl
  rw [entriesOf, List.filterMap_append, skipped, List.append_nil]
  induction entries with
  | nil => rfl
  | cons entry rest ih =>
    obtain ⟨here, later⟩ := List.forall_mem_cons.mp each
    rw [List.map_cons, List.filterMap_cons, here.phraseOfLine_line]
    simp only [List.filterMap_cons, here.entryOf_line, ih later, List.map_cons]

variable (dictionary : Dictionary) (files : Files) (path : String)

theorem extend_written (entries : List DictionaryEntry) (ending : String)
    (each : ∀ entry ∈ entries, entry.Writable) (ends : ending ∈ ["", "\n"])
    (stored : files path = some (written entries ending)) :
    dictionary.extend files path =
      (dictionary.append (entries.map (DictionaryEntry.normalised dictionary.caseSensitive)),
        .ok entries.length) := by
  obtain ⟨extra, lines, empty⟩ := lines_written entries ending each ends
  have fine : ∀ line ∈ Text.lines (written entries ending).toList, ¬ Offends line := by
    rw [lines]
    refine List.forall_mem_append.mpr ⟨?_, fun piece listed => ?_⟩
    · exact List.forall_mem_map.mpr fun entry listed => (each entry listed).not_offends
    · rw [empty piece listed]
      decide
  rw [dictionary.extend_of_fine path files _ stored fine, lines,
    entriesOf_written _ entries each extra empty, List.length_map]

/-- A file is read line by line, and the entries that were written to it come out of it. -/
theorem files_hold_entries :
    (∀ contents, files path = some contents →
      dictionary.ReadsLines path contents (dictionary.extend files path).1
        (dictionary.extend files path).2) ∧
    ∀ entries ending, (∀ entry ∈ entries, DictionaryEntry.Writable entry) →
      ending ∈ ["", "\n"] → files path = some (written entries ending) →
        dictionary.extend files path =
          (dictionary.append (entries.map (DictionaryEntry.normalised dictionary.caseSensitive)),
            .ok entries.length) :=
  ⟨dictionary.extend_readsLines path files,
    dictionary.extend_written files path⟩

def janKowalski : DictionaryEntry := ⟨["Jan", "Kowalski"], "PERSON"⟩

theorem files_hold_janKowalski :
    (empty "names").extend (fun _ => some "Jan Kowalski\tPERSON\n") "names.tsv" =
      (⟨"names", false, [⟨["jan", "kowalski"], "PERSON"⟩]⟩, .ok 1) := by
  have writable : janKowalski.Writable :=
    ⟨by decide, by decide, by decide, by decide, by decide, by decide⟩
  have read := (files_hold_entries (empty "names") (fun _ => some (written [janKowalski] "\n"))
    "names.tsv").2 [janKowalski] "\n" (by simpa using writable) (by simp) rfl
  have file : written [janKowalski] "\n" = "Jan Kowalski\tPERSON\n" := by decide +kernel
  have filled : (empty "names").append ([janKowalski].map (DictionaryEntry.normalised false)) =
      ⟨"names", false, [⟨["jan", "kowalski"], "PERSON"⟩]⟩ := by decide +kernel
  rw [file] at read
  rw [← filled]
  exact read

end Dictionary

end SpanAnnotation
