import SpanAnnotation.Sentence
import SpanAnnotation.Annotation
import SpanAnnotation.Text.Lowercase

/-!
Dictionaries of phrases. An entry is a phrase of one or more words and a category; every place
where the words of an entry stand in a sentence is proposed. In a file each line holds a phrase,
a tab and a category; blank lines and lines that start with a number sign do not count.
-/

set_option autoImplicit false

namespace SpanAnnotation

-- File contents by path; a path without contents cannot be read.
abbrev Files := String → Option String

structure DictionaryEntry where
  words : List String
  category : String
  deriving DecidableEq, Repr

structure Dictionary where
  name : String
  caseSensitive : Bool
  entries : List DictionaryEntry
  deriving DecidableEq, Repr

namespace Dictionary

def empty (name : String) : Dictionary := ⟨name, false, []⟩

-- Entries that are already there stay as they were stored.
def withCase (dictionary : Dictionary) (caseSensitive : Bool) : Dictionary :=
  { dictionary with caseSensitive := caseSensitive }

def normalize (dictionary : Dictionary) (word : String) : String :=
  if dictionary.caseSensitive then word else Text.lowercase word

/-- Adds a phrase, unless it has no words. -/
def add (dictionary : Dictionary) (phrase category : String) : Dictionary :=
  let words := (Text.words phrase.toList).map fun word => dictionary.normalize (String.ofList word)
  if words.isEmpty then dictionary
  else { dictionary with entries := dictionary.entries ++ [⟨words, category⟩] }

def isSignificant (line : List Char) : Bool :=
  match line with
  | [] => false
  | c :: _ => c != '#'

/-- Adds the entries of numbered lines. The first line without a tab is an error; the entries
before it stay. -/
def addLines (dictionary : Dictionary) (path : String) :
    List (List Char × Nat) → Dictionary × Except Error Unit
  | [] => (dictionary, .ok ())
  | (line, number) :: rest =>
      let trimmed := Text.trim line
      if isSignificant trimmed then
        match Text.cutLast '\t' trimmed with
        | none => (dictionary, .error (.config (.entryWithoutCategory path number)))
        | some (phrase, category) =>
            (dictionary.add (String.ofList phrase) (String.ofList (Text.trim category))).addLines
              path rest
      else dictionary.addLines path rest

/-- Adds the entries of a file's contents. -/
def addText (dictionary : Dictionary) (path contents : String) : Dictionary × Except Error Unit :=
  dictionary.addLines path ((Text.lines contents.toList).zipIdx 1)

/-- Adds the entries of a file and returns how many there were. -/
def extend (dictionary : Dictionary) (files : Files) (path : String) :
    Dictionary × Except Error Nat :=
  match files path with
  | none => (dictionary, .error (.io path))
  | some contents =>
      let (longer, outcome) := dictionary.addText path contents
      (longer, outcome.map fun _ => longer.entries.length - dictionary.entries.length)

/-- The dictionary with the entries of a file, all of them or none. -/
def withFile (dictionary : Dictionary) (files : Files) (path : String) : Except Error Dictionary :=
  let (longer, outcome) := dictionary.extend files path
  outcome.map fun _ => longer

def load (name : String) (files : Files) (path : String) : Except Error Dictionary :=
  (empty name).withFile files path

def categories (dictionary : Dictionary) : List String :=
  dictionary.entries.map DictionaryEntry.category

/-- The entries whose words stand at the front of the given words, as spans from a token on. -/
def matchesAt (dictionary : Dictionary) (token : Nat) (words : List String) : List Proposal :=
  (dictionary.entries.filter fun entry => entry.words.isPrefixOf words).map fun entry =>
    Proposal.plain token (token + entry.words.length - 1) entry.category

def matchesFrom (dictionary : Dictionary) (token : Nat) : List String → List Proposal
  | [] => []
  | word :: rest =>
      dictionary.matchesAt token (word :: rest) ++ dictionary.matchesFrom (token + 1) rest

def propose (dictionary : Dictionary) (sentence : Sentence) : List Proposal :=
  dictionary.matchesFrom 0 (sentence.tokens.map fun token => dictionary.normalize token.orth)

end Dictionary

end SpanAnnotation
