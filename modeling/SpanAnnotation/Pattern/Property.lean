import SpanAnnotation.Pattern.Property.Age
import SpanAnnotation.Pattern.Property.Break

/-!
Named sets of characters: the Unicode properties that patterns know, by one name or by a name and
a value, the classes that brackets name, and the shorthands for digits, blanks and words.
-/

set_option autoImplicit false

namespace SpanAnnotation.Pattern

open Text

def asciiRange (first last : Char) : CharSet := .range first.toNat last.toNat

def asciiDigits : CharSet := asciiRange '0' '9'

def asciiLetters : CharSet := .union (asciiRange 'A' 'Z') (asciiRange 'a' 'z')

def asciiWord : CharSet := CharSet.unions [asciiDigits, asciiLetters, .single '_']

def asciiBlank : CharSet := .union (.range 9 13) (.single ' ')

/-- The classes written between `[:` and `:]`. -/
def asciiClass? (name : String) : Option CharSet :=
  match name with
  | "alnum" => some (.union asciiDigits asciiLetters)
  | "alpha" => some asciiLetters
  | "ascii" => some (.range 0 0x7F)
  | "blank" => some (.ofChars ['\t', ' '])
  | "cntrl" => some (.union (.range 0 0x1F) (.range 0x7F 0x7F))
  | "digit" => some asciiDigits
  | "graph" => some (asciiRange '!' '~')
  | "lower" => some (asciiRange 'a' 'z')
  | "print" => some (asciiRange ' ' '~')
  | "punct" => some (CharSet.unions
      [asciiRange '!' '/', asciiRange ':' '@', asciiRange '[' '_', .range 0x60 0x60,
        .range 0x7B 0x7E])
  | "space" => some asciiBlank
  | "upper" => some (asciiRange 'A' 'Z')
  | "word" => some asciiWord
  | "xdigit" => some (CharSet.unions [asciiDigits, asciiRange 'A' 'F', asciiRange 'a' 'f'])
  | _ => none

/-- Letters, marks, decimal digits, connecting punctuation and the two joiners. -/
def wordChars : CharSet :=
  .unions [Trait.alphabetic, Category.marks, Category.decimalDigits, Category.connectors,
    Trait.joiners]

def dropSpelling (name : List Char) : List Char :=
  (name.filter fun c => c.toNat < 0x80 && c != ' ' && c != '_' && c != '-').map Char.toLower

/-- Names are compared without case, spaces, hyphens and underscores, and without the word `is`
in front. -/
def looseName : List Char → String
  | first :: second :: rest =>
      if first.toLower == 'i' && second.toLower == 's' then
        let bare := dropSpelling rest
        -- `isc` abbreviates a property of its own and not the category `c`.
        if bare == ['c'] then "isc" else String.ofList bare
      else String.ofList (dropSpelling (first :: second :: rest))
  | name => String.ofList (dropSpelling name)

/-- A set by one name: a property, else a category, else a script. -/
def named? (name : List Char) : Option CharSet :=
  let key := looseName name
  (Trait.named? key <|> Category.named? key) <|> Script.named? key

/-- A set by the name of a property and the name of its value. -/
def valued? (property value : List Char) : Option CharSet :=
  let key := looseName value
  match looseName property with
  | "generalcategory" => Category.named? key
  | "gc" => Category.named? key
  | "script" => Script.named? key
  | "sc" => Script.named? key
  | "scriptextensions" => Script.extended? key
  | "scx" => Script.extended? key
  | "age" => Age.named? key
  | "graphemeclusterbreak" => lookUp Break.graphemeClasses key
  | "gcb" => lookUp Break.graphemeClasses key
  | "wordbreak" => lookUp Break.wordClasses key
  | "wb" => lookUp Break.wordClasses key
  | "sentencebreak" => lookUp Break.sentenceClasses key
  | "sb" => lookUp Break.sentenceClasses key
  | _ => none

end SpanAnnotation.Pattern
