import SpanAnnotation.AttributeTable
import SpanAnnotation.Token

/-!
Sentences: tokens in order, numbered by their position, and the table of their attributes. The
written form of every token is also its attribute `orth`, unless the sentence came with such a
column or with a table of another size.
-/

set_option autoImplicit false

namespace SpanAnnotation

structure Sentence where
  id : String
  tokens : List Token
  attributes : AttributeTable
  deriving DecidableEq, Repr

namespace Sentence

def orthName : String := "orth"

def renumber (tokens : List Token) : List Token :=
  tokens.mapIdx fun index token => { token with index := index }

def size (sentence : Sentence) : Nat := sentence.tokens.length

def fillOrth (sentence : Sentence) : Sentence :=
  let (table, index) := sentence.attributes.register orthName
  { sentence with
    attributes := table.putColumn index (sentence.tokens.map fun token => some token.orth) }

def ofTokens (id : String) (tokens : List Token) : Sentence :=
  fillOrth ⟨id, renumber tokens, AttributeTable.empty tokens.length⟩

def ofOrths (id : String) (orths : List String) : Sentence :=
  ofTokens id (orths.mapIdx fun index orth => Token.ofOrth orth index)

/-- A sentence that comes with a table of its own. -/
def withTable (id : String) (tokens : List Token) (table : AttributeTable) : Sentence :=
  let sentence : Sentence := ⟨id, renumber tokens, table⟩
  if (table.find? orthName).isNone && table.tokenCount == tokens.length then sentence.fillOrth
  else sentence

def orth? (sentence : Sentence) (token : Nat) : Option String :=
  (sentence.tokens[token]?).map Token.orth

def attribute? (sentence : Sentence) (token : Nat) (name : String) : Option String :=
  sentence.attributes.get? token (.name name)

end Sentence

end SpanAnnotation
