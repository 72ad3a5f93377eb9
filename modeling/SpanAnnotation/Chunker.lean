import SpanAnnotation.Dictionary
import SpanAnnotation.Document

/-!
Chunkers propose labelled spans for a sentence. They are composed: a union collects the proposals
of its members, and a correction passes those of its base through stages. The stages that come with
the library only drop proposals. Spans that overlap are not their business.
-/

set_option autoImplicit false

namespace SpanAnnotation

structure Chunker where
  name : String
  propose : Sentence → List Proposal

/-- A stage of a correction: whatever makes proposals for a sentence out of others. -/
structure Chunker.Stage where
  name : String
  apply : Sentence → List Proposal → List Proposal

/-- The stages that come with the library. Words are compared in small letters. -/
inductive Fix where
  -- Spans of the categories, or of all when there are none, that stand before one of the words.
  | followedBy (categories words : List String)
  | categoryFilter (keep : List String)
  | minLength (least : Nat)
  deriving DecidableEq, Repr

namespace Fix

def name : Fix → String
  | .followedBy _ _ => "followed-by"
  | .categoryFilter _ => "category-filter"
  | .minLength _ => "min-length"

def keeps (fix : Fix) (sentence : Sentence) (proposal : Proposal) : Bool :=
  match fix with
  | .followedBy categories words =>
      let affected := categories.isEmpty || categories.contains proposal.category
      let next := (sentence.orth? (proposal.last + 1)).map Text.lowercase
      !(affected && (next.map (words.map Text.lowercase).contains).getD false)
  | .categoryFilter keep => keep.contains proposal.category
  | .minLength least => least ≤ proposal.size

def apply (fix : Fix) (sentence : Sentence) (proposals : List Proposal) : List Proposal :=
  proposals.filter (fix.keeps sentence)

def stage (fix : Fix) : Chunker.Stage := ⟨fix.name, fix.apply⟩

end Fix

namespace Chunker

def ofDictionary (dictionary : Dictionary) : Chunker := ⟨dictionary.name, dictionary.propose⟩

-- Keeps the first of equal proposals.
def distinctFrom (seen : List Proposal) : List Proposal → List Proposal
  | [] => []
  | proposal :: rest =>
      if seen.contains proposal then distinctFrom seen rest
      else proposal :: distinctFrom (proposal :: seen) rest

/-- The proposals of the members in order, each once. -/
def union (name : String) (members : List Chunker) : Chunker :=
  ⟨name, fun sentence => distinctFrom [] (members.flatMap fun member => member.propose sentence)⟩

def runStages (stages : List Stage) (sentence : Sentence) (proposals : List Proposal) :
    List Proposal :=
  stages.foldl (fun kept stage => stage.apply sentence kept) proposals

/-- What the stages in turn make of the proposals of the base. Inverted spans skip the stages and
come last, so that the document refuses them. -/
def corrected (name : String) (base : Chunker) (stages : List Stage) : Chunker :=
  ⟨name, fun sentence =>
    let proposals := base.propose sentence
    runStages stages sentence (proposals.filter fun proposal => !proposal.isInverted) ++
      proposals.filter Proposal.isInverted⟩

end Chunker

namespace Document

/-- Adds proposals for one sentence in turn, up to the first that is refused. -/
def addAll (document : Document) (sentence : Nat) (source : String) :
    List Proposal → Document × List Nat × Except Error Unit
  | [] => (document, [], .ok ())
  | proposal :: rest =>
      match document.add sentence proposal source with
      | .error e => (document, [], .error e)
      | .ok (longer, id) =>
          let (final, ids, outcome) := longer.addAll sentence source rest
          (final, id :: ids, outcome)

def chunkFrom (document : Document) (chunker : Chunker) (sentence : Nat) :
    List Sentence → Document × List Nat × Except Error Unit
  | [] => (document, [], .ok ())
  | s :: rest =>
      match document.addAll sentence chunker.name (chunker.propose s) with
      | (longer, ids, .error e) => (longer, ids, .error e)
      | (longer, ids, .ok ()) =>
          let (final, others, outcome) := longer.chunkFrom chunker (sentence + 1) rest
          (final, ids ++ others, outcome)

/-- Adds the proposals for every sentence. When one is refused all that were added go again;
their identities stay used. -/
def applyChunker (document : Document) (chunker : Chunker) : Document × Except Error (List Nat) :=
  match document.chunkFrom chunker 0 document.sentences with
  | (final, ids, .ok ()) => (final, .ok ids)
  -- Nothing is taken back when the run ends in the middle.
  | (partway, _, .error (.panic cause)) => (partway, .error (.panic cause))
  | (partway, ids, .error e) => ((partway.removeAll ids).1, .error e)

end Document

end SpanAnnotation
