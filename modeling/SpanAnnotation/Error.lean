/-!
What can go wrong, by cause, and the texts shown for it.
-/

set_option autoImplicit false

namespace SpanAnnotation

def idText (id : Nat) : String := "#" ++ toString id

/-- The three shapes of input that a feature may take. -/
inductive InputKind where
  | single | pair | clusterMention
  deriving DecidableEq, Repr

def InputKind.label : InputKind → String
  | .single => "Annotation"
  | .pair => "Pair"
  | .clusterMention => "ClusterMention"

/-- A broken rule of the span model, or an access outside a document. -/
inductive DocumentFault where
  | missingSentence (id : Nat) (sentence : Nat)
  | spanOutside (id : Nat) (first last : Nat) (sentence : String) (tokens : Nat)
  | headOutside (head : Nat) (id : Nat)
  | noCategory (id : Nat)
  | danglingRelation (kind : String) (endpoint : Nat)
  | tableSize (sentence : String) (covered expected : Nat)
  | idBeyondNext (id : Nat)
  | repeatedId
  | tokenOutside (token tokens : Nat)
  | noSentence (sentence : Nat)
  deriving DecidableEq, Repr

def DocumentFault.message : DocumentFault → String
  | .missingSentence id sentence =>
      s!"anotação {idText id} referencia sentença inexistente {sentence}"
  | .spanOutside id first last sentence tokens =>
      s!"anotação {idText id} [{first}, {last}] fora da sentença '{sentence}' ({tokens} tokens)"
  | .headOutside head id => s!"cabeça {head} fora do span da anotação {idText id}"
  | .noCategory id => s!"anotação {idText id} sem categoria"
  | .danglingRelation kind endpoint =>
      s!"relação '{kind}' referencia anotação inexistente {idText endpoint}"
  | .tableSize sentence covered expected =>
      s!"tabela de atributos da sentença '{sentence}' cobre {covered} tokens, esperado {expected}"
  | .idBeyondNext id => s!"id de anotação inconsistente {idText id}"
  | .repeatedId => "id de anotação repetido"
  | .tokenOutside token tokens => s!"token {token} fora da sentença ({tokens} tokens)"
  | .noSentence sentence => s!"sentença {sentence} inexistente"

-- The part of a configuration that names a category.
inductive CategoryUse where
  | chunker (name : String)
  | dictionary (name : String)
  | merge
  deriving DecidableEq, Repr

def CategoryUse.message : CategoryUse → String
  | .chunker name => s!"chunker '{name}'"
  | .dictionary name => s!"dicionário '{name}'"
  | .merge => "merge"

/-- A fault of a configuration, or of a call that a correct program does not make. -/
inductive ConfigFault where
  | unknownAttribute (index : Nat)
  | emptyPriority
  | repeatedPriority (category : String)
  | entryWithoutCategory (path : String) (line : Nat)
  | wrongInput (feature : String) (expected received : InputKind)
  | repeatedFeature (feature : String)
  | defaultOutsideValues (feature default : String)
  | noFeatures
  | mixedInputs (feature : String) (input expected : InputKind)
  | noPatterns
  | resolverInput (received : InputKind)
  | noCategories
  | repeatedCategory (category : String)
  | repeatedChunker (name : String)
  | unknownCategory (place : CategoryUse) (category : String)
  | unknownMember (chunker member : String)
  | unknownBase (chunker base : String)
  | cycle (path : List String) (name : String)
  | undeclaredChunker (name : String)
  | unbuiltChunker (name : String)
  | coreferenceInput
  | unknownColumn (column : String)
  | unusableModel (path cause : String)
  deriving DecidableEq, Repr

def ConfigFault.message : ConfigFault → String
  | .unknownAttribute index => s!"índice de atributo {index} não registrado"
  | .emptyPriority => "lista de prioridade da fusão vazia"
  | .repeatedPriority category => s!"categoria '{category}' repetida na lista de prioridade"
  | .entryWithoutCategory path line => s!"{path}:{line}: entrada sem categoria"
  | .wrongInput feature expected received =>
      s!"feature '{feature}' espera input {expected.label}, recebeu {received.label}"
  | .repeatedFeature feature => s!"feature '{feature}' registrada duas vezes"
  | .defaultOutsideValues feature default =>
      s!"feature '{feature}': valor padrão '{default}' fora da enumeração"
  | .noFeatures => "lista de features vazia"
  | .mixedInputs feature input expected =>
      s!"feature '{feature}' tem input {input.label}, o conjunto usa {expected.label}"
  | .noPatterns => "nenhum padrão de menção configurado"
  | .resolverInput received =>
      s!"o resolvedor sequencial exige features ClusterMention, recebeu {received.label}"
  | .noCategories => "nenhuma categoria declarada"
  | .repeatedCategory category => s!"categoria '{category}' declarada duas vezes"
  | .repeatedChunker name => s!"chunker '{name}' declarado duas vezes"
  | .unknownCategory place category => s!"{place.message}: categoria desconhecida '{category}'"
  | .unknownMember chunker member => s!"chunker '{chunker}': membro inexistente '{member}'"
  | .unknownBase chunker base => s!"chunker '{chunker}': chunker base inexistente '{base}'"
  | .cycle path name =>
      "ciclo na composição de chunkers: " ++ " -> ".intercalate path ++ " -> " ++ name
  | .undeclaredChunker name => s!"chunker '{name}' não declarado"
  | .unbuiltChunker name => s!"chunker '{name}' não montado"
  | .coreferenceInput => "features de correferência precisam ser ClusterMention"
  | .unknownColumn column => s!"peso para coluna desconhecida '{column}'"
  | .unusableModel path cause => s!"classificador {path}: {cause}"

/-- Why a run ends in the middle. No caller gets to handle that. -/
inductive Panic where
  -- A sum that passes 64 bits.
  | overflow
  -- An access beyond the end of an array.
  | outOfBounds
  deriving DecidableEq, Repr

def Panic.message : Panic → String
  | .overflow => "attempt to add with overflow"
  | .outOfBounds => "index out of bounds"

/-- Why data does not have the form of the type it is read as. -/
inductive Misfit where
  | shape
  | document (fault : DocumentFault)
  | panic (cause : Panic)
  deriving DecidableEq, Repr

inductive Error where
  | config (fault : ConfigFault)
  | unknownFeature (name : String)
  | invalidDocument (fault : DocumentFault)
  | classifier (reason : String)
  | timeout (elapsedMs limitMs : Nat)
  | io (path : String)
  | toml
  -- Data of the wrong form, or a document that breaks a rule.
  | json (fault : Option DocumentFault)
  | regex (pattern : String)
  | panic (cause : Panic)
  deriving DecidableEq, Repr

def Misfit.toError : Misfit → Error
  | .shape => .json none
  | .document fault => .json (some fault)
  | .panic cause => .panic cause

def Error.message : Error → String
  | .config fault => "Erro de configuração: " ++ fault.message
  | .unknownFeature name => "Feature desconhecida: " ++ name
  | .invalidDocument fault => "Documento inválido: " ++ fault.message
  | .classifier reason => "Erro do classificador: " ++ reason
  | .timeout elapsed limit => s!"Tempo esgotado após {elapsed} ms (limite {limit} ms)"
  | .io path => "Erro de E/S: " ++ path
  | .toml => "Erro de TOML"
  | .json none => "Erro de JSON"
  | .json (some fault) => "Erro de JSON: Documento inválido: " ++ fault.message
  | .regex pattern => "Padrão regex inválido: " ++ pattern
  | .panic cause => cause.message

/-- The document is at fault, and not the configuration. -/
def Error.isDocumentLevel : Error → Bool
  | .invalidDocument _ => true
  | .timeout _ _ => true
  | _ => false

end SpanAnnotation
