import SpanAnnotation.AttributeTable

/-!
Attribute tables as they are kept: the names in the order of their registration, a column for each of
them, and a map from names to places. Only the operations keep the three in step; an access to a
column that is not there would end the run.
-/

set_option autoImplicit false

namespace SpanAnnotation

structure AttributeStore where
  names : List String
  tokenCount : Nat
  columns : List (List (Option String))
  lookup : List (String × Nat)
  deriving DecidableEq, Repr

namespace AttributeStore

def empty (tokenCount : Nat) : AttributeStore := ⟨[], tokenCount, [], []⟩

def size (store : AttributeStore) : Nat := store.names.length

def isEmpty (store : AttributeStore) : Bool := store.names.isEmpty

def nameAt? (store : AttributeStore) (index : Nat) : Option String := store.names[index]?

/-- The index of a name, when it is registered. -/
def find? (store : AttributeStore) (name : String) : Option Nat := store.lookup.lookup name

/-- The index of a name, which becomes a new empty column unless it is registered. -/
def register (store : AttributeStore) (name : String) : AttributeStore × Nat :=
  match store.find? name with
  | some index => (store, index)
  | none =>
      ({ store with
         names := store.names ++ [name]
         columns := store.columns ++ [List.replicate store.tokenCount none]
         lookup := (name, store.names.length) :: store.lookup }, store.names.length)

def resolve? (store : AttributeStore) : AttributeKey → Option Nat
  | .index i => if i < store.names.length then some i else none
  | .name s => store.find? s

def column (store : AttributeStore) (index : Nat) : Except Panic (List (Option String)) :=
  match store.columns[index]? with
  | some values => .ok values
  | none => .error .outOfBounds

def putColumn (store : AttributeStore) (index : Nat) (values : List (Option String)) :
    AttributeStore :=
  { store with columns := store.columns.set index values }

/-- Reads one value; a key without a column and a token outside have none. -/
def get (store : AttributeStore) (token : Nat) (key : AttributeKey) :
    Except Panic (Option String) :=
  match store.resolve? key with
  | none => .ok none
  | some index => do return ((← store.column index)[token]?).join

def writeCell (store : AttributeStore) (index token : Nat) (value : String) :
    Except Panic AttributeStore := do
  let values ← store.column index
  if token < values.length then return store.putColumn index (values.set token (some value))
  else .error .outOfBounds

/-- Writes one value. A name is registered at need; an index must have been registered. -/
def set (store : AttributeStore) (token : Nat) (key : AttributeKey) (value : String) :
    AttributeStore × Except Error Nat :=
  if store.tokenCount ≤ token then
    (store, .error (.invalidDocument (.tokenOutside token store.tokenCount)))
  else
    let write (target : AttributeStore) (index : Nat) : AttributeStore × Except Error Nat :=
      match target.writeCell index token value with
      | .ok written => (written, .ok index)
      | .error cause => (target, .error (.panic cause))
    match key with
    | .name s =>
        let (registered, index) := store.register s
        write registered index
    | .index i =>
        if i < store.names.length then write store i
        else (store, .error (.config (.unknownAttribute i)))

/-- Forgets one value; the column stays registered. -/
def clear (store : AttributeStore) (token : Nat) (key : AttributeKey) :
    Except Panic AttributeStore :=
  match store.resolve? key with
  | none => .ok store
  | some index => do return store.putColumn index ((← store.column index).set token none)

/-- Registers names in turn, each taking the next of the given columns; a repeated name
overwrites its column. -/
def fill (store : AttributeStore) :
    List String → List (List (Option String)) → Except Panic AttributeStore
  | [], _ => .ok store
  | name :: names, columns => do
      let (registered, index) := store.register name
      match columns with
      | [] => registered.fill names []
      | values :: rest =>
          let _ ← registered.column index
          (registered.putColumn index (AttributeTable.fit store.tokenCount values)).fill names rest

end AttributeStore

end SpanAnnotation
