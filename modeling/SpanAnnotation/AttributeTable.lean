import SpanAnnotation.Error

/-!
The attributes of the tokens of one sentence, column by column. A column is registered under its
name at first use and keeps its index; every column holds one optional value per token. Reading
what was never written is not an error.
-/

set_option autoImplicit false

namespace SpanAnnotation

structure Column where
  name : String
  values : List (Option String)
  deriving DecidableEq, Repr

structure AttributeTable where
  tokenCount : Nat
  columns : List Column
  distinct : (columns.map Column.name).Nodup
  full : ∀ column ∈ columns, column.values.length = tokenCount
  deriving DecidableEq, Repr

-- A column by its index or by its name.
inductive AttributeKey where
  | index (i : Nat)
  | name (s : String)
  deriving DecidableEq, Repr

namespace AttributeTable

def empty (tokenCount : Nat) : AttributeTable := ⟨tokenCount, [], by simp, by simp⟩

def names (table : AttributeTable) : List String := table.columns.map Column.name

def size (table : AttributeTable) : Nat := table.columns.length

def isEmpty (table : AttributeTable) : Bool := table.columns.isEmpty

def nameAt? (table : AttributeTable) (index : Nat) : Option String :=
  (table.columns[index]?).map Column.name

/-- The index of a name, when it is registered. -/
def find? (table : AttributeTable) (name : String) : Option Nat :=
  table.columns.findIdx? fun column => column.name == name

theorem not_mem_names_of_find? (table : AttributeTable) (name : String)
    (missing : table.find? name = none) : name ∉ table.columns.map Column.name := by
  simp only [find?, List.findIdx?_eq_none_iff] at missing
  simp only [List.mem_map, not_exists, not_and]
  intro column present same
  have := missing column present
  simp [same] at this

/-- The index of a name, which becomes a new empty column unless it is registered. -/
def register (table : AttributeTable) (name : String) : AttributeTable × Nat :=
  match found : table.find? name with
  | some index => (table, index)
  | none =>
      ({ tokenCount := table.tokenCount
         columns := table.columns ++ [⟨name, List.replicate table.tokenCount none⟩]
         distinct := by
          have fresh := not_mem_names_of_find? table name found
          simp only [List.map_append, List.map_cons, List.map_nil]
          exact List.nodup_append.mpr
            ⟨table.distinct, by simp, by
              intro a present b single same
              simp at single
              subst single same
              exact fresh present⟩
         full := by
          intro column present
          rcases List.mem_append.mp present with old | new
          · exact table.full column old
          · simp at new
            simp [new] }, table.size)

def resolve? (table : AttributeTable) : AttributeKey → Option Nat
  | .index i => if i < table.size then some i else none
  | .name s => table.find? s

def get? (table : AttributeTable) (token : Nat) (key : AttributeKey) : Option String := do
  let index ← table.resolve? key
  let column ← table.columns[index]?
  (column.values[token]?).join

/-- Changes the values of one column, which keep their number. -/
def modifyValues (table : AttributeTable) (index : Nat)
    (change : List (Option String) → List (Option String))
    (same : ∀ values, (change values).length = values.length) : AttributeTable where
  tokenCount := table.tokenCount
  columns := table.columns.modify index fun column =>
    { column with values := change column.values }
  distinct := by
    have kept : (table.columns.modify index fun column =>
        { column with values := change column.values }).map Column.name =
          table.columns.map Column.name := by
      apply List.ext_getElem?
      intro i
      simp only [List.getElem?_map, List.getElem?_modify]
      split <;> cases table.columns[i]? <;> rfl
    rw [kept]
    exact table.distinct
  full := by
    intro column present
    obtain ⟨i, bound, rfl⟩ := List.mem_iff_getElem.mp present
    simp only [List.length_modify] at bound
    simp only [List.getElem_modify]
    split
    · simpa [same] using table.full _ (List.getElem_mem bound)
    · exact table.full _ (List.getElem_mem bound)

-- Cut to the number of tokens, or filled up with absent values.
def fit (tokenCount : Nat) (values : List (Option String)) : List (Option String) :=
  (values ++ List.replicate tokenCount none).take tokenCount

theorem fit_length (tokenCount : Nat) (values : List (Option String)) :
    (fit tokenCount values).length = tokenCount := by
  simp [fit]

def putColumn (table : AttributeTable) (index : Nat) (values : List (Option String)) :
    AttributeTable :=
  table.modifyValues index (fun old => fit old.length values)
    fun old => fit_length old.length values

/-- Writes one value. A name is registered at need; an index must have been registered. -/
def set (table : AttributeTable) (token : Nat) (key : AttributeKey) (value : String) :
    AttributeTable × Except Error Nat :=
  if table.tokenCount ≤ token then
    (table, .error (.invalidDocument (.tokenOutside token table.tokenCount)))
  else
    let write (target : AttributeTable) (index : Nat) : AttributeTable :=
      target.modifyValues index (fun values => values.set token (some value)) (by simp)
    match key with
    | .name s =>
        let (registered, index) := table.register s
        (write registered index, .ok index)
    | .index i =>
        if i < table.size then (write table i, .ok i)
        else (table, .error (.config (.unknownAttribute i)))

/-- Forgets one value; the column stays registered. -/
def clear (table : AttributeTable) (token : Nat) (key : AttributeKey) : AttributeTable :=
  match table.resolve? key with
  | some index => table.modifyValues index (fun values => values.set token none) (by simp)
  | none => table

/-- Registers names in turn, each taking the next of the given columns; a repeated name
overwrites its column. -/
def fill (table : AttributeTable) : List String → List (List (Option String)) → AttributeTable
  | [], _ => table
  | name :: names, columns =>
      let (registered, index) := table.register name
      match columns with
      | [] => fill registered names []
      | values :: rest => fill (registered.putColumn index values) names rest

theorem register_tokenCount (table : AttributeTable) (name : String) :
    (table.register name).1.tokenCount = table.tokenCount := by
  unfold register
  split <;> rfl

theorem fill_tokenCount (table : AttributeTable) (names : List String)
    (columns : List (List (Option String))) :
    (table.fill names columns).tokenCount = table.tokenCount := by
  induction names generalizing table columns with
  | nil => rfl
  | cons name names ih =>
    cases columns with
    | nil => simp only [fill, ih, register_tokenCount]
    | cons values rest =>
      simp only [fill, ih]
      exact register_tokenCount table name

end AttributeTable

end SpanAnnotation
