import SpanAnnotation.Wire.Value

/-!
Tables while a TOML text is read. A table that was only named on the way to another one may still
be opened by a header, and one that came from dotted keys may still grow by dotted keys; every
other table is closed against the other way of writing it.
-/

set_option autoImplicit false

namespace SpanAnnotation.Wire.Toml

inductive Item where
  | value (v : Value)
  -- `implied`: no header opened it. `dotted`: it came from dotted keys.
  | table (implied dotted : Bool) (entries : List (String × Item))
  -- An array of tables, to which each header of that form adds one.
  | tables (elements : List (List (String × Item)))

abbrev Entries := List (String × Item)

mutual

def Item.toValue : Item → Value
  | .value v => v
  | .table _ _ entries => .object (entryValues entries)
  | .tables elements => .array (elementValues elements)

def entryValues : List (String × Item) → List (String × Value)
  | [] => []
  | (key, item) :: rest => (key, item.toValue) :: entryValues rest

def elementValues : List (List (String × Item)) → List Value
  | [] => []
  | entries :: rest => .object (entryValues entries) :: elementValues rest

end

namespace Entries

def find? (entries : Entries) (key : String) : Option Item := entries.lookup key

def replace (key : String) (item : Item) : Entries → Entries
  | [] => []
  | (k, old) :: rest =>
      if k == key then (k, item) :: rest else (k, old) :: Entries.replace key item rest

def append (entries : Entries) (key : String) (item : Item) : Entries := entries ++ [(key, item)]

/-- Changes the table at the end of a path and creates the tables that are missing on the way. The
change is told whether the table came from dotted keys. -/
def alter (dotted : Bool) (change : Bool → Entries → Option Entries) :
    List String → Bool → Entries → Option Entries
  | [], fromDotted, entries => change fromDotted entries
  | key :: path, _, entries =>
      match entries.find? key with
      | none => do
          let inner ← alter dotted change path dotted []
          return entries.append key (.table true dotted inner)
      | some (.value _) => none
      | some (.table implied fromDotted inner) =>
          if dotted && !implied then none
          else do
            let changed ← alter dotted change path fromDotted inner
            return entries.replace key (.table implied fromDotted changed)
      | some (.tables elements) =>
          match elements.getLast? with
          | none => none
          | some last => do
              let changed ← alter dotted change path false last
              return entries.replace key (.tables (elements.dropLast ++ [changed]))

/-- Adds a value under a dotted key, given in parts. -/
def put? (entries : Entries) (path : List String) (key : String) (v : Value) : Option Entries :=
  alter true
    (fun fromDotted target =>
      if fromDotted == path.isEmpty || (target.find? key).isSome then none
      else some (target.append key (.value v)))
    path false entries

/-- Opens the table of a header. -/
def openTable? (entries : Entries) (path : List String) (key : String) : Option Entries :=
  alter false
    (fun _ parent =>
      match parent.find? key with
      | none => some (parent.append key (.table false false []))
      | some (.table true false inner) => some (parent.replace key (.table false false inner))
      | some _ => none)
    path false entries

/-- Adds a table to the array of tables of a header. -/
def openElement? (entries : Entries) (path : List String) (key : String) : Option Entries :=
  alter false
    (fun _ parent =>
      match parent.find? key with
      | none => some (parent.append key (.tables [[]]))
      | some (.tables elements) => some (parent.replace key (.tables (elements ++ [[]])))
      | some _ => none)
    path false entries

/-- Adds a value below the table that was opened last. -/
def putBelow? (entries : Entries) (header path : List String) (key : String) (v : Value) :
    Option Entries :=
  alter false (fun _ current => Entries.put? current path key v) header false entries

end Entries

end SpanAnnotation.Wire.Toml
