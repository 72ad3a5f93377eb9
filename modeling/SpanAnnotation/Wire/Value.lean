import SpanAnnotation.Error

/-!
Structured data as it travels: the common form of JSON and TOML values, and the rules by which
typed data is read from it. Whole numbers and doubles stay apart. Members of an object keep
their order and their repetitions; a record refuses a field given twice, a map keeps the last.
A record may also come as an array, with its fields in the order in which they are declared.
-/

set_option autoImplicit false

namespace SpanAnnotation.Wire

inductive Value where
  | null
  | bool (b : Bool)
  | int (n : Int)
  | float (x : Float)
  | text (s : String)
  | array (items : List Value)
  | object (members : List (String × Value))
  -- Well-formed text without a value: a number too large for a double, half a surrogate pair,
  -- or nesting that is too deep. Readers may only skip it.
  | unreadable
  deriving Inhabited

mutual

/-- No part of the value is unreadable. -/
def Value.readable : Value → Bool
  | .unreadable => false
  | .array items => Value.allReadable items
  | .object members => Value.membersReadable members
  | _ => true

def Value.allReadable : List Value → Bool
  | [] => true
  | v :: rest => v.readable && Value.allReadable rest

def Value.membersReadable : List (String × Value) → Bool
  | [] => true
  | (_, v) :: rest => v.readable && Value.membersReadable rest

end

abbrev Read (α : Type) := Value → Except Misfit α

abbrev Fields := List (String × Value)

-- Whole numbers are 64 bits wide on the wire.
def natLimit : Nat := 0x10000000000000000
def intLimit : Int := 0x8000000000000000

def readNat : Read Nat
  | .int n => if 0 ≤ n && n < Int.ofNat natLimit then .ok n.toNat else .error .shape
  | _ => .error .shape

def readInt : Read Int
  | .int n => if -intLimit ≤ n && n < intLimit then .ok n else .error .shape
  | _ => .error .shape

def readFloat : Read Float
  | .float x => .ok x
  | .int n => .ok (Float.ofInt n)
  | _ => .error .shape

def readBool : Read Bool
  | .bool b => .ok b
  | _ => .error .shape

def readText : Read String
  | .text s => .ok s
  | _ => .error .shape

/-- The name of a choice, alone or as the key of an absent value. -/
def readChoice : Read String
  | .text s => .ok s
  | .object [(s, .null)] => .ok s
  | _ => .error .shape

-- Where positions are allowed, a choice may also be given by its place among the names.
def readChoiceOf (positions : Bool) (names : List String) : Read String
  | .text s => .ok s
  | .int n =>
      match names[n.toNat]? with
      | some s => if positions && 0 ≤ n then .ok s else .error .shape
      | none => .error .shape
  | _ => .error .shape

def readItems {α : Type} (read : Read α) : List Value → Except Misfit (List α)
  | [] => .ok []
  | v :: rest => do
      let item ← read v
      let items ← readItems read rest
      return item :: items

def readList {α : Type} (read : Read α) : Read (List α)
  | .array items => readItems read items
  | _ => .error .shape

def readOption {α : Type} (read : Read α) : Read (Option α)
  | .null => .ok none
  | v => some <$> read v

/-- Replaces the entry of a key where it stands, or adds it at the end. -/
def putLast {α : Type} (entries : List (String × α)) (key : String) (value : α) :
    List (String × α) :=
  match entries with
  | [] => [(key, value)]
  | (k, v) :: rest => if k == key then (k, value) :: rest else (k, v) :: putLast rest key value

def readEntries {α : Type} (read : Read α) (entries : List (String × α)) :
    Fields → Except Misfit (List (String × α))
  | [] => .ok entries
  | (key, v) :: rest => do
      let value ← read v
      readEntries read (putLast entries key value) rest

def readMap {α : Type} (read : Read α) : Read (List (String × α))
  | .object members => readEntries read [] members
  | _ => .error .shape

def insertEntry {α : Type} (entry : String × α) : List (String × α) → List (String × α)
  | [] => [entry]
  | other :: rest =>
      if entry.1 < other.1 then entry :: other :: rest else other :: insertEntry entry rest

-- Keys in increasing order.
def sortEntries {α : Type} (entries : List (String × α)) : List (String × α) :=
  entries.foldr insertEntry []

def occurrences (fields : Fields) (name : String) : Nat :=
  (fields.filter fun field => field.1 == name).length

/-- The members of an object in which none of the named fields is given twice. -/
def objectRecord (names : List String) : Read Fields
  | .object members =>
      if names.all fun name => occurrences members name ≤ 1 then .ok members
      else .error .shape
  | _ => .error .shape

/-- The members of an object, or the items of an array under the names in their order; fields after
the last item are missing. -/
def record (names : List String) : Read Fields
  | .array items => if items.length ≤ names.length then .ok (names.zip items) else .error .shape
  | v => objectRecord names v

@[simp] theorem record_object (names : List String) (members : Fields) :
    record names (.object members) = objectRecord names (.object members) := rfl

-- In TOML the items after those of the last name do not count.
def cut (names : List String) : Value → Value
  | .array items => .array (items.take names.length)
  | v => v

-- Data whose form depends on one of its own fields is read as a whole first, so that nothing
-- in it may be unreadable.
def wholeRecord (names : List String) (v : Value) : Except Misfit Fields :=
  if v.readable then objectRecord names v else .error .shape

namespace Fields

def required {α : Type} (fields : Fields) (name : String) (read : Read α) : Except Misfit α :=
  match fields.lookup name with
  | some v => read v
  | none => .error .shape

def withDefault {α : Type} (fields : Fields) (name : String) (read : Read α) (default : α) :
    Except Misfit α :=
  match fields.lookup name with
  | some v => read v
  | none => .ok default

def optional {α : Type} (fields : Fields) (name : String) (read : Read α) :
    Except Misfit (Option α) :=
  match fields.lookup name with
  | some v => readOption read v
  | none => .ok none

end Fields

/-- The name of a variant, which is a member of the object or the first item of the array that has
its fields, with what the fields are read from. -/
def tagged (name : String) (read : Read String) (v : Value) : Except Misfit (String × Value) := do
  match v with
  | .array (tag :: items) =>
      if v.readable then return (← read tag, .array items) else .error .shape
  | _ =>
      let fields ← wholeRecord [name] v
      return (← fields.required name read, v)

-- Writers.

def ofNat (n : Nat) : Value := .int (Int.ofNat n)

def ofList {α : Type} (write : α → Value) (items : List α) : Value := .array (items.map write)

def ofOption {α : Type} (write : α → Value) : Option α → Value
  | none => .null
  | some a => write a

def ofMap {α : Type} (write : α → Value) (entries : List (String × α)) : Value :=
  .object (entries.map fun entry => (entry.1, write entry.2))

-- A number that is not finite has no form of its own.
def ofFloat (x : Float) : Value := if x.isFinite then .float x else .null

theorem readNat_ofNat (n : Nat) (small : n < natLimit) : readNat (ofNat n) = .ok n := by
  have bound : (n : Int) < (natLimit : Nat) := by omega
  simp [readNat, ofNat, bound]

theorem readItems_map {α : Type} (read : Read α) (write : α → Value) (items : List α)
    (back : ∀ item ∈ items, read (write item) = .ok item) :
    readItems read (items.map write) = .ok items := by
  induction items with
  | nil => rfl
  | cons item rest ih =>
    have head := back item (by simp)
    have tail := ih fun other present => back other (by simp [present])
    simp [readItems, head, tail, bind, Except.bind, pure, Except.pure]

end SpanAnnotation.Wire
