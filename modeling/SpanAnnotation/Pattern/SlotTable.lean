import Std.Data.HashMap

/-!
Tables with a fixed number of slots. A key has one slot, by its hash; a new entry replaces the one
in its slot, so a look-up may miss what was put in before.
-/

set_option autoImplicit false

namespace SpanAnnotation.Pattern

structure SlotTable where
  slots : Nat
  entries : Std.HashMap Nat (List Nat × Nat)

namespace SlotTable

def empty (slots : Nat) : SlotTable := ⟨slots, ∅⟩

/-- The hash FNV-1a, taken word by word. -/
def hash (words : List Nat) : UInt64 :=
  words.foldl (fun mixed word => (mixed ^^^ UInt64.ofNat word) * 0x100000001B3) 0xCBF29CE484222325

def slotOf (table : SlotTable) (key : List Nat) : Nat := (hash key).toNat % table.slots

def find? (table : SlotTable) (key : List Nat) : Option Nat :=
  match table.entries[table.slotOf key]? with
  | some (known, value) => if known == key then some value else none
  | none => none

def put (table : SlotTable) (key : List Nat) (value : Nat) : SlotTable :=
  { table with entries := table.entries.insert (table.slotOf key) (key, value) }

end SlotTable

end SpanAnnotation.Pattern
