import SpanAnnotation.Proofs.NameIndex
import SpanAnnotation.Proofs.OrderlyReading
import SpanAnnotation.Proofs.StableColumns

/-!
Attribute tables as they are kept. A store whose names, columns and map are in step shows a table of
columns; every operation keeps that up, does to the store what it does to the table, and never
reaches out of bounds. So however a store came about and whatever is done with it, a name keeps its
index, and a value that is written is read back through every key of its column and touches no other
cell.
-/

set_option autoImplicit false

namespace SpanAnnotation

open Wire

namespace AttributeStore

/-- The columns stand under their names, and the map has each name at its place. -/
structure Shows (store : AttributeStore) (table : AttributeTable) : Prop where
  names : store.names = table.names
  count : store.tokenCount = table.tokenCount
  columns : store.columns = table.columns.map Column.values
  index : Indexes store.lookup store.names

namespace Shows

variable {store : AttributeStore} {table : AttributeTable}

theorem empty (tokenCount : Nat) : (AttributeStore.empty tokenCount).Shows (.empty tokenCount) :=
  ⟨rfl, rfl, rfl, .nil⟩

variable (shows : store.Shows table)

include shows

-- Reading.

theorem size : store.names.length = table.size := by
  rw [shows.names, table.size_eq]

theorem find? (name : String) : store.find? name = table.find? name := by
  apply Option.ext
  intro i
  rw [table.find?_eq_some_iff, table.nameAt?_eq, ← shows.names]
  exact shows.index name i

theorem nameAt? (i : Nat) : store.nameAt? i = table.nameAt? i := by
  rw [AttributeStore.nameAt?, shows.names, table.nameAt?_eq]

theorem resolve? (key : AttributeKey) : store.resolve? key = table.resolve? key := by
  cases key with
  | index i => simp only [AttributeStore.resolve?, AttributeTable.resolve?, shows.size]
  | name s => exact shows.find? s

theorem column (i : Nat) (column : Column) (there : table.columns[i]? = some column) :
    store.column i = .ok column.values := by
  have held : store.columns[i]? = some column.values := by
    rw [shows.columns, List.getElem?_map, there, Option.map_some]
  rw [AttributeStore.column, held]

theorem get (token : Nat) (key : AttributeKey) : store.get token key = .ok (table.get? token key) := by
  rw [table.get?_eq, AttributeStore.get, shows.resolve?]
  cases found : table.resolve? key with
  | none => rfl
  | some i =>
    obtain ⟨column, there⟩ := table.column_of_lt i (table.lt_size_of_resolve? key i found)
    rw [Option.bind_some, table.get?_index, there]
    simp only [shows.column i _ there]
    rfl

theorem toValue : store.toValue = table.toValue := by
  simp only [AttributeStore.toValue, AttributeTable.toValue, shows.names, shows.count, shows.columns,
    ofList, List.map_map, Function.comp_def]

-- Writing.

theorem register (name : String) :
    (store.register name).2 = (table.register name).2 ∧
      (store.register name).1.Shows (table.register name).1 := by
  rw [AttributeStore.register, shows.find?]
  cases found : table.find? name with
  | some i =>
    rw [table.register_of_find? name i found]
    exact ⟨rfl, shows⟩
  | none =>
    have new := (table.find?_eq_none_iff name).mp found
    obtain ⟨columns, index⟩ := table.register_new name new
    have fresh : name ∉ store.names := shows.names ▸ new
    constructor
    next => exact shows.size.trans index.symm
    next =>
      constructor
      next => rw [table.register_names_eq, if_neg new, ← shows.names]
      next => exact shows.count.trans (table.register_tokenCount name).symm
      next => simp [columns, shows.columns, shows.count]
      next => exact shows.index.push name fresh

theorem putColumn (i : Nat) (change : List (Option String) → List (Option String))
    (same : ∀ values, (change values).length = values.length) (column : Column)
    (there : table.columns[i]? = some column) :
    (store.putColumn i (change column.values)).Shows (table.modifyValues i change same) where
  names := shows.names.trans (table.modifyValues_names i change same).symm
  count := shows.count
  columns := by
    simp only [AttributeStore.putColumn, AttributeTable.modifyValues, shows.columns]
    apply List.ext_getElem?
    intro j
    rw [List.getElem?_set, List.getElem?_map, List.getElem?_map, List.getElem?_modify]
    by_cases here : i = j
    next =>
      subst here
      obtain ⟨inside, held⟩ := List.getElem?_eq_some_iff.mp there
      simp [inside, held]
    next => simp [here]
  index := shows.index

theorem writeCell (token i : Nat) (value : String) (inside : token < table.tokenCount)
    (known : i < table.size) :
    ∃ written, store.writeCell i token value = .ok written ∧
      written.Shows (table.write token i (some value)) := by
  obtain ⟨column, there⟩ := table.column_of_lt i known
  have wide : token < column.values.length := by
    rwa [table.full column (List.mem_of_getElem? there)]
  refine ⟨_, ?_, shows.putColumn i (fun values => values.set token (some value)) (by simp) _ there⟩
  simp only [AttributeStore.writeCell, shows.column i _ there, bind, Except.bind, if_pos wide]
  rfl

/-- A write succeeds on both or fails on both; when it fails the store is the one there was. -/
theorem set (token : Nat) (key : AttributeKey) (value : String) :
    ∃ written, store.set token key value = (written, (table.set token key value).2) ∧
      written.Shows (table.set token key value).1 ∧
      ∀ e, (table.set token key value).2 = .error e → written = store := by
  unfold AttributeStore.set AttributeTable.set
  rw [shows.count]
  by_cases outside : table.tokenCount ≤ token
  next =>
    simp only [if_pos outside]
    exact ⟨store, rfl, shows, fun _ _ => rfl⟩
  next =>
    simp only [if_neg outside]
    have inside := Nat.lt_of_not_le outside
    cases key with
    | name s =>
      obtain ⟨index, registered⟩ := shows.register s
      have known := (table.register s).1.lt_size_of_resolve? (.name s) _ (table.register_find? s)
      have wide : token < (table.register s).1.tokenCount := by rwa [table.register_tokenCount]
      obtain ⟨written, success, showing⟩ := registered.writeCell token _ value wide known
      refine ⟨written, ?_, showing, by simp⟩
      simp only [index, success]
    | index i =>
      dsimp only
      rw [shows.size]
      by_cases known : i < table.size
      next =>
        obtain ⟨written, success, showing⟩ := shows.writeCell token i value inside known
        simp only [if_pos known, success]
        exact ⟨written, rfl, showing, by simp⟩
      next =>
        simp only [if_neg known]
        exact ⟨store, rfl, shows, fun _ _ => rfl⟩

theorem clear (token : Nat) (key : AttributeKey) :
    ∃ cleared, store.clear token key = .ok cleared ∧ cleared.Shows (table.clear token key) := by
  unfold AttributeStore.clear AttributeTable.clear
  rw [shows.resolve?]
  cases found : table.resolve? key with
  | none => exact ⟨store, rfl, shows⟩
  | some i =>
    obtain ⟨column, there⟩ := table.column_of_lt i (table.lt_size_of_resolve? key i found)
    refine ⟨_, ?_, shows.putColumn i (fun values => values.set token none) (by simp) _ there⟩
    simp only [shows.column i _ there]
    rfl

theorem fill (names : List String) (columns : List (List (Option String))) :
    ∃ filled, store.fill names columns = .ok filled ∧ filled.Shows (table.fill names columns) := by
  induction names generalizing store table columns with
  | nil => exact ⟨store, rfl, shows⟩
  | cons name names ih =>
    obtain ⟨index, registered⟩ := shows.register name
    cases columns with
    | nil => exact ih registered []
    | cons values rest =>
      have known := (table.register name).1.lt_size_of_resolve? (.name name) _
        (table.register_find? name)
      obtain ⟨column, there⟩ := (table.register name).1.column_of_lt _ known
      have count : column.values.length = store.tokenCount := by
        rw [AttributeTable.full _ column (List.mem_of_getElem? there), table.register_tokenCount,
          shows.count]
      have put := registered.putColumn _ (fun old => AttributeTable.fit old.length values)
        (fun old => AttributeTable.fit_length old.length values) _ there
      rw [count] at put
      obtain ⟨filled, success, showing⟩ := ih put rest
      refine ⟨filled, ?_, showing⟩
      simp only [AttributeStore.fill, index, registered.column _ _ there]
      exact success

end Shows

-- Structured data.

theorem ofValue_eq (v : Value) :
    ofValue v = AttributeTable.Draft.ofValue v >>= fun raw =>
      ((empty raw.tokenCount).fill raw.names raw.columns).mapError Misfit.panic := by
  simp only [ofValue, AttributeTable.Draft.ofValue, bind_assoc, pure_bind]

/-- However little the parts of raw data go together, the store made of them is in step. -/
theorem ofValue_cases (v : Value) :
    (∃ e, ofValue v = .error e ∧ AttributeTable.ofValue v = .error e ∧ Orderly (ofValue v)) ∨
      ∃ store table, ofValue v = .ok store ∧ AttributeTable.ofValue v = .ok table ∧
        store.Shows table := by
  have orderly := AttributeTable.Draft.ofValue_orderly v
  rw [ofValue_eq, AttributeTable.Draft.ofValue_complete]
  cases drafted : AttributeTable.Draft.ofValue v with
  | error e =>
    rw [drafted] at orderly
    exact .inl ⟨e, rfl, rfl, orderly.bind fun raw => by
      obtain ⟨filled, success, _⟩ := (Shows.empty raw.tokenCount).fill raw.names raw.columns
      rw [success]
      exact .ok filled⟩
  | ok raw =>
    obtain ⟨filled, success, showing⟩ := (Shows.empty raw.tokenCount).fill raw.names raw.columns
    refine .inr ⟨filled, _, ?_, rfl, showing⟩
    simp only [bind, Except.bind, success]
    rfl

def reloaded (store : AttributeStore) : Except Misfit AttributeStore :=
  Json.decode ofValue (Json.render store.toValue)

theorem Shows.reloaded {store : AttributeStore} {table : AttributeTable} (shows : store.Shows table)
    (small : table.tokenCount < natLimit) :
    ∃ again, store.reloaded = .ok again ∧ again.Shows table := by
  rw [AttributeStore.reloaded, shows.toValue,
    Json.decode_render _ _ (Document.attributes_plain table 0 (by decide))]
  have back := table.returns small
  rw [Returns] at back
  rcases ofValue_cases table.toValue.settled with ⟨e, _, failed, _⟩ | ⟨again, shown, read, same, showing⟩
  next => simp [failed] at back
  next =>
    obtain rfl := Except.ok.inj (same.symm.trans back)
    exact ⟨again, read, showing⟩

end AttributeStore

-- Operations.

inductive TableOperation where
  | index (name : String)
  | lookup (name : String)
  | get (token : Nat) (key : AttributeKey)
  | set (token : Nat) (key : AttributeKey) (value : String)
  | clear (token : Nat) (key : AttributeKey)
  -- The table is written as JSON and read again.
  | reload

namespace AttributeTable

variable (table : AttributeTable)

def after : TableOperation → AttributeTable
  | .index name => (table.register name).1
  | .lookup _ => table
  | .get _ _ => table
  | .set token key value => (table.set token key value).1
  | .clear token key => table.clear token key
  | .reload => table

theorem after_tokenCount (operation : TableOperation) :
    (table.after operation).tokenCount = table.tokenCount := by
  cases operation with
  | index name => exact table.register_tokenCount name
  | set token key value => exact table.set_tokenCount token key value
  | clear token key => exact table.clear_tokenCount token key
  | lookup | get | reload => rfl

theorem after_names (operation : TableOperation) :
    table.names <+: (table.after operation).names := by
  cases operation with
  | index name => exact table.register_prefix name
  | set token key value =>
    rcases table.set_cases token key value with ⟨longer, i, _, found, success⟩ | ⟨e, _, _, failed⟩
    next =>
      have names := (table.opened_keeps key longer i found).2.1
      rw [after, success, longer.write_names, names]
      exact table.namesWith_prefix key
    next =>
      have same : table = table.after (.set token key value) := by rw [after, failed]
      exact same ▸ List.prefix_rfl
  | clear token key =>
    have same : table.names = (table.clear token key).names := (table.clear_names token key).symm
    exact same ▸ List.prefix_rfl
  | lookup | get | reload => exact List.prefix_rfl

end AttributeTable

namespace AttributeStore

def after (store : AttributeStore) : TableOperation → Except Panic AttributeStore
  | .index name => .ok (store.register name).1
  | .lookup _ => .ok store
  | .get token key => do
      let _ ← store.get token key
      return store
  | .set token key value =>
      match store.set token key value with
      | (_, .error (.panic cause)) => .error cause
      | (written, _) => .ok written
  | .clear token key => store.clear token key
  | .reload =>
      match store.reloaded with
      | .ok again => .ok again
      | .error (.panic cause) => .error cause
      | .error _ => .ok store

def history (store : AttributeStore) : List TableOperation → Except Panic (List AttributeStore)
  | [] => .ok [store]
  | operation :: rest => do return store :: (← (← store.after operation).history rest)

/-- Names are only appended, and the index that a name has once is given for it ever after. -/
structure Extends (earlier later : AttributeStore) : Prop where
  names : earlier.names <+: later.names
  indices : ∀ name i, earlier.find? name = some i →
    later.find? name = some i ∧ later.register name = (later, i)

namespace Shows

variable {store : AttributeStore} {table : AttributeTable} (shows : store.Shows table)

include shows

/-- No operation ends the run, and each does to the store what it does to the table. -/
theorem after (small : table.tokenCount < natLimit) (operation : TableOperation) :
    ∃ later, store.after operation = .ok later ∧ later.Shows (table.after operation) := by
  cases operation with
  | index name => exact ⟨_, rfl, (shows.register name).2⟩
  | lookup name => exact ⟨store, rfl, shows⟩
  | get token key =>
    refine ⟨store, ?_, shows⟩
    simp only [AttributeStore.after, shows.get]
    rfl
  | set token key value =>
    obtain ⟨written, outcome, showing, _⟩ := shows.set token key value
    refine ⟨written, ?_, showing⟩
    simp only [AttributeStore.after, outcome]
    rcases table.set_cases token key value with ⟨longer, i, _, _, success⟩ | ⟨e, _, calm, failed⟩
    next => rw [success]
    next =>
      rw [failed]
      cases e with
      | panic cause => exact absurd rfl (calm cause)
      | _ => rfl
  | clear token key => exact shows.clear token key
  | reload =>
    obtain ⟨again, read, showing⟩ := shows.reloaded small
    exact ⟨again, by simp only [AttributeStore.after, read], showing⟩

theorem extends_of_prefix {later : AttributeStore} {shown : AttributeTable}
    (showing : later.Shows shown) (more : table.names <+: shown.names) : store.Extends later where
  names := by rwa [shows.names, showing.names]
  indices name i found := by
    rw [shows.find?] at found
    have still := table.find?_of_prefix more name i found
    rw [← showing.find?] at still
    exact ⟨still, by rw [AttributeStore.register, still]⟩

theorem history (small : table.tokenCount < natLimit) (operations : List TableOperation) :
    ∃ stores, store.history operations = .ok stores ∧
      (∀ later ∈ stores, ∃ shown, later.Shows shown ∧ shown.tokenCount = table.tokenCount ∧
        table.names <+: shown.names) ∧
      stores.Pairwise Extends := by
  induction operations generalizing store table with
  | nil =>
    refine ⟨[store], rfl, ?_, List.pairwise_singleton _ _⟩
    intro later present
    obtain rfl := List.mem_singleton.mp present
    exact ⟨table, shows, rfl, List.prefix_rfl⟩
  | cons operation rest ih =>
    have count := table.after_tokenCount operation
    have more := table.after_names operation
    obtain ⟨next, success, showing⟩ := shows.after small operation
    obtain ⟨stores, run, reached, ordered⟩ := ih showing (count ▸ small)
    have shown (later : AttributeStore) (present : later ∈ stores) :
        ∃ shown, later.Shows shown ∧ shown.tokenCount = table.tokenCount ∧
          table.names <+: shown.names := by
      obtain ⟨shown, showing, same, names⟩ := reached later present
      exact ⟨shown, showing, same.trans count, more.trans names⟩
    refine ⟨store :: stores, ?_, ?_, ?_⟩
    next =>
      simp only [AttributeStore.history, success, bind, Except.bind, run]
      rfl
    next =>
      exact List.forall_mem_cons.mpr ⟨⟨table, shows, rfl, List.prefix_rfl⟩, shown⟩
    next =>
      refine List.pairwise_cons.mpr ⟨fun later present => ?_, ordered⟩
      obtain ⟨table', showing, _, names⟩ := shown later present
      exact shows.extends_of_prefix showing names

end Shows

/-- The names are distinct, the map is their inverse, and each has one column that covers all
tokens. -/
structure InStep (store : AttributeStore) (tokenCount : Nat) : Prop where
  count : store.tokenCount = tokenCount
  distinct : store.names.Nodup
  inverse : ∀ name i, store.find? name = some i ↔ store.nameAt? i = some name
  columns : store.columns.length = store.names.length
  full : ∀ values ∈ store.columns, values.length = tokenCount

def namesWith (store : AttributeStore) (key : AttributeKey) : List String :=
  match key with
  | .name s => if s ∈ store.names then store.names else store.names ++ [s]
  | .index _ => store.names

structure Registers (before after : AttributeStore) (name : String) (i : Nat) : Prop where
  index : after.find? name = some i
  names : after.names = before.namesWith (.name name)
  cells : ∀ token key, after.get token key = before.get token key

structure Sets (before after : AttributeStore) (token : Nat) (key : AttributeKey) (value : String)
    (i : Nat) : Prop where
  index : after.resolve? key = some i
  names : after.names = before.namesWith key
  read : after.get token key = .ok (some value) ∧ after.get token (.index i) = .ok (some value) ∧
    ∀ name, after.nameAt? i = some name → after.get token (.name name) = .ok (some value)
  others : ∀ other otherKey, ¬ (other = token ∧ after.resolve? otherKey = some i) →
    after.get other otherKey = before.get other otherKey

structure Clears (before after : AttributeStore) (token : Nat) (key : AttributeKey) : Prop where
  names : after.names = before.names
  read : after.get token key = .ok none
  others : ∀ other otherKey, ¬ (other = token ∧ before.resolve? otherKey = before.resolve? key) →
    after.get other otherKey = before.get other otherKey

/-- The same data, and the same answers of the map. -/
structure Alike (before after : AttributeStore) : Prop where
  names : after.names = before.names
  count : after.tokenCount = before.tokenCount
  columns : after.columns = before.columns
  indices : ∀ name, after.find? name = before.find? name

/-- Every access has an answer, a failing write leaves the store as it was, and what succeeds acts
on names and tokens as on the keys of a map. -/
structure ActsAsMap (store : AttributeStore) : Prop where
  read : ∀ token key, ∃ value, store.get token key = .ok value
  register : ∀ name, store.Registers (store.register name).1 name (store.register name).2
  set : ∀ token key value written i, store.set token key value = (written, .ok i) →
    store.Sets written token key value i
  refused : ∀ token key value, (∃ e, (store.set token key value).2 = .error e) ↔
    store.tokenCount ≤ token ∨ ∃ i, key = .index i ∧ store.size ≤ i
  kept : ∀ token key value written e, store.set token key value = (written, .error e) →
    written = store
  clear : ∀ token key, ∃ cleared, store.clear token key = .ok cleared ∧
    store.Clears cleared token key
  reload : ∃ again, store.reloaded = .ok again ∧ store.Alike again

namespace Shows

variable {store : AttributeStore} {table : AttributeTable} (shows : store.Shows table)

include shows

theorem inStep : store.InStep table.tokenCount where
  count := shows.count
  distinct := shows.index.nodup
  inverse := shows.index
  columns := by
    rw [shows.size, shows.columns, List.length_map]
    rfl
  full := by
    rw [shows.columns, List.forall_mem_map]
    exact table.full

theorem namesWith (key : AttributeKey) : store.namesWith key = table.namesWith key := by
  cases key <;> simp only [AttributeStore.namesWith, AttributeTable.namesWith, shows.names]

theorem registers (name : String) :
    store.Registers (store.register name).1 name (store.register name).2 := by
  obtain ⟨index, registered⟩ := shows.register name
  constructor
  next => rw [registered.find?, index, table.register_find?]
  next => rw [registered.names, shows.namesWith, table.register_names_eq]; rfl
  next => intro token key; rw [registered.get, shows.get, table.register_get?]

theorem sets {written : AttributeStore} {longer : AttributeTable} (token i : Nat)
    (key : AttributeKey) (value : String) (inside : token < table.tokenCount)
    (found : table.opened key = some (longer, i))
    (showing : written.Shows (longer.write token i (some value))) :
    store.Sets written token key value i := by
  obtain ⟨count, more, index, same⟩ := table.opened_keeps key longer i found
  have names := longer.write_names token i (some value)
  have cells := longer.write_get? token i (some value) (longer.lt_size_of_resolve? key i index)
  have through (other : AttributeKey) (column : longer.resolve? other = some i) :
      written.get token other = .ok (some value) := by
    rw [showing.get, cells, if_pos ⟨rfl, column, count ▸ inside⟩]
  have resolved (other : AttributeKey) : written.resolve? other = longer.resolve? other := by
    rw [showing.resolve?, longer.resolve?_congr names]
  constructor
  next => rw [resolved, index]
  next => rw [showing.names, names, more, shows.namesWith]
  next =>
    have known := longer.lt_size_of_resolve? key i index
    refine ⟨through key index, through _ (longer.resolve?_index_of_lt i known), fun name named => ?_⟩
    apply through
    rw [← resolved]
    exact (showing.inStep.inverse name i).mpr named
  next =>
    intro other otherKey elsewhere
    rw [resolved] at elsewhere
    rw [showing.get, shows.get, cells, if_neg fun here => elsewhere ⟨here.1, here.2.1⟩, same]

theorem clears {cleared : AttributeStore} (token : Nat) (key : AttributeKey)
    (showing : cleared.Shows (table.clear token key)) : store.Clears cleared token key := by
  rcases table.clear_cases token key with ⟨missing, same⟩ | ⟨i, found, written⟩
  next =>
    rw [same] at showing
    constructor
    next => rw [showing.names, shows.names]
    next => rw [showing.get, table.get?_eq, missing]; rfl
    next => intro other otherKey _; rw [showing.get, shows.get]
  next =>
    rw [written] at showing
    have cells := table.write_get? token i none (table.lt_size_of_resolve? key i found)
    constructor
    next => rw [showing.names, table.write_names, shows.names]
    next =>
      rw [showing.get, cells]
      split
      next => rfl
      next outside =>
        have beyond : table.tokenCount ≤ token := by simpa [found] using outside
        rw [table.get?_beyond token key beyond]
    next =>
      intro other otherKey elsewhere
      rw [shows.resolve?, shows.resolve?, found] at elsewhere
      rw [showing.get, shows.get, cells, if_neg fun here => elsewhere ⟨here.1, here.2.1⟩]

theorem alike {again : AttributeStore} (showing : again.Shows table) : store.Alike again where
  names := by rw [showing.names, shows.names]
  count := by rw [showing.count, shows.count]
  columns := by rw [showing.columns, shows.columns]
  indices name := by rw [showing.find?, shows.find?]

theorem actsAsMap (small : table.tokenCount < natLimit) : store.ActsAsMap where
  read token key := ⟨_, shows.get token key⟩
  register := shows.registers
  set token key value written i success := by
    obtain ⟨left, outcome, showing, _⟩ := shows.set token key value
    obtain ⟨rfl, same⟩ := Prod.mk.inj (outcome.symm.trans success)
    rcases table.set_cases token key value with ⟨longer, j, inside, found, set⟩ | ⟨e, _, _, failed⟩
    next =>
      rw [set] at same showing
      obtain rfl := Except.ok.inj same
      exact shows.sets token j key value inside found showing
    next => simp [failed] at same
  refused token key value := by
    obtain ⟨left, outcome, _, _⟩ := shows.set token key value
    rw [outcome, shows.count, AttributeStore.size, shows.size]
    rcases table.set_cases token key value with ⟨longer, j, inside, found, set⟩ | ⟨e, why, _, failed⟩
    next =>
      rw [set]
      constructor
      next => simp
      next =>
        rintro (outside | ⟨i, rfl, unknown⟩)
        next => omega
        next => simp [AttributeTable.opened, Nat.not_lt_of_le unknown] at found
    next => simp [failed, why]
  kept token key value written e failed := by
    obtain ⟨left, outcome, _, same⟩ := shows.set token key value
    obtain ⟨rfl, fault⟩ := Prod.mk.inj (outcome.symm.trans failed)
    exact same e fault
  clear token key := by
    obtain ⟨cleared, success, showing⟩ := shows.clear token key
    exact ⟨cleared, success, shows.clears token key showing⟩
  reload := by
    obtain ⟨again, read, showing⟩ := shows.reloaded small
    exact ⟨again, read, shows.alike showing⟩

end Shows

-- Whatever is done with a store.

inductive Origin : AttributeStore → Prop where
  | new (tokenCount : Nat) (small : tokenCount < natLimit) : Origin (empty tokenCount)
  -- Any data that has the form of a table, however little its parts go together.
  | read (v : Value) (store : AttributeStore) (accepted : ofValue v = .ok store) : Origin store

theorem Origin.shows {store : AttributeStore} (origin : store.Origin) :
    ∃ table, store.Shows table ∧ table.tokenCount < natLimit := by
  cases origin with
  | new tokenCount small => exact ⟨_, .empty tokenCount, small⟩
  | read v store accepted =>
    rcases ofValue_cases v with ⟨e, failed, _⟩ | ⟨found, table, read, shown, showing⟩
    next => simp [failed] at accepted
    next =>
      obtain rfl := Except.ok.inj (read.symm.trans accepted)
      exact ⟨table, showing, table.tokenCount_of_ofValue v shown⟩

/-- Raw data never ends the run. However a table came about and whatever is done with it, its names,
map and columns stay in step, no access is out of bounds, every operation treats it as a map from
names and tokens to values, and an index once given for a name is never given for another. -/
theorem history_stable :
    (∀ v, Orderly (ofValue v)) ∧
      ∀ start : AttributeStore, start.Origin → ∀ operations : List TableOperation,
        ∃ stores, start.history operations = .ok stores ∧
          (∀ store ∈ stores, store.InStep start.tokenCount ∧ store.ActsAsMap) ∧
          stores.Pairwise Extends := by
  constructor
  next =>
    intro v
    rcases ofValue_cases v with ⟨_, _, _, orderly⟩ | ⟨store, _, read, _⟩
    next => exact orderly
    next =>
      rw [read]
      exact .ok store
  next =>
    intro start origin operations
    obtain ⟨table, shows, small⟩ := origin.shows
    obtain ⟨stores, run, reached, ordered⟩ := shows.history small operations
    refine ⟨stores, run, fun store present => ?_, ordered⟩
    obtain ⟨shown, showing, count, _⟩ := reached store present
    rw [shows.count, ← count]
    exact ⟨showing.inStep, showing.actsAsMap (count ▸ small)⟩

/-- A name twice, and columns that are too short and too long. -/
def untidy : Value :=
  .object [("names", ofList .text ["base", "tag", "base"]), ("token_count", ofNat 2),
    ("columns", ofList (ofList (ofOption .text))
      [[some "Jan"], [none, some "B", some "I"], [some "Jan", some "Lis"]])]

def tidied : AttributeStore :=
  ⟨["base", "tag"], 2, [[some "Jan", some "Lis"], [none, some "B"]], [("tag", 1), ("base", 0)]⟩

def writeClearReload : List TableOperation :=
  [.set 1 (.name "case") "nom", .set 2 (.name "late") "x", .clear 0 (.index 0), .reload]

theorem history_stable_untidy :
    ofValue untidy = .ok tidied ∧
      ∃ stores, tidied.history writeClearReload = .ok stores ∧
        (∀ store ∈ stores, store.InStep 2 ∧ store.ActsAsMap) ∧ stores.Pairwise Extends := by
  have accepted : ofValue untidy = .ok tidied := by decide
  exact ⟨accepted, history_stable.2 tidied (.read untidy tidied accepted) writeClearReload⟩

end AttributeStore

end SpanAnnotation
