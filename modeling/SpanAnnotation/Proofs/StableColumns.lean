import SpanAnnotation.Proofs.Origins

/-!
The columns of attribute tables. A name and its index determine each other, columns are only added
at the end, and a write touches one cell.
-/

set_option autoImplicit false

namespace SpanAnnotation

open Wire

namespace AttributeTable

variable (table : AttributeTable)

-- Names and indices.

theorem nameAt?_eq (i : Nat) : table.nameAt? i = table.names[i]? := by
  simp [nameAt?, names]

theorem size_eq : table.size = table.names.length := by
  simp [size, names]

theorem find?_eq_some_iff (name : String) (i : Nat) :
    table.find? name = some i ↔ table.nameAt? i = some name := by
  rw [find?, List.findIdx?_eq_some_iff_getElem, nameAt?_eq]
  constructor
  · rintro ⟨bound, same, _⟩
    simpa [names, bound] using same
  · intro named
    obtain ⟨inside, there⟩ := List.getElem?_eq_some_iff.mp named
    have bound : i < table.columns.length := by simpa [names] using inside
    refine ⟨bound, by simpa [names] using there, fun j before again => ?_⟩
    -- A name that stood there earlier would be repeated.
    have early : table.names[j]? = some name := by
      have inside : j < table.columns.length := Nat.lt_trans before bound
      simpa [names, inside] using again
    have : i = j := (List.getElem?_inj inside table.distinct).mp (named.trans early.symm)
    omega

theorem column_of_nameAt? (name : String) (i : Nat) (named : table.nameAt? i = some name) :
    ∃ values, table.columns[i]? = some ⟨name, values⟩ ∧ values.length = table.tokenCount := by
  obtain ⟨⟨_, values⟩, there, rfl⟩ := Option.map_eq_some_iff.mp named
  exact ⟨values, there, table.full _ (List.mem_of_getElem? there)⟩

theorem column_of_lt (i : Nat) (known : i < table.size) :
    ∃ column, table.columns[i]? = some column :=
  ⟨_, List.getElem?_eq_getElem known⟩

theorem find?_of_prefix {longer : AttributeTable} (more : table.names <+: longer.names)
    (name : String) (i : Nat) (found : table.find? name = some i) : longer.find? name = some i := by
  rw [find?_eq_some_iff, nameAt?_eq] at found ⊢
  obtain ⟨rest, joined⟩ := more
  rw [← joined, List.getElem?_append_left (List.getElem?_eq_some_iff.mp found).1, found]

theorem find?_congr {other : AttributeTable} (same : other.names = table.names) (name : String) :
    other.find? name = table.find? name := by
  apply Option.ext
  intro i
  simp only [find?_eq_some_iff, nameAt?_eq, same]

theorem resolve?_congr {other : AttributeTable} (same : other.names = table.names)
    (key : AttributeKey) : other.resolve? key = table.resolve? key := by
  cases key with
  | index i => simp only [resolve?, size_eq, same]
  | name s => exact table.find?_congr same s

theorem lt_size_of_resolve? (key : AttributeKey) (i : Nat) (found : table.resolve? key = some i) :
    i < table.size := by
  cases key with
  | index j =>
    simp only [resolve?] at found
    split at found
    next bound => simpa using Option.some.inj found ▸ bound
    next => simp at found
  | name s =>
    have named := (table.find?_eq_some_iff s i).mp found
    rw [nameAt?_eq] at named
    rw [size_eq]
    exact (List.getElem?_eq_some_iff.mp named).1

theorem resolve?_index_of_lt (i : Nat) (bound : i < table.size) :
    table.resolve? (.index i) = some i :=
  if_pos bound

-- Reading.

theorem get?_index (token i : Nat) :
    table.get? token (.index i) =
      (table.columns[i]?).bind fun column => (column.values[token]?).join := by
  by_cases bound : i < table.size
  · simp [get?, resolve?, bound]
  · have missing : table.columns[i]? = none := List.getElem?_eq_none (Nat.le_of_not_lt bound)
    simp [get?, resolve?, bound, missing]

theorem get?_eq (token : Nat) (key : AttributeKey) :
    table.get? token key =
      (table.resolve? key).bind fun i => table.get? token (.index i) := by
  simp only [get?_index]
  rfl

theorem get?_name (name : String) (i : Nat) (values : List (Option String))
    (there : table.columns[i]? = some ⟨name, values⟩) (token : Nat) :
    table.get? token (.name name) = (values[token]?).join := by
  have found : table.find? name = some i := by
    rw [find?_eq_some_iff, nameAt?, there]
    rfl
  rw [get?_eq, resolve?, found, Option.bind_some, get?_index, there]
  rfl

theorem get?_beyond (token : Nat) (key : AttributeKey) (outside : table.tokenCount ≤ token) :
    table.get? token key = none := by
  rw [get?_eq]
  cases found : table.resolve? key with
  | none => rfl
  | some i =>
    rw [Option.bind_some, get?_index]
    cases there : table.columns[i]? with
    | none => rfl
    | some column =>
      have full := table.full column (List.mem_of_getElem? there)
      rw [Option.bind_some, List.getElem?_eq_none (by omega)]
      rfl

-- Registering.

theorem register_prefix (name : String) : table.names <+: (table.register name).1.names := by
  rw [register_names_eq]
  split
  · exact List.prefix_rfl
  · exact List.prefix_append _ _

theorem register_find? (name : String) :
    (table.register name).1.find? name = some (table.register name).2 := by
  cases found : table.find? name with
  | some i =>
    rw [table.register_of_find? name i found]
    exact found
  | none =>
    have new := (table.find?_eq_none_iff name).mp found
    have columns := table.register_new name new
    rw [find?_eq_some_iff, nameAt?, columns.1, columns.2]
    simp

theorem register_get? (name : String) (token : Nat) (key : AttributeKey) :
    (table.register name).1.get? token key = table.get? token key := by
  cases found : table.find? name with
  | some i => rw [table.register_of_find? name i found]
  | none =>
    have columns := (table.register_new name ((table.find?_eq_none_iff name).mp found)).1
    have cells (i : Nat) : (table.register name).1.get? token (.index i) =
        table.get? token (.index i) := by
      -- The new column is empty, and where it stands now there was none before.
      rw [get?_index, get?_index, columns, List.getElem?_append]
      split
      · rfl
      next beyond =>
        rw [List.getElem?_eq_none (Nat.le_of_not_lt beyond)]
        cases place : i - table.columns.length with
        | zero =>
          simp only [List.getElem?_replicate, List.getElem?_cons_zero, Option.bind_some,
            Option.bind_none]
          split <;> rfl
        | succ later => rfl
    cases key with
    | index i => exact cells i
    | name s =>
      rw [get?_eq, get?_eq table]
      simp only [cells, resolve?]
      cases known : table.find? s with
      | some i => rw [table.find?_of_prefix (table.register_prefix name) s i known]
      | none =>
        by_cases same : s = name
        · subst same
          have beyond : table.size ≤ (table.register s).2 := by
            rw [(table.register_new s ((table.find?_eq_none_iff s).mp found)).2]
            exact Nat.le_refl _
          rw [register_find?, Option.bind_some, get?_index, List.getElem?_eq_none beyond]
          rfl
        · have absent : s ∉ (table.register name).1.names := by
            have old := (table.find?_eq_none_iff s).mp known
            rw [register_names_eq]
            split <;> simp [old, same]
          rw [(find?_eq_none_iff _ s).mpr absent]

-- Writing one cell.

def write (token i : Nat) (value : Option String) : AttributeTable :=
  table.modifyValues i (fun values => values.set token value) (by simp)

@[simp] theorem write_tokenCount (token i : Nat) (value : Option String) :
    (table.write token i value).tokenCount = table.tokenCount := rfl

@[simp] theorem write_names (token i : Nat) (value : Option String) :
    (table.write token i value).names = table.names :=
  table.modifyValues_names i _ _

theorem write_get?_index (token i : Nat) (value : Option String) (bound : i < table.size)
    (other j : Nat) :
    (table.write token i value).get? other (.index j) =
      if other = token ∧ j = i ∧ token < table.tokenCount then value
      else table.get? other (.index j) := by
  have columns : (table.write token i value).columns[j]? = (table.columns[j]?).map fun column =>
      if i = j then { column with values := column.values.set token value } else column :=
    List.getElem?_modify _ _ _ _
  rw [get?_index, get?_index, columns]
  by_cases here : j = i
  · subst here
    have there := List.getElem?_eq_getElem bound
    have full := table.full _ (List.mem_of_getElem? there)
    simp only [there, Option.map_some, Option.bind_some, if_true, List.getElem?_set, full]
    by_cases same : other = token
    · by_cases inside : token < table.tokenCount
      · simp [same, inside]
      · simp [same, inside, full]
    · simp [same, Ne.symm same]
  · have other : ¬ i = j := fun same => here same.symm
    simp [here, other]

theorem write_get? (token i : Nat) (value : Option String) (bound : i < table.size) (other : Nat)
    (key : AttributeKey) :
    (table.write token i value).get? other key =
      if other = token ∧ table.resolve? key = some i ∧ token < table.tokenCount then value
      else table.get? other key := by
  rw [get?_eq, get?_eq table, table.resolve?_congr (table.write_names token i value)]
  cases table.resolve? key with
  | none => simp
  | some j => simp [table.write_get?_index token i value bound other j]

-- What the operations do.

def namesWith (key : AttributeKey) : List String :=
  match key with
  | .name s => if s ∈ table.names then table.names else table.names ++ [s]
  | .index _ => table.names

theorem namesWith_prefix (key : AttributeKey) : table.names <+: table.namesWith key := by
  unfold namesWith
  split
  · split
    · exact List.prefix_rfl
    · exact List.prefix_append _ _
  · exact List.prefix_rfl

-- The table in which a key stands for a column, registered at need, and the index of that.
def opened (key : AttributeKey) : Option (AttributeTable × Nat) :=
  match key with
  | .name s => some (table.register s)
  | .index i => if i < table.size then some (table, i) else none

theorem set_cases (token : Nat) (key : AttributeKey) (value : String) :
    (∃ longer i, token < table.tokenCount ∧ table.opened key = some (longer, i) ∧
        table.set token key value = (longer.write token i (some value), .ok i)) ∨
      ∃ e, (table.tokenCount ≤ token ∨ ∃ i, key = .index i ∧ table.size ≤ i) ∧
        (∀ cause, e ≠ .panic cause) ∧ table.set token key value = (table, .error e) := by
  unfold set
  by_cases outside : table.tokenCount ≤ token
  next =>
    rw [if_pos outside]
    exact .inr ⟨_, .inl outside, by simp, rfl⟩
  next =>
    rw [if_neg outside]
    have inside := Nat.lt_of_not_le outside
    cases key with
    | name s => exact .inl ⟨_, _, inside, rfl, rfl⟩
    | index i =>
      by_cases known : i < table.size
      next => exact .inl ⟨table, i, inside, if_pos known, if_pos known⟩
      next => exact .inr ⟨_, .inr ⟨i, rfl, Nat.le_of_not_lt known⟩, by simp, if_neg known⟩

theorem opened_keeps (key : AttributeKey) (longer : AttributeTable) (i : Nat)
    (found : table.opened key = some (longer, i)) :
    longer.tokenCount = table.tokenCount ∧ longer.names = table.namesWith key ∧
      longer.resolve? key = some i ∧
      ∀ token other, longer.get? token other = table.get? token other := by
  cases key with
  | name s =>
    obtain ⟨rfl, rfl⟩ := Prod.mk.inj (Option.some.inj found)
    exact ⟨table.register_tokenCount s, table.register_names_eq s, table.register_find? s,
      table.register_get? s⟩
  | index j =>
    simp only [opened] at found
    split at found
    next bound =>
      obtain ⟨rfl, rfl⟩ := Prod.mk.inj (Option.some.inj found)
      exact ⟨rfl, rfl, table.resolve?_index_of_lt _ bound, fun _ _ => rfl⟩
    next => simp at found

theorem tokenCount_of_ofValue (v : Value) (accepted : ofValue v = .ok table) :
    table.tokenCount < natLimit := by
  simp only [ofValue, bind_eq_ok_iff] at accepted
  obtain ⟨fields, _, names, _, tokenCount, counted, columns, _, filled⟩ := accepted
  obtain rfl := Except.ok.inj filled
  rw [fill_tokenCount]
  unfold Fields.required at counted
  split at counted
  next => exact lt_of_readNat _ tokenCount counted
  next => simp at counted

theorem clear_cases (token : Nat) (key : AttributeKey) :
    (table.resolve? key = none ∧ table.clear token key = table) ∨
      ∃ i, table.resolve? key = some i ∧ table.clear token key = table.write token i none := by
  cases found : table.resolve? key with
  | none => exact .inl ⟨rfl, by simp only [clear, found]⟩
  | some i =>
    refine .inr ⟨i, rfl, ?_⟩
    simp only [clear, found]
    rfl

end AttributeTable

end SpanAnnotation
