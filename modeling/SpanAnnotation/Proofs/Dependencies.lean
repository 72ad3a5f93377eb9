import Mathlib.Data.List.Perm.Subperm
import Mathlib.Logic.Relation
import SpanAnnotation.Proofs.Composition

/-!
The search for an order in which chunkers can be built. It finds one exactly when all that the
chunker is made of, directly or through others, is declared and no part is made of itself. Its depth
is bounded by the number of chunkers, so that the fuel never decides.
-/

set_option autoImplicit false

open Relation (ReflTransGen TransGen)

namespace SpanAnnotation

theorem exists_of_foldlM_error {ε α β : Type} (step : β → α → Except ε β) (list : List α)
    (start : β) (e : ε) (failure : list.foldlM step start = .error e) :
    ∃ a ∈ list, ∃ b, step b a = .error e := by
  induction list generalizing start with
  | nil => cases failure
  | cons a rest ih =>
    rw [List.foldlM_cons] at failure
    cases first : step start a with
    | error other =>
      rw [first] at failure
      cases failure
      exact ⟨a, by simp, start, first⟩
    | ok next =>
      rw [first] at failure
      obtain ⟨b, listed, failed⟩ := ih next failure
      exact ⟨b, List.mem_cons_of_mem a listed, failed⟩

namespace Configuration

variable (config : Configuration)

/-- A chunker is made of a part. -/
def Needs (name part : String) : Prop :=
  ∃ chunker, config.find? name = some chunker ∧ part ∈ chunker.dependencies

theorem needs_iff {name part : String} {chunker : ChunkerConfig}
    (found : config.find? name = some chunker) :
    config.Needs name part ↔ part ∈ chunker.dependencies := by
  simp [Needs, found]

theorem not_needs_self {name : String}
    (accessible : Acc (fun part whole => config.Needs whole part) name) :
    ¬ TransGen config.Needs name name := by
  induction accessible with
  | intro name _ ih =>
    intro around
    obtain ⟨part, needs, back⟩ := TransGen.head'_iff.mp around
    exact ih part needs (TransGen.tail' back needs)

-- What an order tells of the chunkers that it lists.

namespace Ordered

variable {config} {order : List String} (ordered : config.Ordered order)

include ordered

theorem declared : ∀ name ∈ order, ∃ chunker, config.find? name = some chunker := by
  induction ordered with
  | nil => simp
  | snoc _ found _ ih => exact List.forall_mem_append.mpr ⟨ih, by simp [found]⟩

theorem closed : ∀ name ∈ order, ∀ part, config.Needs name part → part ∈ order := by
  induction ordered with
  | nil => simp
  | snoc _ found parts ih =>
    simp only [List.forall_mem_append, List.forall_mem_singleton, config.needs_iff found]
    constructor
    next => exact fun name listed part needs => List.mem_append_left _ (ih name listed part needs)
    next => exact fun part needed => List.mem_append_left _ (parts part needed)

theorem reaches {name other : String} (listed : name ∈ order)
    (reached : ReflTransGen config.Needs name other) : other ∈ order := by
  induction reached with
  | refl => exact listed
  | tail _ needs ih => exact ordered.closed _ ih _ needs

theorem accessible : ∀ name ∈ order, Acc (fun part whole => config.Needs whole part) name := by
  induction ordered with
  | nil => simp
  | snoc _ found parts ih =>
    refine List.forall_mem_append.mpr ⟨ih, List.forall_mem_singleton.mpr (Acc.intro _ ?_)⟩
    intro part needs
    exact ih part (parts part ((config.needs_iff found).mp needs))

end Ordered

-- The depth of the search.

/-- The chunkers that wait for others are declared and distinct, and with the fuel there are more
places than chunkers. -/
structure Waits (fuel : Nat) (waiting : List String) : Prop where
  distinct : waiting.Nodup
  declared : waiting ⊆ config.chunkers.map ChunkerConfig.name
  enough : config.chunkers.length < waiting.length + fuel

namespace Waits

variable {config} {fuel : Nat} {waiting : List String}

theorem fuel_ne_zero (waits : config.Waits fuel waiting) : fuel ≠ 0 := by
  have bound := (List.subperm_of_subset waits.distinct waits.declared).length_le
  rw [List.length_map] at bound
  have enough := waits.enough
  omega

theorem push (waits : config.Waits (fuel + 1) waiting) (name : String) (new : name ∉ waiting)
    (chunker : ChunkerConfig) (found : config.find? name = some chunker) :
    config.Waits fuel (waiting ++ [name]) := by
  obtain ⟨listed, rfl⟩ := config.mem_chunkers_of_find? name chunker found
  constructor
  next =>
    simp [List.nodup_append, waits.distinct]
    exact fun other present same => new (same ▸ present)
  next =>
    exact List.append_subset.mpr ⟨waits.declared, by simpa using ⟨chunker, listed, rfl⟩⟩
  next =>
    have enough := waits.enough
    simp only [List.length_append, List.length_singleton]
    omega

end Waits

theorem visit_more_fuel (fuel : Nat) (waiting order : List String) (name : String)
    (waits : config.Waits fuel waiting) :
    config.visit (fuel + 1) waiting order name = config.visit fuel waiting order name := by
  induction fuel generalizing waiting order name with
  | zero => exact absurd rfl waits.fuel_ne_zero
  | succ fuel ih =>
    rw [visit, visit]
    by_cases new : name ∈ waiting
    next => simp [new]
    next =>
      cases found : config.find? name with
      | none => rfl
      | some chunker =>
        have deeper := waits.push name new chunker found
        simp only [fun done part => ih (waiting ++ [name]) done part deeper]

/-- More fuel than there are chunkers changes nothing. -/
theorem visit_eq_dependencyOrder (fuel : Nat) (name : String)
    (enough : config.chunkers.length < fuel) :
    config.visit fuel [] [] name = config.dependencyOrder name := by
  induction enough with
  | refl => rfl
  | @step fuel enough ih =>
    have bound : config.chunkers.length < fuel := enough
    rw [← ih]
    apply visit_more_fuel
    exact ⟨List.nodup_nil, List.nil_subset _, by simpa using bound⟩

-- The outcome of the search.

theorem visit_fails (fuel : Nat) (waiting order : List String) (name : String) (e : Error)
    (waits : config.Waits fuel waiting) (above : ∀ other ∈ waiting, TransGen config.Needs other name)
    (failure : config.visit fuel waiting order name = .error e) :
    ∃ other, ReflTransGen config.Needs name other ∧
      (config.find? other = none ∨ TransGen config.Needs other other) := by
  induction fuel generalizing waiting order name e with
  | zero => exact absurd rfl waits.fuel_ne_zero
  | succ fuel ih =>
    rw [visit] at failure
    by_cases again : name ∈ waiting
    next => exact ⟨name, .refl, .inr (above name again)⟩
    next =>
      cases found : config.find? name with
      | none => exact ⟨name, .refl, .inl found⟩
      | some chunker =>
        by_cases known : name ∈ order
        next => simp [again, found, known] at failure
        next =>
          simp only [found, List.contains_iff_mem, again, known, if_false] at failure
          have failed : ∃ e, chunker.dependencies.foldlM (config.visit fuel (waiting ++ [name]))
              order = .error e := by
            cases visited : chunker.dependencies.foldlM (config.visit fuel (waiting ++ [name])) order
            next e => exact ⟨e, rfl⟩
            next => rw [visited] at failure; cases failure
          obtain ⟨e, failed⟩ := failed
          obtain ⟨part, listed, done, refused⟩ := exists_of_foldlM_error _ _ _ e failed
          have needs : config.Needs name part := (config.needs_iff found).mpr listed
          have above' : ∀ other ∈ waiting ++ [name], TransGen config.Needs other part := by
            refine List.forall_mem_append.mpr ⟨?_, by simpa using TransGen.single needs⟩
            exact fun other present => (above other present).tail needs
          obtain ⟨other, reached, cause⟩ := ih (waiting ++ [name]) done part e
            (waits.push name again chunker found) above' refused
          exact ⟨other, reached.head needs, cause⟩

theorem dependencyOrder_succeeds_iff (name : String) :
    (∃ order, config.dependencyOrder name = .ok order) ↔
      ∀ other, ReflTransGen config.Needs name other →
        (∃ chunker, config.find? other = some chunker) ∧ ¬ TransGen config.Needs other other := by
  constructor
  next =>
    rintro ⟨order, success⟩ other reached
    obtain ⟨ordered, listed⟩ := config.dependencyOrder_ordered name order success
    have present := ordered.reaches listed reached
    exact ⟨ordered.declared other present, config.not_needs_self (ordered.accessible other present)⟩
  next =>
    intro sound
    cases outcome : config.dependencyOrder name with
    | ok order => exact ⟨order, rfl⟩
    | error e =>
      have waits : config.Waits (config.chunkers.length + 1) [] :=
        ⟨List.nodup_nil, List.nil_subset _, by simp⟩
      obtain ⟨other, reached, cause⟩ := config.visit_fails _ [] [] name e waits (by simp) outcome
      obtain ⟨⟨chunker, found⟩, straight⟩ := sound other reached
      rcases cause with missing | around
      · simp [found] at missing
      · exact absurd around straight

end Configuration

end SpanAnnotation
