import Mathlib.Data.List.Nodup
import SpanAnnotation.Proofs.Dependencies

/-!
What the search for an order finds. It is compared with a search that knows no bound on its depth:
that search ends for every configuration, cyclic or not, and the one with fuel has its outcome. The
order consists of the chunkers that are reached, each once and after those it is made of.
-/

set_option autoImplicit false

open Relation (ReflTransGen TransGen)

namespace SpanAnnotation.Configuration

variable (config : Configuration)

/-- Names are added to an order one after the other, given the chunkers that wait for them. Nothing
bounds how deep the search goes. -/
inductive Searches :
    List String → List String → List String → Except Error (List String) → Prop where
  | done {waiting order : List String} : Searches waiting order [] (.ok order)
  | cycle {waiting order rest : List String} {name : String} (again : name ∈ waiting) :
      Searches waiting order (name :: rest) (refuse (.cycle waiting name))
  | undeclared {waiting order rest : List String} {name : String} (new : name ∉ waiting)
      (missing : config.find? name = none) :
      Searches waiting order (name :: rest) (refuse (.undeclaredChunker name))
  | known {waiting order rest : List String} {name : String} {chunker : ChunkerConfig}
      {outcome : Except Error (List String)} (new : name ∉ waiting)
      (found : config.find? name = some chunker) (listed : name ∈ order)
      (later : Searches waiting order rest outcome) :
      Searches waiting order (name :: rest) outcome
  | failed {waiting order rest : List String} {name : String} {chunker : ChunkerConfig} {e : Error}
      (new : name ∉ waiting) (found : config.find? name = some chunker) (unlisted : name ∉ order)
      (parts : Searches (waiting ++ [name]) order chunker.dependencies (.error e)) :
      Searches waiting order (name :: rest) (.error e)
  | added {waiting order before rest : List String} {name : String} {chunker : ChunkerConfig}
      {outcome : Except Error (List String)} (new : name ∉ waiting)
      (found : config.find? name = some chunker) (unlisted : name ∉ order)
      (parts : Searches (waiting ++ [name]) order chunker.dependencies (.ok before))
      (later : Searches waiting (before ++ [name]) rest outcome) :
      Searches waiting order (name :: rest) outcome

-- The search with fuel goes the same way, as long as the fuel exceeds the chunkers that can wait.

theorem visit_new {fuel : Nat} {waiting order : List String} {name : String}
    {chunker : ChunkerConfig} (new : name ∉ waiting) (found : config.find? name = some chunker)
    (unlisted : name ∉ order) :
    config.visit (fuel + 1) waiting order name =
      (· ++ [name]) <$>
        chunker.dependencies.foldlM (config.visit fuel (waiting ++ [name])) order := by
  rw [visit]
  simp only [List.contains_iff_mem, new, found, unlisted, if_false]
  rfl

variable {config}

theorem Searches.visits {waiting order names : List String} {outcome : Except Error (List String)}
    (search : config.Searches waiting order names outcome) (fuel : Nat)
    (waits : config.Waits fuel waiting) :
    names.foldlM (config.visit fuel waiting) order = outcome := by
  induction search generalizing fuel with
  | done => rfl
  | cycle again =>
    obtain ⟨fuel, rfl⟩ := Nat.exists_eq_succ_of_ne_zero waits.fuel_ne_zero
    simp [visit, again, refuse, bind, Except.bind]
  | undeclared new missing =>
    obtain ⟨fuel, rfl⟩ := Nat.exists_eq_succ_of_ne_zero waits.fuel_ne_zero
    simp [visit, new, missing, refuse, bind, Except.bind]
  | known new found listed _ ih =>
    obtain ⟨fuel, rfl⟩ := Nat.exists_eq_succ_of_ne_zero waits.fuel_ne_zero
    have kept := ih (fuel + 1) waits
    simpa [visit, new, found, listed, bind, Except.bind] using kept
  | failed new found unlisted _ ih =>
    obtain ⟨fuel, rfl⟩ := Nat.exists_eq_succ_of_ne_zero waits.fuel_ne_zero
    have below := ih fuel (waits.push _ new _ found)
    simp [config.visit_new new found unlisted, below, bind, Except.bind]
  | added new found unlisted _ _ below later =>
    obtain ⟨fuel, rfl⟩ := Nat.exists_eq_succ_of_ne_zero waits.fuel_ne_zero
    have before := below fuel (waits.push _ new _ found)
    have after := later (fuel + 1) waits
    simpa [config.visit_new new found unlisted, before, bind, Except.bind] using after

theorem searches_visits (fuel : Nat) (waiting order names : List String)
    (waits : config.Waits fuel waiting) :
    config.Searches waiting order names (names.foldlM (config.visit fuel waiting) order) := by
  induction fuel generalizing waiting order names with
  | zero => exact absurd rfl waits.fuel_ne_zero
  | succ fuel deeper =>
    induction names generalizing order with
    | nil => exact .done
    | cons name rest later =>
      rw [List.foldlM_cons]
      by_cases again : name ∈ waiting
      next =>
        have stops : config.visit (fuel + 1) waiting order name = refuse (.cycle waiting name) := by
          simp [visit, again]
        rw [stops]
        exact .cycle again
      next =>
        cases found : config.find? name with
        | none =>
          have stops : config.visit (fuel + 1) waiting order name =
              refuse (.undeclaredChunker name) := by simp [visit, again, found]
          rw [stops]
          exact .undeclared again found
        | some chunker =>
          by_cases listed : name ∈ order
          next =>
            have kept : config.visit (fuel + 1) waiting order name = .ok order := by
              simp [visit, again, found, listed]
            rw [kept]
            exact .known again found listed (later order)
          next =>
            have parts := deeper (waiting ++ [name]) order chunker.dependencies
              (waits.push name again chunker found)
            rw [config.visit_new again found listed]
            generalize chunker.dependencies.foldlM (config.visit fuel (waiting ++ [name])) order =
              below at parts ⊢
            cases below with
            | error e => exact .failed again found listed parts
            | ok before => exact .added again found listed parts (later (before ++ [name]))

variable (config)

/-- The unbounded search ends for every name, and only with the outcome of the bounded one. -/
theorem searches_iff_dependencyOrder (name : String) (outcome : Except Error (List String)) :
    config.Searches [] [] [name] outcome ↔ config.dependencyOrder name = outcome := by
  have waits : config.Waits (config.chunkers.length + 1) [] :=
    ⟨List.nodup_nil, List.nil_subset _, by simp⟩
  have single : [name].foldlM (config.visit (config.chunkers.length + 1) []) [] =
      config.dependencyOrder name := by
    rw [List.foldlM_cons]
    exact bind_pure _
  constructor
  next => exact fun search => single ▸ search.visits _ waits
  next =>
    rintro rfl
    rw [← single]
    exact searches_visits _ [] [] [name] waits

-- The order that a search leaves.

/-- Nothing comes twice, chunkers that wait are not added, and all that is added is reached. -/
structure Grown (waiting order names done : List String) : Prop where
  distinct : order.Nodup → done.Nodup
  fresh : ∀ other ∈ waiting, other ∈ done → other ∈ order
  reached : ∀ other ∈ done, other ∈ order ∨ ∃ name ∈ names, ReflTransGen config.Needs name other

variable {config}

theorem Searches.grown {waiting order names : List String} {outcome : Except Error (List String)}
    (search : config.Searches waiting order names outcome) (done : List String)
    (success : outcome = .ok done) : config.Grown waiting order names done := by
  induction search generalizing done with
  | done =>
    obtain rfl := Except.ok.inj success
    exact ⟨id, fun _ _ => id, fun _ => .inl⟩
  | cycle => cases success
  | undeclared => cases success
  | known new found listed _ ih =>
    have later := ih done success
    refine ⟨later.distinct, later.fresh, fun other present => ?_⟩
    refine (later.reached other present).imp_right ?_
    exact fun ⟨name, named, way⟩ => ⟨name, List.mem_cons_of_mem _ named, way⟩
  | failed => cases success
  | @added waiting order before rest name chunker outcome new found unlisted _ _ below above =>
    have parts := below before rfl
    have later := above done success
    -- A name that waits while its parts are added is not among them.
    have last : name ∉ before := fun early => unlisted (parts.fresh name (by simp) early)
    constructor
    case distinct =>
      intro start
      apply later.distinct
      simpa using List.Nodup.concat last (parts.distinct start)
    case fresh =>
      intro other waits present
      rcases List.mem_append.mp (later.fresh other waits present) with early | same
      · exact parts.fresh other (List.mem_append_left _ waits) early
      · exact absurd (List.mem_singleton.mp same ▸ waits) new
    case reached =>
      intro other present
      rcases later.reached other present with earlier | ⟨next, named, way⟩
      · rcases List.mem_append.mp earlier with early | same
        · refine (parts.reached other early).imp_right fun ⟨part, needed, way⟩ => ?_
          exact ⟨name, by simp, way.head ((config.needs_iff found).mpr needed)⟩
        · exact .inr ⟨name, by simp, List.mem_singleton.mp same ▸ .refl⟩
      · exact .inr ⟨next, List.mem_cons_of_mem _ named, way⟩

theorem Ordered.parts_before {order before after : List String} {whole : String}
    (ordered : config.Ordered order) (split : order = before ++ whole :: after) :
    ∀ part, config.Needs whole part → part ∈ before := by
  induction ordered generalizing after with
  | nil => simp at split
  | @snoc earlier name chunker _ found parts ih =>
    rcases List.eq_nil_or_concat after with rfl | ⟨middle, last, rfl⟩
    next =>
      obtain ⟨rfl, same⟩ := List.append_inj' split rfl
      obtain rfl : name = whole := by simpa using same
      exact fun part needs => parts part ((config.needs_iff found).mp needs)
    next =>
      have apart : earlier ++ [name] = (before ++ whole :: middle) ++ [last] := by simpa using split
      exact ih (List.append_inj' apart rfl).1

theorem Searches.ends {name : String} {order : List String}
    (search : config.Searches [] [] [name] (.ok order)) : order.getLast? = some name := by
  cases search with
  | known _ _ listed _ => exact absurd listed List.not_mem_nil
  | added _ _ _ _ later =>
    cases later
    exact List.getLast?_concat

variable (config)

/-- The search ends for every configuration and every name, with one outcome. It succeeds exactly
when all that is reached is declared and does not reach itself; the order has what is reached, each
chunker once, after all that it is made of, and ends with the name. -/
theorem dependencyOrder_lists_reached (name : String) :
    (∀ outcome, config.Searches [] [] [name] outcome ↔ config.dependencyOrder name = outcome) ∧
    ((∃ order, config.dependencyOrder name = .ok order) ↔
      ∀ other, ReflTransGen config.Needs name other →
        (∃ chunker, config.find? other = some chunker) ∧ ¬ TransGen config.Needs other other) ∧
    ∀ order, config.dependencyOrder name = .ok order →
      order.Nodup ∧
      (∀ other, other ∈ order ↔ ReflTransGen config.Needs name other) ∧
      (∀ before whole after, order = before ++ whole :: after →
        ∀ part, config.Needs whole part → part ∈ before) ∧
      order.getLast? = some name := by
  refine ⟨config.searches_iff_dependencyOrder name, config.dependencyOrder_succeeds_iff name, ?_⟩
  intro order success
  have search := (config.searches_iff_dependencyOrder name _).mpr success
  obtain ⟨ordered, listed⟩ := config.dependencyOrder_ordered name order success
  have grown := search.grown order rfl
  refine ⟨grown.distinct List.nodup_nil, fun other => ⟨fun present => ?_, ordered.reaches listed⟩,
    fun before whole after => ordered.parts_before, search.ends⟩
  simpa using grown.reached other present

-- A chunker that is listed twice and shares a part with another one; the last one is not declared.
theorem diamond_lists_reached :
    let config : Configuration :=
      { Configuration.standard with
        chunkers := [
          ⟨"all", .union ["short", "long", "short"]⟩,
          ⟨"short", .fix "names" []⟩,
          ⟨"long", .fix "names" []⟩,
          ⟨"names", .dictionary [] none false⟩,
          ⟨"broken", .union ["names", "missing"]⟩] }
    config.dependencyOrder "all" = .ok ["names", "short", "long", "all"] ∧
      ["names", "short", "long", "all"].Nodup ∧
      (∀ other, other ∈ ["names", "short", "long", "all"] ↔
        ReflTransGen config.Needs "all" other) ∧
      ¬ ∃ order, config.dependencyOrder "broken" = .ok order := by
  intro config
  have success : config.dependencyOrder "all" = .ok ["names", "short", "long", "all"] := by
    decide +kernel
  obtain ⟨_, _, lists⟩ := config.dependencyOrder_lists_reached "all"
  obtain ⟨_, succeeds, _⟩ := config.dependencyOrder_lists_reached "broken"
  obtain ⟨distinct, reached, _⟩ := lists _ success
  refine ⟨success, distinct, reached, fun ordered => ?_⟩
  have needs : config.Needs "broken" "missing" := (config.needs_iff rfl).mpr (by decide)
  obtain ⟨⟨chunker, found⟩, _⟩ := succeeds.mp ordered "missing" (.single needs)
  cases found

end SpanAnnotation.Configuration
