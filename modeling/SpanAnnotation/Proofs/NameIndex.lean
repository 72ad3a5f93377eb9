import Mathlib.Data.List.Nodup

/-!
Maps from names to places, kept beside the list of the names.
-/

set_option autoImplicit false

namespace SpanAnnotation

/-- The map has every name at its place in the list, and nothing else. -/
def Indexes (index : List (String × Nat)) (names : List String) : Prop :=
  ∀ name place, index.lookup name = some place ↔ names[place]? = some name

namespace Indexes

theorem nil : Indexes [] [] := by simp [Indexes]

variable {index : List (String × Nat)} {names : List String}

theorem lookup_isSome_iff (indexes : Indexes index names) (name : String) :
    (index.lookup name).isSome = true ↔ name ∈ names := by
  simp only [Option.isSome_iff_exists, indexes name, List.mem_iff_getElem?]

/-- A name has one place only, since the map holds one. -/
theorem nodup (indexes : Indexes index names) : names.Nodup := by
  rw [List.nodup_iff_injective_getElem]
  intro i j same
  have found (i : Fin names.length) : index.lookup names[i.1] = some i.1 :=
    (indexes _ i.1).mpr (List.getElem?_eq_getElem i.2)
  have once : index.lookup names[i.1] = index.lookup names[j.1] :=
    congrArg (fun name => index.lookup name) same
  rw [found, found] at once
  exact Fin.ext (Option.some.inj once)

theorem push (indexes : Indexes index names) (name : String) (new : name ∉ names) :
    Indexes ((name, names.length) :: index) (names ++ [name]) := by
  intro other place
  by_cases same : other = name
  next =>
    subst same
    rw [List.lookup_cons_self, Option.some.injEq]
    constructor
    next =>
      rintro rfl
      simp
    next =>
      intro there
      rw [List.getElem?_append] at there
      split at there
      next => exact absurd (List.mem_of_getElem? there) new
      next beyond =>
        have inside := (List.getElem?_eq_some_iff.mp there).1
        simp only [List.length_singleton] at inside
        omega
  next =>
    have apart : (other == name) = false := by simpa using same
    rw [List.lookup_cons, apart, indexes other place, List.getElem?_append]
    split
    next => rfl
    next beyond =>
      rw [List.getElem?_eq_none (Nat.le_of_not_lt beyond), List.getElem?_singleton]
      split
      next => simp [Ne.symm same]
      next => simp

end Indexes

end SpanAnnotation
