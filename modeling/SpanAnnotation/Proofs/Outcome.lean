import Mathlib.Data.List.Forall2

/-!
Computations that can fail: a chain of them succeeds exactly when each link does.
-/

set_option autoImplicit false

namespace SpanAnnotation

variable {ε α β : Type}

theorem bind_eq_ok_iff (x : Except ε α) (f : α → Except ε β) (b : β) :
    (x >>= f) = .ok b ↔ ∃ a, x = .ok a ∧ f a = .ok b := by
  cases x <;> simp [bind, Except.bind]

theorem map_eq_ok_iff (f : α → β) (x : Except ε α) (b : β) :
    f <$> x = .ok b ↔ ∃ a, x = .ok a ∧ f a = b := by
  cases x <;> simp [Functor.map, Except.map]

theorem check_bind_eq_ok_iff (x : Except ε Unit) (f : Unit → Except ε β) (b : β) :
    (x >>= f) = .ok b ↔ x = .ok () ∧ f () = .ok b := by
  cases x <;> simp [bind, Except.bind]

theorem forM_eq_ok_iff (check : α → Except ε Unit) (list : List α) :
    list.forM check = .ok () ↔ ∀ a ∈ list, check a = .ok () := by
  induction list with
  | nil => simp [pure, Except.pure]
  | cons a rest ih =>
    rw [List.forM_eq_forM] at ih
    simp only [List.forM_eq_forM, List.forM_cons, check_bind_eq_ok_iff, ih, List.mem_cons,
      forall_eq_or_imp]

theorem mapM_succeeds_iff (f : α → Except ε β) (list : List α) :
    (∃ results, list.mapM f = .ok results) ↔ ∀ a ∈ list, ∃ b, f a = .ok b := by
  induction list with
  | nil => simp [pure, Except.pure]
  | cons a rest ih =>
    rw [List.forall_mem_cons, ← ih, List.mapM_cons]
    cases f a with
    | error e => simp [bind, Except.bind]
    | ok b => cases rest.mapM f <;> simp [bind, Except.bind, pure, Except.pure]

theorem option_mapM_succeeds_iff (f : α → Except ε β) (given : Option α) :
    (∃ result, given.mapM f = .ok result) ↔ ∀ a, given = some a → ∃ b, f a = .ok b := by
  cases given with
  | none => simp [pure, Except.pure]
  | some a => cases made : f a <;> simp [made, Functor.map, Except.map]

theorem forall₂_of_mapM (f : α → Except ε β) (list : List α) (results : List β)
    (success : list.mapM f = .ok results) : List.Forall₂ (fun a b => f a = .ok b) list results := by
  induction list generalizing results with
  | nil =>
    cases success
    exact .nil
  | cons a rest ih =>
    simp only [List.mapM_cons, bind_eq_ok_iff] at success
    obtain ⟨first, made, others, tail, joined⟩ := success
    cases joined
    exact .cons made (ih others tail)

theorem forall_mem_of_forall₂ {Q : β → Prop} {left : List α} {right : List β}
    (related : List.Forall₂ (fun _ b => Q b) left right) : ∀ b ∈ right, Q b := by
  induction related with
  | nil => simp
  | cons first _ ih => exact List.forall_mem_cons.mpr ⟨first, ih⟩

end SpanAnnotation
