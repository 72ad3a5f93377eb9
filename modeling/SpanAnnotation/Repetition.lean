/-!
The first name of a list that stands there a second time.
-/

set_option autoImplicit false

namespace SpanAnnotation

def firstRepeatedAfter (seen : List String) : List String → Option String
  | [] => none
  | name :: rest =>
      if seen.contains name then some name else firstRepeatedAfter (name :: seen) rest

def firstRepeated (names : List String) : Option String := firstRepeatedAfter [] names

theorem firstRepeatedAfter_eq_none_iff (seen names : List String) :
    firstRepeatedAfter seen names = none ↔ names.Nodup ∧ ∀ name ∈ names, name ∉ seen := by
  induction names generalizing seen with
  | nil => simp [firstRepeatedAfter]
  | cons name rest ih =>
    by_cases present : name ∈ seen
    · simp [firstRepeatedAfter, present]
    · simp only [firstRepeatedAfter, List.contains_iff_mem, present, if_false, ih,
        List.nodup_cons, List.mem_cons, forall_eq_or_imp, not_false_eq_true, true_and]
      constructor
      · rintro ⟨distinct, fresh⟩
        exact ⟨⟨fun again => fresh name again (.inl rfl), distinct⟩,
          fun other mem old => fresh other mem (.inr old)⟩
      · rintro ⟨⟨once, distinct⟩, fresh⟩
        refine ⟨distinct, fun other mem old => ?_⟩
        rcases old with same | old
        · exact once (same ▸ mem)
        · exact fresh other mem old

theorem firstRepeated_eq_none_iff (names : List String) :
    firstRepeated names = none ↔ names.Nodup := by
  simp [firstRepeated, firstRepeatedAfter_eq_none_iff]

end SpanAnnotation
