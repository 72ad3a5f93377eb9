import SpanAnnotation.Text.Lowercase

/-!
The small form of a text is final: it is its own small form. No character of it is a capital, and no
sigma is left whose form depends on what stands around it.
-/

set_option autoImplicit false

namespace SpanAnnotation.Text

namespace Shifts

/-- No code point of a stride moves: where the stride meets an entry, the two alternate. -/
def spares (first last step : Nat) : Shifts → Bool
  | [] => true
  | (start, stop, every, _) :: rest =>
      Nat.blt last start ||
        ((Nat.blt stop first ||
          (Nat.beq every 2 && (Nat.beq step 2 || Nat.beq first last) &&
            Nat.beq ((first + start) % 2) 1)) && spares first last step rest)

theorem apply_of_spares (first last step place : Nat) (shifts : Shifts)
    (spared : spares first last step shifts = true) (inside : first + place * step ≤ last) :
    apply shifts (first + place * step) = first + place * step := by
  induction shifts with
  | nil => rfl
  | cons entry rest ih =>
    obtain ⟨start, stop, every, shift⟩ := entry
    rw [apply]
    by_cases early : first + place * step < start
    next => rw [if_pos early]
    next =>
      simp only [spares, Bool.or_eq_true, Bool.and_eq_true, Nat.blt_eq, Nat.beq_eq] at spared
      have reached : ¬ last < start := by omega
      obtain ⟨apart, later⟩ := spared.resolve_left reached
      have missed : (decide (first + place * step ≤ stop) &&
          (first + place * step - start) % every == 0) = false := by
        rw [Bool.and_eq_false_imp, decide_eq_true_eq, beq_eq_false_iff_ne]
        intro within
        obtain before | ⟨⟨rfl, steady⟩, parity⟩ := apart
        next => omega
        next =>
          obtain rfl | rfl := steady
          next => omega
          next => omega
      rw [if_neg early, missed]
      exact ih later

theorem apply_cases (shifts : Shifts) (code : Nat) :
    apply shifts code = code ∨
      ∃ first last step shift place, (first, last, step, shift) ∈ shifts ∧
        code = first + place * step ∧ code ≤ last ∧
        apply shifts code = (Int.ofNat code + shift).toNat := by
  induction shifts with
  | nil => exact .inl rfl
  | cons entry rest ih =>
    obtain ⟨first, last, step, shift⟩ := entry
    rw [apply]
    split
    next => exact .inl rfl
    next late =>
      split
      next hit =>
        rw [Bool.and_eq_true, decide_eq_true_eq, beq_iff_eq] at hit
        have steps := Nat.div_mul_cancel (Nat.dvd_of_mod_eq_zero hit.2)
        exact .inr ⟨first, last, step, shift, (code - first) / step, by simp, by omega, hit.1, rfl⟩
      next =>
        refine ih.imp_right fun ⟨first, last, step, shift, place, listed, rest⟩ => ?_
        exact ⟨first, last, step, shift, place, List.mem_cons_of_mem _ listed, rest⟩

end Shifts

-- Single characters.

/-- Where the code points of an entry go they stay, and these are characters other than the dotted
capital I. -/
def settles (entry : Nat × Nat × Nat × Int) : Bool :=
  let start := (Int.ofNat entry.1 + entry.2.2.2).toNat
  let stop := (Int.ofNat entry.2.1 + entry.2.2.2).toNat
  decide (0 ≤ Int.ofNat entry.1 + entry.2.2.2) &&
    Shifts.spares start stop entry.2.2.1 lowercaseShifts &&
    (Nat.blt stop 0x130 || Nat.blt 0x130 start) &&
    (Nat.blt stop 0xD800 || (Nat.blt 0xDFFF start && Nat.blt stop 0x110000))

theorem lowercaseShifts_settle : lowercaseShifts.all settles = true := by decide +kernel

/-- The character is not a capital, in any context. -/
structure IsSmall (c : Char) : Prop where
  settled : lowercaseShifts.apply c.toNat = c.toNat
  undotted : c.toNat ≠ 0x130

theorem toNat_ofNat (code : Nat) (valid : code.isValidChar) : (Char.ofNat code).toNat = code := by
  rw [Char.ofNat, dif_pos valid]
  rfl

theorem isSmall_ofNat (code : Nat) (undotted : code ≠ 0x130) (valid : code.isValidChar) :
    IsSmall (Char.ofNat (lowercaseShifts.apply code)) := by
  obtain same | ⟨first, last, step, shift, place, listed, rfl, inside, moved⟩ :=
    Shifts.apply_cases lowercaseShifts code
  next =>
    rw [same]
    exact ⟨by rw [toNat_ofNat code valid, same], by rwa [toNat_ofNat code valid]⟩
  next =>
    have settled := List.all_eq_true.mp lowercaseShifts_settle _ listed
    simp only [settles, Bool.and_eq_true, Bool.or_eq_true, decide_eq_true_eq, Nat.blt_eq] at settled
    obtain ⟨⟨⟨positive, spared⟩, apart⟩, plane⟩ := settled
    have code : (Int.ofNat (first + place * step) + shift).toNat =
        (Int.ofNat first + shift).toNat + place * step := by
      simp only [Int.ofNat_eq_natCast] at positive ⊢
      omega
    have bound : (Int.ofNat first + shift).toNat + place * step ≤
        (Int.ofNat last + shift).toNat := by
      simp only [Int.ofNat_eq_natCast] at positive ⊢
      omega
    have stays := Shifts.apply_of_spares _ _ step place lowercaseShifts spared bound
    have valid : ((Int.ofNat first + shift).toNat + place * step).isValidChar := by
      unfold Nat.isValidChar
      omega
    rw [moved, code]
    exact ⟨by rw [toNat_ofNat _ valid, stays], by rw [toNat_ofNat _ valid]; omega⟩

theorem isSmall_of_mem_lowerChar (c d : Char) (listed : d ∈ lowerChar c) : IsSmall d := by
  unfold lowerChar at listed
  split at listed
  next =>
    obtain rfl | rfl : d = 'i' ∨ d = Char.ofNat 0x307 := by simpa using listed
    · exact ⟨by decide, by decide⟩
    · exact ⟨by decide, by decide⟩
  next plain =>
    obtain rfl := List.mem_singleton.mp listed
    exact isSmall_ofNat c.toNat (by simpa using plain) c.valid

-- Texts.

theorem isSmall_of_mem_lowerFrom (before cs : List Char) :
    ∀ d ∈ lowerFrom before cs, IsSmall d := by
  induction cs generalizing before with
  | nil => simp [lowerFrom]
  | cons c rest ih =>
    rw [lowerFrom, List.forall_mem_append]
    refine ⟨?_, ih (c :: before)⟩
    split
    next =>
      rw [List.forall_mem_singleton]
      split
      · exact ⟨by decide, by decide⟩
      · exact ⟨by decide, by decide⟩
    next => exact isSmall_of_mem_lowerChar c

theorem lowerFrom_eq_self (before cs : List Char) (small : ∀ c ∈ cs, IsSmall c) :
    lowerFrom before cs = cs := by
  induction cs generalizing before with
  | nil => rfl
  | cons c rest ih =>
    obtain ⟨first, later⟩ := List.forall_mem_cons.mp small
    have sigma : c.toNat ≠ 0x3A3 := by
      intro capital
      have moves := first.settled
      rw [capital] at moves
      exact absurd moves (by decide)
    have kept : lowerChar c = [c] := by
      simp [lowerChar, first.undotted, first.settled]
    simp [lowerFrom, sigma, kept, ih (c :: before) later]

theorem lowercase_lowercase (text : String) : lowercase (lowercase text) = lowercase text := by
  have small := isSmall_of_mem_lowerFrom [] text.toList
  rw [lowercase, lowercase, String.toList_ofList, lowerFrom_eq_self [] _ small]

end SpanAnnotation.Text
