import SpanAnnotation.Wire.Number

/-!
Whole numbers written in decimal and read back. Up to 64 bits they keep their value; a larger one
comes back as something that is not a whole number.
-/

set_option autoImplicit false

namespace SpanAnnotation.Wire

/-- The text does not go on with a number. -/
def EndsNumber (rest : List Char) : Prop :=
  ∀ c, rest.head? = some c → c.isDigit = false ∧ c ≠ '.' ∧ c ≠ 'e' ∧ c ≠ 'E'

theorem endsNumber_nil : EndsNumber [] := by simp [EndsNumber]

def AllDigits (digits : List Char) : Prop := ∀ c ∈ digits, c.isDigit = true

-- Reading digits does not look beyond them.

theorem gather_append (significand count : Nat) (digits rest : List Char)
    (ends : EndsNumber rest) :
    gather significand count (digits ++ rest) =
      ((gather significand count digits).1, (gather significand count digits).2.1,
        (gather significand count digits).2.2 ++ rest) := by
  induction digits generalizing significand count with
  | nil =>
    cases rest with
    | nil => rfl
    | cons c rest => simp [gather, (ends c rfl).1]
  | cons c digits ih =>
    simp only [List.cons_append, gather]
    split
    · exact ih _ _
    · rfl

theorem gather_rest_suffix (significand count : Nat) (digits : List Char) :
    (gather significand count digits).2.2 <:+ digits := by
  induction digits generalizing significand count with
  | nil => exact List.suffix_refl []
  | cons c digits ih =>
    simp only [gather]
    split
    · exact (ih _ _).trans (List.suffix_cons c digits)
    · exact List.suffix_refl _

theorem countDigits_append (digits rest : List Char) (all : AllDigits digits)
    (ends : EndsNumber rest) : countDigits (digits ++ rest) = (digits.length, rest) := by
  induction digits with
  | nil =>
    cases rest with
    | nil => rfl
    | cons c rest => simp [countDigits, (ends c rfl).1]
  | cons c digits ih =>
    have tail := ih fun other present => all other (List.mem_cons_of_mem c present)
    simp [countDigits, all c (by simp), tail]

def digitsValue (negative : Bool) (digits : List Char) : Value :=
  let (significand, _, lost) := gather 0 0 digits
  if lost.length = 0 then wholeValue negative significand
  else scaledValue negative significand lost.length

theorem no_leadingZero (first : Char) (digits rest : List Char)
    (proper : first = '0' → digits = []) (ends : EndsNumber rest) :
    (first == '0' && ((digits ++ rest).head?.map Char.isDigit).getD false) = false := by
  by_cases zero : first = '0'
  · rw [proper zero, List.nil_append]
    cases found : rest.head? with
    | none => simp
    | some c => simp [(ends c found).1]
  · simp [zero]

theorem unsignedNumber_digits (negative : Bool) (first : Char) (digits rest : List Char)
    (all : AllDigits (first :: digits)) (proper : first = '0' → digits = [])
    (ends : EndsNumber rest) :
    unsignedNumber negative (first :: digits ++ rest) =
      some (digitsValue negative (first :: digits), rest) := by
  have lostDigits : AllDigits (gather 0 0 (first :: digits)).2.2 := fun c present =>
    all c ((gather_rest_suffix 0 0 (first :: digits)).subset present)
  have taken := gather_append 0 0 (first :: digits) rest ends
  rw [List.cons_append] at taken
  simp only [List.cons_append, unsignedNumber, all first (by simp), Bool.not_true,
    Bool.false_eq_true, if_false, no_leadingZero first digits rest proper ends, taken,
    countDigits_append _ rest lostDigits ends, digitsValue]
  cases rest with
  | nil =>
    simp only
    split <;> rfl
  | cons mark rest =>
    obtain ⟨_, noPoint, noSmall, noLarge⟩ := ends mark rfl
    split
    · simp_all
    next _ other _ _ following =>
      obtain ⟨rfl, rfl⟩ := List.cons.inj following
      simp only [beq_iff_eq, noSmall, noLarge, or_self, Bool.or_eq_true, if_false]
      split <;> rfl
    next impossible => simp at impossible

-- The value of the digits of a number.

theorem le_ofDigitChars (digits : List Char) (start : Nat) :
    start ≤ Nat.ofDigitChars 10 digits start := by
  rw [Nat.ofDigitChars_eq_ofDigitChars_zero]
  have positive : 0 < 10 ^ digits.length := Nat.pow_pos (by decide)
  exact Nat.le_trans (Nat.le_mul_of_pos_left start positive) (Nat.le_add_right _ _)

/-- All digits are taken in exactly when their value stays below the limit. -/
theorem gather_digits (significand count : Nat) (digits : List Char) (all : AllDigits digits)
    (small : significand < natLimit) :
    if Nat.ofDigitChars 10 digits significand < natLimit then
      gather significand count digits =
        (Nat.ofDigitChars 10 digits significand, count + digits.length, [])
    else (gather significand count digits).2.2 ≠ [] := by
  induction digits generalizing significand count with
  | nil => simp [small, gather]
  | cons c digits ih =>
    have tail : AllDigits digits := fun other present => all other (List.mem_cons_of_mem c present)
    have grown : 10 * significand + (c.toNat - '0'.toNat) = significand * 10 + digitValue c := by
      rw [Nat.mul_comm, digitValue]
    simp only [gather, all c (by simp), Bool.true_and, decide_eq_true_eq, Nat.ofDigitChars_cons,
      grown]
    by_cases within : significand * 10 + digitValue c < natLimit
    · simpa [within, Nat.add_assoc, Nat.add_comm 1] using ih _ (count + 1) tail within
    · have large := le_ofDigitChars digits (significand * 10 + digitValue c)
      have outside : ¬ Nat.ofDigitChars 10 digits (significand * 10 + digitValue c) < natLimit := by
        omega
      simp [within, outside]

theorem allDigits_toDigits (n : Nat) : AllDigits (Nat.toDigits 10 n) := fun _ present =>
  Nat.isDigit_of_mem_toDigits (by decide) (by decide) present

theorem toDigits_proper (n : Nat) (rest : List Char) (zero : Nat.toDigits 10 n = '0' :: rest) :
    rest = [] := by
  induction n using Nat.strongRecOn generalizing rest with
  | _ n ih =>
    rw [Nat.toDigits_eq_if (by decide)] at zero
    split at zero
    · simpa using (List.cons.inj zero).2.symm
    next large =>
      obtain ⟨first, others, digits⟩ := List.exists_cons_of_ne_nil (Nat.toDigits_ne_nil (b := 10)
        (n := n / 10))
      rw [digits, List.cons_append] at zero
      obtain ⟨rfl, _⟩ := List.cons.inj zero
      have alone := ih (n / 10) (by omega) others digits
      have value : Nat.ofDigitChars 10 (Nat.toDigits 10 (n / 10)) 0 = n / 10 :=
        Nat.ofDigitChars_ten_toDigits
      rw [digits, alone] at value
      have : Nat.ofDigitChars 10 ['0'] 0 = 0 := rfl
      omega

/-- What a whole number becomes when it is written and read. -/
def settledNumber (n : Int) : Value := digitsValue (decide (n < 0)) (Nat.toDigits 10 n.natAbs)

theorem toList_toString_int (n : Int) :
    (toString n).toList =
      if n < 0 then '-' :: Nat.toDigits 10 n.natAbs else Nat.toDigits 10 n.natAbs := by
  rw [Int.toString_eq_repr, Int.repr_eq_if]
  by_cases negative : n < 0
  · have size : (-n).toNat = n.natAbs := by omega
    simp [negative, Int.not_le.mpr negative, size]
  · have size : n.toNat = n.natAbs := by omega
    simp [negative, Int.not_lt.mp negative, size]

theorem readNumber_toString (n : Int) (rest : List Char) (ends : EndsNumber rest) :
    readNumber ((toString n).toList ++ rest) = some (settledNumber n, rest) := by
  obtain ⟨first, others, digits⟩ := List.exists_cons_of_ne_nil (Nat.toDigits_ne_nil (b := 10)
    (n := n.natAbs))
  have all := allDigits_toDigits n.natAbs
  have proper : first = '0' → others = [] := fun zero =>
    toDigits_proper n.natAbs others (zero ▸ digits)
  rw [digits] at all
  rw [toList_toString_int, settledNumber, digits]
  split
  next negative =>
    rw [List.cons_append, readNumber, unsignedNumber_digits true first others rest all proper ends]
    simp [negative]
  next natural =>
    have unsigned : ∀ cs, readNumber (first :: cs) = unsignedNumber false (first :: cs) := by
      intro cs
      unfold readNumber
      split
      next sign =>
        have digit := all first (by simp)
        rw [(List.cons.inj sign).1] at digit
        exact absurd digit (by decide)
      next => rfl
    rw [List.cons_append, unsigned, ← List.cons_append,
      unsignedNumber_digits false first others rest all proper ends]
    simp [natural]

theorem settledNumber_ofNat (n : Nat) (small : n < natLimit) : settledNumber n = ofNat n := by
  have taken := gather_digits 0 0 (Nat.toDigits 10 n) (allDigits_toDigits n) (by decide)
  rw [Nat.ofDigitChars_ten_toDigits, if_pos small] at taken
  have natural : ¬ (n : Int) < 0 := by omega
  simp [settledNumber, digitsValue, natural, taken, wholeValue, ofNat]

theorem readNat_settledNumber (n m : Nat) (found : readNat (settledNumber n) = .ok m) : m = n := by
  by_cases small : n < natLimit
  · rw [settledNumber_ofNat n small, readNat_ofNat n small] at found
    exact (Except.ok.inj found).symm
  · have taken := gather_digits 0 0 (Nat.toDigits 10 n) (allDigits_toDigits n) (by decide)
    rw [Nat.ofDigitChars_ten_toDigits, if_neg small, ne_eq, ← List.length_eq_zero_iff] at taken
    have natural : ¬ (n : Int) < 0 := by omega
    simp only [settledNumber, digitsValue, natural, decide_false, Int.natAbs_natCast, taken,
      if_false, scaledValue] at found
    split at found <;> simp [readNat] at found

end SpanAnnotation.Wire
