import SpanAnnotation.Wire.Json

/-!
Quoted strings read back: each character is written in a form from which the reader takes exactly
that character.
-/

set_option autoImplicit false

namespace SpanAnnotation.Wire.Json

theorem hexCode?_hexPair (code : Nat) (small : code < 0x20) :
    ∃ high low, (hexPair code).toList = [high, low] ∧ hexCode? '0' '0' high low = some code := by
  have both : ∀ code < 0x20,
      hexCode? '0' '0' (Char.ofNat (if code / 16 < 10 then 48 + code / 16 else 87 + code / 16))
        (Char.ofNat (if code % 16 < 10 then 48 + code % 16 else 87 + code % 16)) = some code := by
    decide
  exact ⟨_, _, String.toList_ofList, both code small⟩

theorem pushCode_toNat (draft : Draft) (c : Char) (small : c.toNat < 0x20) :
    draft.pushCode c.toNat = draft.push c := by
  have noLead : isLead c.toNat = false := by
    simp only [isLead, Bool.and_eq_false_iff, decide_eq_false_iff_not]
    omega
  have noTrail : isTrail c.toNat = false := by
    simp only [isTrail, Bool.and_eq_false_iff, decide_eq_false_iff_not]
    omega
  simp [Draft.pushCode, noLead, noTrail]

theorem readString_plain (draft : Draft) (c : Char) (rest : List Char) (noQuote : c ≠ '"')
    (noSlash : c ≠ '\\') (large : ¬ c.toNat < 0x20) :
    readString draft (c :: rest) = readString (draft.push c) rest := by
  have accepted : ¬ (decide (c.toNat < 0x20) || c == '\\') = true := by
    simp only [Bool.or_eq_true, decide_eq_true_eq, beq_iff_eq, large, noSlash, or_self,
      not_false_eq_true]
  rw [readString, if_neg accepted]
  · exact noQuote
  · intro _ _ _ _ _ slash
    exact absurd slash noSlash
  · intro _ _ slash
    exact absurd slash noSlash

theorem readString_escape (draft : Draft) (c : Char) (rest : List Char) :
    readString draft ((escape c).toList ++ rest) = readString (draft.push c) rest := by
  unfold escape
  split
  next same => simp_all [readString, plainEscape?]
  split
  next same => simp_all [readString, plainEscape?]
  split
  next same => simp_all [readString, plainEscape?]
  split
  next same => simp_all [readString, plainEscape?]
  split
  next same => simp_all [readString, plainEscape?]
  split
  next same => simp_all [readString, plainEscape?]
  split
  next same => simp_all [readString, plainEscape?]
  split
  next small =>
    obtain ⟨high, low, written, code⟩ := hexCode?_hexPair c.toNat small
    simp [written, readString, code, pushCode_toNat draft c small]
  next noQuote noSlash _ _ _ _ _ large =>
    simpa using readString_plain draft c rest (by simpa using noQuote) (by simpa using noSlash)
      large

theorem readString_escapes (draft : Draft) (cs rest : List Char) (whole : draft.sound = true)
    (single : draft.lead = none) :
    readString draft (cs.flatMap (fun c => (escape c).toList) ++ '"' :: rest) =
      some (some (String.ofList (draft.text.reverse ++ cs)), rest) := by
  induction cs generalizing draft with
  | nil => simp [readString, Draft.finish, whole, single]
  | cons c cs ih =>
    have tail := ih (draft.push c) (by simp [Draft.push, whole, single]) rfl
    rw [List.flatMap_cons, List.append_assoc, readString_escape, tail]
    simp [Draft.push]

theorem toList_quoted (s : String) :
    (quoted s).toList = '"' :: s.toList.flatMap (fun c => (escape c).toList) ++ ['"'] := by
  simp [quoted, List.flatMap_map]

theorem readString_quoted (s : String) (rest : List Char) :
    readString .empty (s.toList.flatMap (fun c => (escape c).toList) ++ '"' :: rest) =
      some (some s, rest) := by
  rw [readString_escapes .empty s.toList rest rfl rfl]
  simp [Draft.empty]

end SpanAnnotation.Wire.Json
