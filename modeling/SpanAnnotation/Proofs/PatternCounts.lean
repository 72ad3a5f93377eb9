import SpanAnnotation.Proofs.PatternSets

/-!
Flags, names of groups and bounds of repetitions in front of the closing.
-/

set_option autoImplicit false

namespace SpanAnnotation.Pattern

open Scan Text

-- Flags.

def readFlags (draft : FlagDraft) : Scan (FlagDraft × Char) := fun s =>
  (flagsOf? draft s.rest).map fun found => ((found.1, found.2.1), { s with rest := found.2.2 })

theorem readFlags_push (draft : FlagDraft) (c : Char) (s : Cursor) :
    readFlags draft (s.push c) =
      (if c == ':' || c == ')' then if draft.dangling then refuse else pure (draft, c)
      else
        match draft.put? c with
        | some longer => readFlags longer
        | none => refuse : Scan (FlagDraft × Char)) s := by
  rw [readFlags, Cursor.push_rest, flagsOf?]
  split
  · split <;> rfl
  · cases draft.put? c <;> rfl

theorem flagsOf_suffix {draft found : FlagDraft} {c : Char} {cs rest : List Char}
    (read : flagsOf? draft cs = some (found, c, rest)) : rest <:+ cs.tail ∧ cs ≠ [] := by
  induction cs generalizing draft with
  | nil => contradiction
  | cons d cs ih =>
      refine ⟨?_, by simp⟩
      rw [flagsOf?] at read
      split at read
      · split at read
        · contradiction
        · cases read
          exact List.suffix_rfl
      · split at read
        · exact (ih read).1.trans (List.tail_suffix cs)
        · contradiction

theorem readFlags_takes (draft : FlagDraft) : Takes 1 (readFlags draft) := by
  intro s a t found
  obtain ⟨⟨last, c, rest⟩, read, same⟩ := Option.map_eq_some_iff.mp found
  cases same
  obtain ⟨left, some_here⟩ := flagsOf_suffix read
  have less := left.length_le
  have long := List.length_pos_iff.mpr some_here
  rw [List.length_tail] at less
  exact ⟨left.trans (List.tail_suffix _), by dsimp only; omega⟩

theorem readFlags_framed (draft : FlagDraft) (k : Nat) :
    Framed never k (readFlags draft) (readFlags draft) := by
  induction k using Nat.strongRecOn generalizing draft with
  | ind k ih =>
      refine .of_taking (readFlags_takes draft) (readFlags_takes draft) (readFlags_push draft)
        (readFlags_push draft) fun less c eq => ?_
      split
      · split
        · exact .refuse
        · exact .pure _
      · split
        · exact ih less (by omega) _
        · exact .refuse

-- Names.

theorem readName_eq (s : Cursor) :
    readName s =
      match s.rest.takeWhile (· != '>'), s.rest.dropWhile (· != '>') with
      | first :: others, _ :: after =>
          let key := String.ofList (first :: others)
          if startsName first && others.all continuesName && !s.names.contains key then
            some ((), { s with rest := after, names := key :: s.names })
          else none
      | _, _ => none := by
  rw [readName, remaining_bind]
  cases name : s.rest.takeWhile (· != '>') with
  | nil => rfl
  | cons first others =>
      cases left : s.rest.dropWhile (· != '>') with
      | nil => rfl
      | cons c after =>
          obtain rfl : c = '>' := by
            have stops := List.head?_dropWhile_not (· != '>') s.rest
            simpa [left] using stops
          rfl

theorem readName_framed (k : Nat) : Framed never k readName readName := by
  have takes : Takes 0 readName := by
    refine .of_suffix fun s a t found => ?_
    rw [readName_eq] at found
    split at found
    next first others c after name left =>
      dsimp only at found
      split at found
      · cases found
        have suffix := List.dropWhile_suffix (l := s.rest) (· != '>')
        rw [left] at suffix
        exact (List.suffix_cons c after).trans suffix
      · contradiction
    next => contradiction
  refine ⟨takes, takes, fun _ _ => rfl, fun s left _ => ?_⟩
  rw [readName_eq, readName_eq, Cursor.followed_rest]
  cases ends : s.rest.dropWhile (· != '>') with
  | nil =>
      have ends' : (s.rest ++ closing).dropWhile (· != '>') = [] := by
        rw [List.dropWhile_append, ends]
        decide
      rw [ends']
      cases s.rest.takeWhile (· != '>') <;> cases (s.rest ++ closing).takeWhile (· != '>') <;>
        exact ⟨by simp, by simp⟩
  | cons c after =>
      rw [takeWhile_closing_of_cons ends, dropWhile_closing_of_cons ends]
      cases s.rest.takeWhile (· != '>') with
      | nil => exact ⟨by simp, by simp⟩
      | cons first others =>
          have names : s.followed.names = s.names := rfl
          simp only [names]
          split
          · exact .of_eq rfl
          · exact ⟨by simp, by simp⟩

-- Counts.

theorem skipBlanks_takes : Takes 0 skipBlanks := by
  refine .of_suffix ?_
  rintro s a t ⟨⟩
  exact List.dropWhile_suffix (l := s.rest) isBlank

theorem skipBlanks_framed (k : Nat) : Framed never k skipBlanks skipBlanks := by
  refine ⟨skipBlanks_takes, skipBlanks_takes, fun _ _ => rfl, fun s left _ => .of_eq ?_⟩
  change some ((), { s with rest := (s.rest ++ closing).dropWhile isBlank }) = _
  rw [dropWhile_closing (by decide)]
  rfl

theorem readDigits_push (value : Option Nat) (fuel : Nat) (c : Char) (s : Cursor) :
    readDigits value (fuel + 1) (s.push c) =
      if c.isDigit then
        readDigits (some (value.getD 0 * 10 + (c.toNat - '0'.toNat))) fuel s.skipped
      else some (value, s.push c) := by
  rw [readDigits, remaining_bind]
  simp only [Cursor.push_rest]
  split
  · rw [bind_of_eq_some (advanceTo_push c s)]
  · rfl

theorem readDigits_ended (value : Option Nat) (fuel : Nat) {s : Cursor} (ended : s.rest = []) :
    readDigits value (fuel + 1) s = some (value, s) := by
  rw [readDigits, remaining_bind, ended]
  rfl

theorem readDigits_takes (value : Option Nat) (fuel : Nat) : Takes 0 (readDigits value fuel) := by
  induction fuel generalizing value with
  | zero => exact .refuse
  | succ fuel ih =>
      refine .of_suffix fun s a t found => ?_
      rcases s.push_of_rest with ended | ⟨u, c, rfl⟩
      · rw [readDigits_ended value fuel ended] at found
        cases found
        exact List.suffix_rfl
      rw [readDigits_push] at found
      split at found
      · exact ((ih _).suffix found).trans (u.skipped_suffix.trans (List.suffix_cons c u.rest))
      · cases found
        exact List.suffix_rfl

theorem readDigits_framed {value : Option Nat} {k m n : Nat} (enough : k < m) (enough' : k < n) :
    Framed never k (readDigits value m) (readDigits value n) := by
  induction k using Nat.strongRecOn generalizing value m n with
  | ind k ih =>
      obtain ⟨m, rfl⟩ : ∃ less, m = less + 1 := ⟨m - 1, by omega⟩
      obtain ⟨n, rfl⟩ : ∃ less, n = less + 1 := ⟨n - 1, by omega⟩
      refine .of_chars (readDigits_takes value _) (readDigits_takes value _)
        (fun s ended => by rw [readDigits_ended value m ended, readDigits_ended value n ended])
        (fun s left ended => ?_) fun c s left short => ?_
      · obtain ⟨u, same⟩ := Cursor.followed_closes ended
        rw [readDigits_ended value m ended, same, readDigits_push, if_neg (by decide), ← same]
        exact .of_eq rfl
      · rw [readDigits_push, readDigits_push]
        split
        · rw [← bind_of_eq_some (skipSpace_eq s) fun _ => readDigits _ m,
            ← bind_of_eq_some (skipSpace_eq s.followed) fun _ => readDigits _ n]
          cases k with
          | zero =>
              exact .of_takes (Takes.skipSpace.bind fun _ => readDigits_takes _ m)
                (Takes.skipSpace.bind fun _ => readDigits_takes _ n) short
          | succ k =>
              refine (Framed.bind .skipSpace fun _ => ?_).agree s left (Nat.le_of_lt_succ short)
              exact ih k (Nat.lt_succ_self k) (by omega) (by omega)
        · exact .of_eq rfl

def readAllDigits : Scan (Option Nat) := fun s => readDigits none (s.rest.length + 1) s

theorem readCount_eq : readCount = (do
    skipBlanks
    let count ← readAllDigits
    skipBlanks
    skipSpace
    match count with
    | some n => if n < countLimit then return some n else refuse
    | none => return none) := rfl

theorem readCount_framed (k : Nat) : Framed never k readCount readCount := by
  rw [readCount_eq]
  refine .bind (skipBlanks_framed k) fun _ => .bind
    (.of_fuel fun less m n enough enough' => readDigits_framed (by omega) (by omega)) fun count =>
      .bind (skipBlanks_framed k) fun _ => .bind .skipSpace fun _ => ?_
  cases count with
  | none => exact .pure none
  | some n =>
      dsimp only
      split
      · exact .pure _
      · exact .refuse

def readBoundsEnd (least : Nat) (most : Option Nat) : Scan (Nat × Option Nat) := do
  match ← remaining with
  | '\x7d' :: rest =>
      moveTo rest
      if least ≤ most.getD least then return (least, most) else refuse
  | _ => refuse

/-- The bounds of a repetition after a comma. -/
def readMost (least : Nat) : Scan (Nat × Option Nat) := do
  match ← remaining with
  | '\x7d' :: _ => readBoundsEnd least none
  | _ =>
      let most ← ofOption (← readCount)
      readBoundsEnd least (some most)

/-- The bounds of a repetition after the least number. -/
def readBoundsFrom (least : Nat) : Scan (Nat × Option Nat) := do
  match ← remaining with
  | ',' :: rest =>
      advanceTo rest
      readMost least
  | _ => readBoundsEnd least (some least)

theorem readBounds_eq : readBounds = (do
    skipSpace
    let least ← ofOption (← readCount)
    readBoundsFrom least) := by
  rw [readBounds]
  simp only [map_eq_pure_bind, bind_assoc, pure_bind]
  rfl

theorem readBoundsEnd_framed (least : Nat) (most : Option Nat) (k : Nat) :
    Framed never k (readBoundsEnd least most) (readBoundsEnd least most) := by
  refine .self_of_mark '\x7d'
    (if least ≤ most.getD least then pure (least, most) else refuse) refuse
    (by decide) (fun _ => rfl) (fun s other => ?_) (fun k => ?_) fun _ => .refuse
  · rw [readBoundsEnd, remaining_bind]
    simp [Cursor.rest_ne other]
  · split
    · exact .pure _
    · exact .refuse

theorem readMost_framed (least k : Nat) : Framed never k (readMost least) (readMost least) := by
  refine .self_of_mark '\x7d' (pure (least, none))
    (do
      let most ← ofOption (← readCount)
      readBoundsEnd least (some most)) (by decide) (fun s => ?_) (fun s other => ?_)
    (fun k => .pure _) fun k => .bind (readCount_framed k) fun _ => .bind (.ofOption _) fun most =>
      readBoundsEnd_framed least (some most) k
  · change (if least ≤ least then pure (least, none) else refuse : Scan (Nat × Option Nat)) s = _
    rw [if_pos (Nat.le_refl least)]
  · rw [readMost, remaining_bind]
    simp [Cursor.rest_ne other]

theorem readBounds_framed (k : Nat) : Framed never k readBounds readBounds := by
  rw [readBounds_eq]
  refine .bind .skipSpace fun _ => .bind (readCount_framed k) fun _ => .bind (.ofOption _)
    fun least => .self_of_mark ',' (skipSpace >>= fun _ => readMost least)
      (readBoundsEnd least (some least)) (by decide) (fun s => rfl) (fun s other => ?_)
      (fun k => .bind .skipSpace fun _ => readMost_framed least k)
      fun k => readBoundsEnd_framed least _ k
  rw [readBoundsFrom, remaining_bind]
  simp [Cursor.rest_ne other]

end SpanAnnotation.Pattern
