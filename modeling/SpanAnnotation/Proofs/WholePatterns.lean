import SpanAnnotation.Proofs.PatternGroups

/-!
Patterns that ask the whole text to match. Such a pattern is put as a text into a group between the
start and the end of the text; it is read there as it is read alone, unless it ends in a comment
that takes the end of the group in. A text that is no pattern alone is none there, unless it closes
the group itself.
-/

set_option autoImplicit false

namespace SpanAnnotation.Pattern

open Scan

def Cursor.start (text : List Char) : Cursor := ⟨text, .initial, [], 0⟩

/-- What a pattern is read as, and where its reading ends. -/
def reading (text : List Char) : Option (Part × Cursor) :=
  readParts (2 * text.length + 2) [] [] (.start text)

/-- The text is read to its end, as this part. -/
def Parses (text : List Char) (part : Part) : Prop :=
  ∃ cursor, reading text = some (part, cursor) ∧ cursor.rest = []

def IsPattern (text : List Char) : Prop := ∃ part, Parses text part

/-- A pattern in its group, from the start to the end of the text. -/
def wrapped (text : List Char) : List Char := "^(?:".toList ++ (text ++ closing)

/-- A closing parenthesis without an opening one ends the reading. -/
def ClosesGroup (text : List Char) : Prop :=
  ∃ part cursor, reading text = some (part, cursor) ∧ cursor.rest ≠ []

/-- The text ends the group that it is put into, and opens another one for the end of the group. -/
def BreaksGroup (text : List Char) : Prop := ClosesGroup text ∧ IsPattern (wrapped text)

/-- A comment that is still open takes in what comes behind the pattern. -/
def LeavesComment (text : List Char) : Prop := IsPattern text ∧ IsPattern (text ++ closing)

instance (text : List Char) : Decidable (IsPattern text) :=
  decidable_of_iff ((reading text).any (fun found => found.2.rest.isEmpty) = true) <| by
    unfold IsPattern Parses
    rcases reading text with _ | ⟨part, cursor⟩ <;> simp [and_assoc]

instance (text : List Char) : Decidable (ClosesGroup text) :=
  decidable_of_iff ((reading text).any (fun found => !found.2.rest.isEmpty) = true) <| by
    unfold ClosesGroup
    rcases reading text with _ | ⟨part, cursor⟩ <;> simp [and_assoc]

instance (text : List Char) : Decidable (BreaksGroup text) := inferInstanceAs (Decidable (_ ∧ _))

instance (text : List Char) : Decidable (LeavesComment text) := inferInstanceAs (Decidable (_ ∧ _))

/-- What a pattern in its group is, when it is a given part alone. -/
def wholePart (part : Part) : Part :=
  sequenceOf [.plain (.look .textEnd), ⟨part.expression?.map (.group none), part.depth + 1⟩,
    .plain (.look .textStart)]

/-- The reading of the group with what stands behind it. -/
def readWhole (fuel : Nat) : Scan Part := do
  let inner ← readParts (fuel + 1) [] []
  let part ← readGroupEnd .initial none inner
  readParts (fuel + 2) [] [part, .plain (.look .textStart)]

theorem Cursor.skipped_of_unspaced {s : Cursor} (unspaced : s.flags.spaced = false) :
    s.skipped = s := by
  rw [Cursor.skipped, if_neg (by simp [unspaced])]

theorem readParts_push (fuel : Nat) (branches parts : List Part) {c : Char} {s : Cursor}
    (unspaced : s.flags.spaced = false) (inside : c ≠ ')') :
    readParts (fuel + 1) branches parts (s.push c) = readPartFrom fuel branches parts c s := by
  rw [readParts_succ, bind_of_eq_some (skipSpace_eq _),
    Cursor.skipped_of_unspaced (s := s.push c) unspaced, readPartsFrom_push _ _ _ _ inside]

/-- A group that keeps nothing and sets no flags. -/
theorem readGroup_plain (fuel : Nat) {s : Cursor} (flags : s.flags = .initial) :
    readGroup (fuel + 1) ((s.push ':').push '?') = (do
      let inner ← readParts fuel [] []
      readGroupEnd .initial none inner : Scan Part) s := by
  have opens : readOpening s.flags ((s.push ':').push '?') = some (some none, s) := by
    have colon : readFlags ⟨s.flags, [], false, false⟩ (s.push ':') =
        some ((⟨s.flags, [], false, false⟩, ':'), s) := by
      rw [readFlags_push]
      rfl
    change readQuestion s.flags (s.push ':') = _
    rw [readQuestion_flags _ (by simp) (by simp), readFlagGroup, bind_of_eq_some colon]
    rfl
  have plain : isLookaround ((s.push ':').push '?').rest = false := rfl
  rw [readGroup_succ, flags_bind, remaining_bind, plain]
  change (readOpening s.flags >>= readGroupFrom fuel s.flags) ((s.push ':').push '?') = _
  rw [bind_of_eq_some opens, flags]
  rfl

theorem readPartFrom_start (fuel : Nat) (branches parts : List Part) {s : Cursor}
    (flags : s.flags = .initial) :
    readPartFrom fuel branches parts '^' s =
      readParts fuel branches (.plain (.look .textStart) :: parts) s := by
  have start : readPrimitiveFrom '^' s = some (.plain (.look .textStart), s) := by
    rw [readPrimitiveFrom, flags_bind, flags]
    rfl
  exact bind_of_eq_some start _

theorem readPartFrom_end (fuel : Nat) (branches parts : List Part) {s : Cursor}
    (flags : s.flags = .initial) :
    readPartFrom fuel branches parts '$' s =
      readParts fuel branches (.plain (.look .textEnd) :: parts) s := by
  have ends : readPrimitiveFrom '$' s = some (.plain (.look .textEnd), s) := by
    rw [readPrimitiveFrom, flags_bind, flags]
    rfl
  exact bind_of_eq_some ends _

theorem reading_wrapped (text : List Char) :
    reading (wrapped text) = readWhole (2 * text.length + 10) (Cursor.start text).followed := by
  have length : (wrapped text).length = text.length + 6 := by
    rw [wrapped, List.length_append, List.length_append]
    simp
    omega
  rw [reading, length, show 2 * (text.length + 6) + 2 = 2 * text.length + 13 + 1 from by omega]
  generalize 2 * text.length = fuel
  have start : Cursor.start (wrapped text) =
      ((((Cursor.start text).followed.push ':').push '?').push '(').push '^' := rfl
  rw [start, readParts_push _ _ _ rfl (by decide), readPartFrom_start _ _ _ rfl,
    readParts_push _ _ _ rfl (by decide)]
  change (skipSpace >>= fun _ => readGroup (fuel + 11 + 1) >>= _) _ = _
  rw [bind_of_eq_some (skipSpace_eq _), Cursor.skipped_of_unspaced rfl,
    bind_congr_eq (readGroup_plain (fuel + 11) rfl), readWhole, bind_assoc]

/-- The closing is read when the pattern is read up to it. -/
theorem readWhole_of_followed {fuel : Nat} {s t : Cursor} {part : Part}
    (inner : readParts (fuel + 1) [] [] s = some (part, t.followed)) (ended : t.rest = []) :
    readWhole fuel s = some (wholePart part, { t with rest := [], flags := .initial }) := by
  have closes : t.followed = (Cursor.push { t with rest := ['$'] } ')') := by
    cases t
    cases ended
    rfl
  have group : readGroupEnd .initial none part t.followed =
      some (⟨part.expression?.map (.group none), part.depth + 1⟩,
        Cursor.push { t with rest := [], flags := .initial } '$') := by
    rw [closes]
    rfl
  rw [readWhole, bind_of_eq_some inner, bind_of_eq_some group, readParts_push _ _ _ rfl (by decide),
    readPartFrom_end _ _ _ rfl, readParts_succ, bind_of_eq_some (skipSpace_eq _),
    Cursor.skipped_of_unspaced rfl, readPartsFrom_ended _ _ _ rfl]
  rfl

theorem ClosesGroup.not_parses {text : List Char} (closes : ClosesGroup text) (part : Part) :
    ¬ Parses text part := by
  rintro ⟨cursor, read, ended⟩
  obtain ⟨_, _, also, more⟩ := closes
  rw [read] at also
  cases also
  exact more ended

theorem Parses.unique {text : List Char} {part other : Part} (parses : Parses text part)
    (also : Parses text other) : part = other := by
  obtain ⟨_, here, -⟩ := parses
  obtain ⟨_, there, -⟩ := also
  rw [here] at there
  cases there
  rfl

theorem parses_wrapped {text : List Char} {part : Part} (parses : Parses text part)
    (commentless : ¬ LeavesComment text) : Parses (wrapped text) (wholePart part) := by
  have ⟨t, read, ended⟩ := parses
  have framed := (groups_framed (k := text.length) (m := 2 * text.length + 2)
    (n := 2 * (text ++ closing).length + 2)).2 (by omega) (by simp; omega) [] []
  rcases (framed.agree (.start text) 0 (by simp [Cursor.start])).onward part t read (Nat.zero_le _)
    with kept | ⟨-, taken⟩
  · have inner := readParts_extends (n := 2 * text.length + 11) (by simp; omega) [] [] _ _ kept
    exact ⟨_, (reading_wrapped text).trans (readWhole_of_followed inner ended), rfl⟩
  · exact absurd ⟨⟨part, parses⟩, part, t, taken, ended⟩ commentless

/-- Where a comment takes the closing in, the group has no end. -/
theorem LeavesComment.not_parses_wrapped {text : List Char} (leaves : LeavesComment text)
    (whole : Part) : ¬ Parses (wrapped text) whole := by
  obtain ⟨-, part, t, taken, ended⟩ := leaves
  have inner := readParts_extends (n := 2 * text.length + 11) (by simp; omega) [] [] _ _ taken
  have refused : readGroupEnd .initial none part t = none := by
    rw [readGroupEnd, remaining_bind, ended]
    rfl
  rintro ⟨cursor, read, -⟩
  rw [reading_wrapped, readWhole] at read
  obtain ⟨part', u, inner', after⟩ := (bind_eq_some_iff _ _ _ _ _).mp read
  cases inner.symm.trans inner'
  obtain ⟨group, v, ends, -⟩ := (bind_eq_some_iff _ _ _ _ _).mp after
  rw [refused] at ends
  contradiction

theorem readGroupEnd_head {flags : Flags} {number? : Option Nat} {inner group : Part}
    {s t : Cursor} (found : readGroupEnd flags number? inner s = some (group, t)) :
    s.rest.head? = some ')' := by
  rcases s.push_of_rest with ended | ⟨u, c, rfl⟩
  · rw [readGroupEnd, remaining_bind, ended] at found
    cases found
  by_cases closes : c = ')'
  · simp [closes]
  · rw [readGroupEnd, remaining_bind] at found
    simp [closes] at found
    cases found

/-- A part of the closing that begins with the parenthesis is all of it. -/
theorem closing_of_suffix {cs text : List Char} (left : cs <:+ text ++ closing)
    (head : cs.head? = some ')') : closing.length ≤ cs.length := by
  obtain ⟨before, whole⟩ := left
  match cs with
  | [] => contradiction
  | [c] =>
      have last := congrArg List.getLast? whole
      simp [closing] at last
      simp [last] at head
  | c :: d :: rest => simp

theorem parses_of_wrapped {text : List Char} {whole : Part} (parses : Parses (wrapped text) whole)
    (apart : ¬ ClosesGroup text) : ∃ part, Parses text part ∧ whole = wholePart part := by
  obtain ⟨t, read, -⟩ := parses
  rw [reading_wrapped] at read
  obtain ⟨part, v, inner, after⟩ := (bind_eq_some_iff _ _ _ _ _).mp read
  obtain ⟨group, w, ends, -⟩ := (bind_eq_some_iff _ _ _ _ _).mp after
  have long := closing_of_suffix ((readParts_takes _ _ _).suffix inner) (readGroupEnd_head ends)
  have framed := (groups_framed (k := text.length) (m := 2 * text.length + 2)
    (n := 2 * text.length + 11)).2 (by omega) (by omega) [] []
  have agree := framed.agree (.start text) 0 (by simp [Cursor.start])
  rcases agree.back part v inner (by simpa using long) with ⟨u, rfl, alone⟩ | excluded
  · have ended : u.rest = [] := Decidable.byContradiction fun more => apart ⟨part, u, alone, more⟩
    rw [readWhole_of_followed inner ended] at read
    cases read
    exact ⟨part, ⟨u, alone, ended⟩, rfl⟩
  · exact excluded.elim

end SpanAnnotation.Pattern
