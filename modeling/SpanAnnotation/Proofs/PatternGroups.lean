import SpanAnnotation.Proofs.PatternCounts

/-!
Parts and groups in front of the closing: whole patterns are read there as they are read alone. More
steps than a reading needs change nothing.
-/

set_option autoImplicit false

namespace SpanAnnotation.Pattern

open Scan Text

variable {α β : Type}

-- Parts that are no groups.

theorem readGreed_framed (k : Nat) : Framed never k readGreed readGreed := by
  refine .bind .flags fun flags => .self_of_mark '?' (pure flags.swapped)
    (pure !flags.swapped) (by decide) (fun _ => rfl) (fun s other => ?_)
    (fun _ => .pure _) fun _ => .pure _
  rw [remaining_bind]
  simp [Cursor.rest_ne other]

theorem repeatLast_framed (parts : List Part) (least : Nat) (most : Option Nat) (k : Nat) :
    Framed never k (repeatLast parts least most) (repeatLast parts least most) := by
  refine .bind (readGreed_framed k) fun greedy => ?_
  cases parts with
  | nil => exact .refuse
  | cons part before =>
      dsimp only
      cases part.expression? with
      | none => exact .refuse
      | some expression => exact .pure _

/-- What a part that begins with a character is, from after that character on. -/
def readPrimitiveFrom (c : Char) : Scan Part := do
  let flags ← flags
  if c = '\\' then
    let atom ← readEscape
    let expression ← ofOption (atom.expression? flags)
    return .plain expression
  else if c = '.' then
    let chars ← ofOption (dot? flags)
    return .plain (.set chars)
  else if c = '^' then return .plain (.look (lineStart flags))
  else if c = '$' then return .plain (.look (lineEnd flags))
  else
    let chars ← ofOption (literalSet? flags c false)
    return .plain (.set chars)

theorem readPrimitive_push (c : Char) (s : Cursor) :
    readPrimitive (s.push c) = readPrimitiveFrom c s := by
  rw [readPrimitive, flags_bind, remaining_bind, readPrimitiveFrom, flags_bind]
  split
  next h => subst h; rfl
  split
  next h => subst h; rfl
  split
  next h => subst h; rfl
  split
  next h => subst h; rfl
  simp only [Cursor.push_rest]
  rfl

theorem readPrimitiveFrom_framed (c : Char) (k : Nat) :
    Framed (fun _ => Blocked) k (readPrimitiveFrom c) (readPrimitiveFrom c) := by
  refine .bind .flags fun flags => ?_
  split
  · refine .bind_of_blocked (readEscape_framed k)
      (fun atom => .bind (.ofOption _) fun _ => .pure _) ?_
    rintro atom t part u ⟨-, blocked⟩ found -
    obtain ⟨expression, v, here, there⟩ := (bind_eq_some_iff _ _ _ _ _).mp found
    obtain ⟨-, rfl⟩ := (ofOption_eq_some_iff _ _ _ _).mp here
    cases there
    exact blocked
  split
  · exact .bind (.ofOption _) fun _ => .pure _
  split
  · exact .pure _
  split
  · exact .pure _
  · exact .bind (.ofOption _) fun _ => .pure _

theorem readCount_closing {s : Cursor} (closes : s.rest = closing) :
    ∃ t, readCount s = some (none, t) := by
  have first : s.rest.head? = some ')' := by simp [closes, closing]
  obtain ⟨u, rfl⟩ := Cursor.push_of_head first
  have blanks : skipBlanks (u.push ')') = some ((), u.push ')') := by
    change some ((), { u.push ')' with rest := (u.push ')').rest.dropWhile isBlank }) = _
    rw [Cursor.push_rest, List.dropWhile_cons_of_neg (by decide)]
    rfl
  have digits : readAllDigits (u.push ')') = some (none, u.push ')') := by
    rw [readAllDigits, readDigits_push, if_neg (by decide)]
  rw [readCount_eq, bind_of_eq_some blanks, bind_of_eq_some digits, bind_of_eq_some blanks,
    bind_of_eq_some (skipSpace_eq _)]
  exact ⟨_, rfl⟩

theorem readBounds_blocked {s : Cursor} (blocked : s.skipped.rest = closing) :
    readBounds s = none := by
  obtain ⟨t, count⟩ := readCount_closing blocked
  rw [readBounds_eq, bind_of_eq_some (skipSpace_eq s), bind_of_eq_some count]
  rfl

-- Groups.

theorem isLookaround_closing (cs : List Char) : isLookaround (cs ++ closing) = isLookaround cs := by
  simp [isLookaround, isPrefixOf_closing]

theorem ne_append_closing (mark : List Char) {cs : List Char} (apart : ')' ∉ mark)
    (other : ∀ rest, cs ≠ mark ++ rest) (rest : List Char) : cs ++ closing ≠ mark ++ rest := by
  intro same
  have here := isPrefixOf_closing apart cs
  rw [same, List.isPrefixOf_iff_prefix.mpr (List.prefix_append mark rest)] at here
  obtain ⟨after, same⟩ := List.isPrefixOf_iff_prefix.mp here.symm
  exact other after same.symm

def openNumbered : Scan (Option (Option Nat)) := some <$> (some <$> openGroup)

/-- Flags, which open a group after a colon and hold on without one. -/
def readFlagGroup (flags : Flags) : Scan (Option (Option Nat)) := do
  let (draft, mark) ← readFlags ⟨flags, [], false, false⟩
  setFlags draft.flags
  if mark == ':' then return some none
  else if draft.seen.isEmpty then refuse
  else return none

/-- What opens a group, from after a question mark on. -/
def readQuestion (flags : Flags) : Scan (Option (Option Nat)) := do
  match ← remaining with
  | 'P' :: '<' :: rest =>
      moveTo rest
      readName
      openNumbered
  | '<' :: rest =>
      moveTo rest
      readName
      openNumbered
  | _ => readFlagGroup flags

def readOpening (flags : Flags) : Scan (Option (Option Nat)) := do
  match ← remaining with
  | '?' :: rest =>
      moveTo rest
      readQuestion flags
  | _ => openNumbered

def readGroupEnd (flags : Flags) (number? : Option Nat) (inner : Part) : Scan Part := do
  match ← remaining with
  | ')' :: after =>
      moveTo after
      setFlags flags
      return ⟨inner.expression?.map (.group number?), inner.depth + 1⟩
  | _ => refuse

def readGroupFrom (fuel : Nat) (flags : Flags) : Option (Option Nat) → Scan Part
  | some number? => do
      let inner ← readParts fuel [] []
      readGroupEnd flags number? inner
  | none => return ⟨none, 0⟩

/-- What is behind the question mark of a group: a name of the one or the other form, or flags. -/
inductive QuestionAt (s : Cursor) : Prop where
  | named (after : Cursor) (here : s = after.push '<')
  | namedP (after : Cursor) (here : s = (after.push '<').push 'P')
  | flags (unnamed : ∀ rest, s.rest ≠ '<' :: rest) (unnamedP : ∀ rest, s.rest ≠ 'P' :: '<' :: rest)

theorem questionAt (s : Cursor) : QuestionAt s := by
  rcases s with ⟨rest, flags, names, groups⟩
  by_cases named : ∃ after, rest = '<' :: after
  · obtain ⟨after, rfl⟩ := named
    exact .named ⟨after, flags, names, groups⟩ rfl
  by_cases namedP : ∃ after, rest = 'P' :: '<' :: after
  · obtain ⟨after, rfl⟩ := namedP
    exact .namedP ⟨after, flags, names, groups⟩ rfl
  exact .flags (not_exists.mp named) (not_exists.mp namedP)

theorem readQuestion_flags (flags : Flags) {s : Cursor} (unnamed : ∀ rest, s.rest ≠ '<' :: rest)
    (unnamedP : ∀ rest, s.rest ≠ 'P' :: '<' :: rest) :
    readQuestion flags s = readFlagGroup flags s := by
  rw [readQuestion, remaining_bind]
  simp

theorem readOpening_other (flags : Flags) {s : Cursor} (other : s.rest.head? ≠ some '?') :
    readOpening flags s = openNumbered s := by
  rw [readOpening, remaining_bind]
  simp [Cursor.rest_ne other]

theorem bind_congr_eq {read read' : Scan α} {s t : Cursor} (same : read s = read' t)
    (next : α → Scan β) : (read >>= next) s = (read' >>= next) t := by
  change (read s).bind _ = (read' t).bind _
  rw [same]

theorem readFlagGroup_bind (flags : Flags) (next : Option (Option Nat) → Scan β) (u : Cursor) :
    (do
      let (draft, mark, after) ← ofOption (flagsOf? ⟨flags, [], false, false⟩ u.rest)
      moveTo after
      setFlags draft.flags
      if mark == ':' then next (some none)
      else if draft.seen.isEmpty then refuse >>= next
      else next none : Scan β) (u.push '?') = (readFlagGroup flags >>= next) u := by
  change _ = ((readFlags ⟨flags, [], false, false⟩ >>= _) >>= next) u
  rw [bind_assoc]
  change _ = (readFlags ⟨flags, [], false, false⟩ u).bind _
  rw [readFlags]
  cases flagsOf? ⟨flags, [], false, false⟩ u.rest with
  | none => rfl
  | some result =>
      obtain ⟨draft, mark, after⟩ := result
      change (if mark == ':' then next (some none)
        else if draft.seen.isEmpty then refuse >>= next
        else next none : Scan β) _ = ((if mark == ':' then pure (some none)
          else if draft.seen.isEmpty then refuse
          else pure none : Scan (Option (Option Nat))) >>= next) _
      split
      · rfl
      split <;> rfl

theorem readOpening_bind (flags : Flags) (next : Option (Option Nat) → Scan β) (s : Cursor) :
    (do
      let opened : Option (Option Nat) ←
        match s.rest with
        | '?' :: 'P' :: '<' :: rest => do
            moveTo rest
            readName
            some <$> (some <$> openGroup)
        | '?' :: '<' :: rest => do
            moveTo rest
            readName
            some <$> (some <$> openGroup)
        | '?' :: rest => do
            let (draft, mark, after) ← ofOption (flagsOf? ⟨flags, [], false, false⟩ rest)
            moveTo after
            setFlags draft.flags
            if mark == ':' then pure (some none)
            else if draft.seen.isEmpty then refuse
            else pure none
        | _ => some <$> (some <$> openGroup)
      next opened : Scan β) s = (readOpening flags >>= next) s := by
  by_cases marked : s.rest.head? = some '?'
  next =>
    obtain ⟨u, rfl⟩ := Cursor.push_of_head marked
    rw [show (readOpening flags >>= next) (u.push '?') = (readQuestion flags >>= next) u from rfl]
    cases questionAt u with
    | named after here =>
        subst here
        rw [show (readQuestion flags >>= next) (after.push '<') =
          ((readName >>= fun _ => openNumbered) >>= next) after from rfl, bind_assoc]
        rfl
    | namedP after here =>
        subst here
        rw [show (readQuestion flags >>= next) ((after.push '<').push 'P') =
          ((readName >>= fun _ => openNumbered) >>= next) after from rfl, bind_assoc]
        rfl
    | flags unnamed unnamedP =>
        rw [bind_congr_eq (readQuestion_flags flags unnamed unnamedP)]
        simpa [unnamed, unnamedP] using readFlagGroup_bind flags next u
  next =>
    rw [bind_congr_eq (readOpening_other flags marked)]
    simp [Cursor.rest_ne marked]
    rfl

theorem readGroup_succ (fuel : Nat) :
    readGroup (fuel + 1) = (do
      let flags ← flags
      if isLookaround (← remaining) then refuse
      else
        let opened ← readOpening flags
        readGroupFrom fuel flags opened) := by
  rw [readGroup]
  funext s
  rw [flags_bind, remaining_bind, flags_bind, remaining_bind]
  split
  · rfl
  · exact readOpening_bind s.flags (readGroupFrom fuel s.flags) s

theorem openNumbered_framed (k : Nat) : Framed never k openNumbered openNumbered :=
  .of_unread (fun _ => rfl) (fun _ => rfl) fun _ => ⟨rfl, rfl⟩

theorem readFlagGroup_framed (flags : Flags) (k : Nat) :
    Framed never k (readFlagGroup flags) (readFlagGroup flags) := by
  refine .bind (readFlags_framed _ k) fun ⟨draft, mark⟩ => .bind (.setFlags _) fun _ => ?_
  split
  · exact .pure _
  split
  · exact .refuse
  · exact .pure _

theorem readQuestion_framed (flags : Flags) (k : Nat) :
    Framed never k (readQuestion flags) (readQuestion flags) := by
  have names (k : Nat) : Framed never k (readName >>= fun _ => openNumbered)
      (readName >>= fun _ => openNumbered) :=
    .bind (readName_framed k) fun _ => openNumbered_framed k
  have takes : Takes 0 (readQuestion flags) := by
    refine .of_suffix fun s a t found => ?_
    cases questionAt s with
    | named after here =>
        subst here
        exact ((names 0).takes.suffix found).trans (List.suffix_cons '<' after.rest)
    | namedP after here =>
        subst here
        exact ((names 0).takes.suffix found).trans
          ((List.suffix_cons '<' after.rest).trans (List.suffix_cons 'P' _))
    | flags unnamed unnamedP =>
        rw [readQuestion_flags flags unnamed unnamedP] at found
        exact (readFlagGroup_framed flags 0).takes.suffix found
  refine ⟨takes, takes, fun _ _ => rfl, fun s left short => ?_⟩
  cases questionAt s with
  | named after here =>
      subst here
      exact (names k).agree after left (Nat.le_of_succ_le short)
  | namedP after here =>
      subst here
      exact (names k).agree after left (Nat.le_of_succ_le (Nat.le_of_succ_le short))
  | flags unnamed unnamedP =>
      rw [readQuestion_flags flags unnamed unnamedP, readQuestion_flags flags
        (ne_append_closing ['<'] (by decide) unnamed)
        (ne_append_closing ['P', '<'] (by decide) unnamedP)]
      exact (readFlagGroup_framed flags k).agree s left short

theorem readOpening_framed (flags : Flags) (k : Nat) :
    Framed never k (readOpening flags) (readOpening flags) :=
  .self_of_mark '?' _ _ (by decide) (fun _ => rfl)
    (fun _ other => readOpening_other flags other)
    (readQuestion_framed flags) openNumbered_framed

theorem readGroupEnd_framed (flags : Flags) (number? : Option Nat) (inner : Part) (k : Nat) :
    Framed never k (readGroupEnd flags number? inner) (readGroupEnd flags number? inner) := by
  refine .self_of_taking (fun c => if c = ')' then do
      setFlags flags
      return ⟨inner.expression?.map (.group number?), inner.depth + 1⟩
    else refuse) ?_ (fun c s => ?_) fun k c => ?_
  · rintro ⟨_, _, _, _⟩ ⟨⟩
    rfl
  · rw [readGroupEnd, remaining_bind]
    split
    next h => subst h; rfl
    next h => simp [h]; rfl
  · split
    · exact .bind (.setFlags _) fun _ => .pure _
    · exact .refuse

def readSet : Scan Nested := fun s => readAfterBracket (s.rest.length + 2) s

theorem readSet_framed (k : Nat) : Framed never k readSet readSet :=
  .of_fuel fun _ _ _ enough enough' => readAfterBracket_framed (by omega) (by omega)

/-- What follows a character that a part begins with. -/
def readPartFrom (fuel : Nat) (branches parts : List Part) (c : Char) : Scan Part :=
  if c = '|' then readParts fuel (sequenceOf parts :: branches) []
  else if c = '(' then do
    skipSpace
    let part ← readGroup fuel
    readParts fuel branches (part :: parts)
  else if c = '[' then do
    let bracket ← readSet
    readParts fuel branches (⟨some (.set bracket.chars), bracket.depth⟩ :: parts)
  else if c = '?' then do
    readParts fuel branches (← repeatLast parts 0 (some 1))
  else if c = '*' then do
    readParts fuel branches (← repeatLast parts 0 none)
  else if c = '+' then do
    readParts fuel branches (← repeatLast parts 1 none)
  else if c = '\x7b' then do
    let (least, most) ← readBounds
    skipSpace
    readParts fuel branches (← repeatLast parts least most)
  else do
    let part ← readPrimitiveFrom c
    readParts fuel branches (part :: parts)

/-- The rest of a pattern from a character on that counts. -/
def readPartsFrom (fuel : Nat) (branches parts : List Part) : Scan Part := do
  match ← remaining with
  | [] => return choiceOf (sequenceOf parts :: branches)
  | ')' :: _ => return choiceOf (sequenceOf parts :: branches)
  | '|' :: rest =>
      moveTo rest
      readParts fuel (sequenceOf parts :: branches) []
  | '(' :: rest =>
      advanceTo rest
      let part ← readGroup fuel
      readParts fuel branches (part :: parts)
  | '[' :: rest =>
      let bracket ← readBracket (rest.length + 2)
      readParts fuel branches (⟨some (.set bracket.chars), bracket.depth⟩ :: parts)
  | '?' :: rest =>
      moveTo rest
      readParts fuel branches (← repeatLast parts 0 (some 1))
  | '*' :: rest =>
      moveTo rest
      readParts fuel branches (← repeatLast parts 0 none)
  | '+' :: rest =>
      moveTo rest
      readParts fuel branches (← repeatLast parts 1 none)
  | '\x7b' :: rest =>
      moveTo rest
      let (least, most) ← readBounds
      skipSpace
      readParts fuel branches (← repeatLast parts least most)
  | _ =>
      let part ← readPrimitive
      readParts fuel branches (part :: parts)

theorem readParts_succ (fuel : Nat) (branches parts : List Part) :
    readParts (fuel + 1) branches parts = (do
      skipSpace
      readPartsFrom fuel branches parts) := by
  rw [readParts]
  rfl

theorem readPartsFrom_push (fuel : Nat) (branches parts : List Part) {c : Char} (s : Cursor)
    (inside : c ≠ ')') :
    readPartsFrom fuel branches parts (s.push c) = readPartFrom fuel branches parts c s := by
  rw [readPartsFrom, remaining_bind, readPartFrom]
  split
  next h => subst h; rfl
  split
  next h => subst h; rfl
  split
  next h =>
    subst h
    exact bind_congr_eq (show readBracket (s.rest.length + 2) (s.push '[') = readSet s from rfl) _
  split
  next h => subst h; rfl
  split
  next h => subst h; rfl
  split
  next h => subst h; rfl
  split
  next h => subst h; rfl
  simp [*]
  exact bind_congr_eq (readPrimitive_push c s) _

theorem readParts_blocked (fuel : Nat) (branches parts : List Part) {t : Cursor}
    (blocked : Blocked t) : readParts fuel branches parts t = none := by
  obtain ⟨u, rfl, closes⟩ := blocked
  cases fuel with
  | zero =>
      rw [readParts]
      rfl
  | succ fuel =>
      have still : (u.push '\x7b').skipped = u.push '\x7b' := by
        unfold Cursor.skipped
        split
        · rw [Cursor.push_rest, dropSpace, if_neg Bool.false_ne_true, if_neg (by decide),
            if_neg (by decide)]
          rfl
        · rfl
      rw [readParts_succ, bind_of_eq_some (skipSpace_eq _), still,
        readPartsFrom_push _ _ _ _ (by decide)]
      change (readBounds u).bind _ = none
      rw [readBounds_blocked closes]
      rfl

theorem readPartsFrom_ended (fuel : Nat) (branches parts : List Part) {s : Cursor}
    (ended : s.rest = []) :
    readPartsFrom fuel branches parts s = some (choiceOf (sequenceOf parts :: branches), s) := by
  rw [readPartsFrom, remaining_bind, ended]
  rfl

theorem readPartsFrom_closed (fuel : Nat) (branches parts : List Part) (s : Cursor) :
    readPartsFrom fuel branches parts (s.push ')') =
      some (choiceOf (sequenceOf parts :: branches), s.push ')') := rfl

section Parts

variable {m n k : Nat}

theorem readPartFrom_takes (group : Takes 0 (readGroup m))
    (all : ∀ branches parts, Takes 0 (readParts m branches parts)) (branches parts : List Part)
    (c : Char) : Takes 0 (readPartFrom m branches parts c) := by
  have repeated (least : Nat) (most : Option Nat) :
      Takes 0 (repeatLast parts least most >>= fun parts => readParts m branches parts) :=
    (repeatLast_framed parts least most 0).takes.bind fun _ => all _ _
  unfold readPartFrom
  split
  · exact all _ _
  split
  · exact Takes.skipSpace.bind fun _ => group.bind fun _ => all _ _
  split
  · exact (readSet_framed 0).takes.bind fun _ => all _ _
  split
  · exact repeated _ _
  split
  · exact repeated _ _
  split
  · exact repeated _ _
  split
  · exact (readBounds_framed 0).takes.bind fun bounds => Takes.skipSpace.bind fun _ =>
      repeated bounds.1 bounds.2
  · exact (readPrimitiveFrom_framed c 0).takes.bind fun _ => all _ _

theorem readPartsFrom_takes (group : Takes 0 (readGroup m))
    (all : ∀ branches parts, Takes 0 (readParts m branches parts)) (branches parts : List Part) :
    Takes 0 (readPartsFrom m branches parts) := by
  refine .of_suffix fun s a t found => ?_
  rcases s.push_of_rest with ended | ⟨u, c, rfl⟩
  · rw [readPartsFrom_ended _ _ _ ended] at found
    cases found
    exact List.suffix_rfl
  by_cases closes : c = ')'
  · subst closes
    rw [readPartsFrom_closed] at found
    cases found
    exact List.suffix_rfl
  · rw [readPartsFrom_push _ _ _ _ closes] at found
    exact ((readPartFrom_takes group all branches parts c).suffix found).trans
      (List.suffix_cons c u.rest)

theorem groups_take (fuel : Nat) : Takes 0 (readGroup fuel) ∧
    ∀ branches parts, Takes 0 (readParts fuel branches parts) := by
  induction fuel with
  | zero =>
      refine ⟨?_, fun branches parts => ?_⟩
      · rw [readGroup]
        exact .refuse
      · rw [readParts]
        exact .refuse
  | succ fuel ih =>
      obtain ⟨group, all⟩ := ih
      refine ⟨?_, fun branches parts => ?_⟩
      · rw [readGroup_succ]
        refine (Framed.flags (k := 0)).takes.bind (n := 0) fun flags => .of_test ?_
        refine (readOpening_framed flags 0).takes.bind (n := 0) fun opened => ?_
        cases opened with
        | none => exact .pure _
        | some number? => exact (all [] []).bind fun inner =>
            (readGroupEnd_framed flags number? inner 0).takes
      · rw [readParts_succ]
        exact Takes.skipSpace.bind fun _ => readPartsFrom_takes group all branches parts

theorem readGroup_takes (fuel : Nat) : Takes 0 (readGroup fuel) := (groups_take fuel).1

theorem readParts_takes (fuel : Nat) (branches parts : List Part) :
    Takes 0 (readParts fuel branches parts) := (groups_take fuel).2 branches parts

theorem readPartFrom_framed (branches parts : List Part) (c : Char)
    (group : Framed never k (readGroup m) (readGroup n))
    (all : ∀ branches parts,
      Framed never k (readParts m branches parts) (readParts n branches parts)) :
    Framed never k (readPartFrom m branches parts c) (readPartFrom n branches parts c) := by
  unfold readPartFrom
  split
  · exact all _ _
  split
  · exact .bind .skipSpace fun _ => .bind group fun _ => all _ _
  split
  · exact .bind (readSet_framed k) fun _ => all _ _
  split
  · exact .bind (repeatLast_framed _ _ _ k) fun _ => all _ _
  split
  · exact .bind (repeatLast_framed _ _ _ k) fun _ => all _ _
  split
  · exact .bind (repeatLast_framed _ _ _ k) fun _ => all _ _
  split
  · exact .bind (readBounds_framed k) fun ⟨least, most⟩ => .bind .skipSpace fun _ =>
      .bind (repeatLast_framed _ _ _ k) fun _ => all _ _
  · refine .bind_of_blocked (readPrimitiveFrom_framed c k) (fun part => all _ _) ?_
    intro part t whole u blocked found
    rw [readParts_blocked _ _ _ blocked] at found
    contradiction

theorem readPartsFrom_framed (branches parts : List Part)
    (group : ∀ less, k = less + 1 → Framed never less (readGroup m) (readGroup n))
    (all : ∀ less, k = less + 1 → ∀ branches parts,
      Framed never less (readParts m branches parts) (readParts n branches parts)) :
    Framed never k (readPartsFrom m branches parts) (readPartsFrom n branches parts) := by
  have takes (fuel : Nat) := readPartsFrom_takes (readGroup_takes fuel) (readParts_takes fuel)
    branches parts
  refine .of_chars (takes m) (takes n)
    (fun s ended => by rw [readPartsFrom_ended _ _ _ ended, readPartsFrom_ended _ _ _ ended])
    (fun s left ended => ?_) fun c s left short => ?_
  · obtain ⟨u, same⟩ := Cursor.followed_closes ended
    rw [readPartsFrom_ended _ _ _ ended, same, readPartsFrom_closed, ← same]
    exact .of_eq rfl
  by_cases closes : c = ')'
  · subst closes
    exact .of_eq rfl
  rw [readPartsFrom_push _ _ _ _ closes, readPartsFrom_push _ _ _ _ closes]
  cases k with
  | zero =>
      have takes (fuel : Nat) := readPartFrom_takes (readGroup_takes fuel) (readParts_takes fuel)
        branches parts c
      exact .of_takes (takes m) (takes n) short
  | succ k =>
      exact (readPartFrom_framed branches parts c (group k rfl) (all k rfl)).agree s left (by omega)

theorem readGroupFrom_framed (flags : Flags) (opened : Option (Option Nat))
    (all : Framed never k (readParts m [] []) (readParts n [] [])) :
    Framed never k (readGroupFrom m flags opened) (readGroupFrom n flags opened) := by
  cases opened with
  | none => exact .pure _
  | some number? => exact .bind all fun inner => readGroupEnd_framed flags number? inner k

theorem groups_framed :
    (2 * k + 1 < m → 2 * k + 1 < n → Framed never k (readGroup m) (readGroup n)) ∧
    (2 * k < m → 2 * k < n → ∀ branches parts,
      Framed never k (readParts m branches parts) (readParts n branches parts)) := by
  induction m generalizing k n with
  | zero => exact ⟨by omega, by omega⟩
  | succ m ih =>
      refine ⟨fun enough enough' => ?_, fun enough enough' branches parts => ?_⟩
      · obtain ⟨n, rfl⟩ : ∃ less, n = less + 1 := ⟨n - 1, by omega⟩
        rw [readGroup_succ, readGroup_succ]
        exact .bind .flags fun flags => .of_test isLookaround_closing
          (.bind (readOpening_framed flags k) fun opened =>
            readGroupFrom_framed flags opened ((ih (k := k)).2 (by omega) (by omega) [] []))
      · obtain ⟨n, rfl⟩ : ∃ less, n = less + 1 := ⟨n - 1, by omega⟩
        rw [readParts_succ, readParts_succ]
        refine .bind .skipSpace fun _ => readPartsFrom_framed branches parts ?_ ?_
        · rintro less rfl
          exact (ih (k := less)).1 (by omega) (by omega)
        · rintro less rfl
          exact (ih (k := less)).2 (by omega) (by omega)

end Parts

-- More steps change nothing that is found.

def Extends (read more : Scan α) : Prop := ∀ s result, read s = some result → more s = some result

theorem Extends.bind {read : Scan α} {next next' : α → Scan β}
    (each : ∀ a, Extends (next a) (next' a)) : Extends (read >>= next) (read >>= next') := by
  rintro s ⟨b, t⟩ found
  obtain ⟨a, u, here, there⟩ := (bind_eq_some_iff _ _ _ _ _).mp found
  rw [bind_of_eq_some here]
  exact each a u _ there

theorem Extends.first {read more : Scan α} {next next' : α → Scan β} (first : Extends read more)
    (each : ∀ a, Extends (next a) (next' a)) : Extends (read >>= next) (more >>= next') := by
  rintro s ⟨b, t⟩ found
  obtain ⟨a, u, here, there⟩ := (bind_eq_some_iff _ _ _ _ _).mp found
  rw [bind_of_eq_some (first s _ here)]
  exact each a u _ there

theorem readPartFrom_extends {m n : Nat} (group : Extends (readGroup m) (readGroup n))
    (all : ∀ branches parts, Extends (readParts m branches parts) (readParts n branches parts))
    (branches parts : List Part) (c : Char) :
    Extends (readPartFrom m branches parts c) (readPartFrom n branches parts c) := by
  unfold readPartFrom
  split
  · exact all _ _
  split
  · exact .bind fun _ => group.first fun _ => all _ _
  split
  · exact .bind fun _ => all _ _
  split
  · exact .bind fun _ => all _ _
  split
  · exact .bind fun _ => all _ _
  split
  · exact .bind fun _ => all _ _
  split
  · exact .bind fun _ => .bind fun _ => .bind fun _ => all _ _
  · exact .bind fun _ => all _ _

theorem groups_extend (fuel : Nat) : Extends (readGroup fuel) (readGroup (fuel + 1)) ∧
    ∀ branches parts,
      Extends (readParts fuel branches parts) (readParts (fuel + 1) branches parts) := by
  induction fuel with
  | zero =>
      refine ⟨fun s result found => ?_, fun branches parts s result found => ?_⟩
      · rw [readGroup] at found
        cases found
      · rw [readParts] at found
        cases found
  | succ fuel ih =>
      obtain ⟨group, all⟩ := ih
      refine ⟨?_, fun branches parts => ?_⟩
      · rw [readGroup_succ, readGroup_succ]
        refine .bind fun flags => .bind fun start => ?_
        split
        · exact fun _ _ found => found
        refine .bind fun opened => ?_
        cases opened with
        | none => exact fun _ _ found => found
        | some number? => exact (all [] []).first fun _ _ _ found => found
      · rw [readParts_succ, readParts_succ]
        refine .bind fun _ s result found => ?_
        rcases s.push_of_rest with ended | ⟨u, c, rfl⟩
        · rwa [readPartsFrom_ended _ _ _ ended] at found ⊢
        by_cases closes : c = ')'
        · subst closes
          exact found
        · rw [readPartsFrom_push _ _ _ _ closes] at found ⊢
          exact readPartFrom_extends group all branches parts c u result found

theorem readParts_extends {m n : Nat} (less : m ≤ n) (branches parts : List Part) :
    Extends (readParts m branches parts) (readParts n branches parts) := by
  induction less with
  | refl => exact fun _ _ found => found
  | step _ ih =>
      exact fun s result found => (groups_extend _).2 branches parts s result (ih s result found)

end SpanAnnotation.Pattern
