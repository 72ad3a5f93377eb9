import SpanAnnotation.Proofs.PatternParts

/-!
Bracketed sets in front of the closing, with their named classes, hyphens, operations and the sets
inside them. A set that is open takes in neither a part of the closing nor all of it.
-/

set_option autoImplicit false

namespace SpanAnnotation.Pattern

open Scan

-- Named classes.

/-- The rest of a named class, after its colon and its circumflex. -/
def classFrom? (negated : Bool) (body : List Char) : Option (Bool × CharSet × List Char) :=
  match body.dropWhile (· != ':') with
  | ':' :: ']' :: rest =>
      (asciiClass? (String.ofList (body.takeWhile (· != ':')))).map fun chars =>
        (negated, chars, rest)
  | _ => none

def withClosing (named : Bool × CharSet × List Char) : Bool × CharSet × List Char :=
  (named.1, named.2.1, named.2.2 ++ closing)

theorem classFrom_closing (negated : Bool) (body : List Char) :
    classFrom? negated (body ++ closing) = (classFrom? negated body).map withClosing := by
  unfold classFrom?
  match ends : body.dropWhile (· != ':') with
  | [] =>
      rw [List.dropWhile_append, ends]
      rfl
  | [c] =>
      rw [dropWhile_closing_of_cons ends]
      simp [closing]
  | c :: d :: rest =>
      rw [takeWhile_closing_of_cons ends, dropWhile_closing_of_cons ends]
      by_cases colon : c = ':'
      · by_cases bracket : d = ']'
        · subst colon bracket
          simp [Option.map_map, Function.comp_def, withClosing]
        · simp [bracket]
      · simp [colon]

theorem asciiClassAt_eq (cs : List Char) :
    asciiClassAt? cs =
      if ['[', ':', '^'].isPrefixOf cs then classFrom? true (cs.drop 3)
      else if ['[', ':'].isPrefixOf cs then classFrom? false (cs.drop 2)
      else none := by
  match cs with
  | [] => rfl
  | [c] => simp [asciiClassAt?, List.isPrefixOf]
  | c :: d :: rest =>
      by_cases opens : c = '['
      · by_cases colon : d = ':'
        · subst opens colon
          match rest with
          | [] => rfl
          | e :: rest =>
            by_cases negated : e = '^'
            · subst negated
              rfl
            · simp [asciiClassAt?, List.isPrefixOf, negated, eq_comm (a := '^')]
              rfl
        · simp [asciiClassAt?, List.isPrefixOf, colon, eq_comm (a := ':')]
      · simp [asciiClassAt?, List.isPrefixOf, opens, eq_comm (a := '[')]

theorem isPrefixOf_closing {mark : List Char} (apart : ')' ∉ mark) (cs : List Char) :
    mark.isPrefixOf (cs ++ closing) = mark.isPrefixOf cs := by
  induction mark generalizing cs with
  | nil => rfl
  | cons m mark ih =>
      have apart : ')' ≠ m ∧ ')' ∉ mark := by simpa using apart
      cases cs with
      | nil => simp [closing, List.isPrefixOf, apart.1.symm]
      | cons c cs => simp [List.isPrefixOf, ih apart.2]

theorem asciiClassAt_closing (cs : List Char) :
    asciiClassAt? (cs ++ closing) = (asciiClassAt? cs).map withClosing := by
  have drop (n : Nat) {mark : List Char} (here : mark.isPrefixOf cs = true)
      (length : mark.length = n) : (cs ++ closing).drop n = cs.drop n ++ closing := by
    have less := (List.isPrefixOf_iff_prefix.mp here).length_le
    rw [List.drop_append_of_le_length (by omega)]
  rw [asciiClassAt_eq, asciiClassAt_eq, isPrefixOf_closing (by decide),
    isPrefixOf_closing (by decide)]
  split
  next here => rw [drop 3 here rfl, classFrom_closing]
  split
  next here => rw [drop 2 here rfl, classFrom_closing]
  rfl

theorem classFrom_suffix {body rest : List Char} {before negated : Bool} {chars : CharSet}
    (found : classFrom? before body = some (negated, chars, rest)) : rest <:+ body := by
  unfold classFrom? at found
  split at found
  next dropped =>
    obtain ⟨_, -, same⟩ := Option.map_eq_some_iff.mp found
    cases same
    have left := List.dropWhile_suffix (l := body) (· != ':')
    rw [dropped] at left
    exact (List.suffix_append [':', ']'] rest).trans left
  next => contradiction

theorem asciiClassAt_suffix {cs rest : List Char} {negated : Bool} {chars : CharSet}
    (found : asciiClassAt? cs = some (negated, chars, rest)) : rest <:+ cs.tail := by
  rw [asciiClassAt_eq] at found
  split at found
  next => exact (classFrom_suffix found).trans (List.drop_tail ▸ List.drop_suffix 2 cs.tail)
  split at found
  next => exact (classFrom_suffix found).trans (List.drop_tail ▸ List.drop_suffix 1 cs.tail)
  contradiction

-- Hyphens.

def readAllHyphens (members : Members) : Scan Members := fun s =>
  readHyphens members (s.rest.length + 1) s

theorem readHyphens_push (members : Members) (fuel : Nat) (s : Cursor) :
    readHyphens members (fuel + 1) (s.push '-') =
      readHyphens (members.push (.single '-') 0) fuel s.skipped := by
  rw [readHyphens, remaining_bind]
  simp only [Cursor.push_rest]
  rw [bind_of_eq_some (advanceTo_push '-' s)]

theorem readHyphens_other (members : Members) (fuel : Nat) {s : Cursor}
    (other : s.rest.head? ≠ some '-') : readHyphens members fuel s = some (members, s) := by
  cases fuel with
  | zero => rfl
  | succ fuel =>
      rw [readHyphens, remaining_bind]
      simp [Cursor.rest_ne other]
      rfl

theorem readHyphens_enough {members : Members} {m n : Nat} {s : Cursor}
    (enough : s.rest.length ≤ m) (enough' : s.rest.length ≤ n) :
    readHyphens members m s = readHyphens members n s := by
  induction m generalizing members n s with
  | zero =>
      have ended : s.rest = [] := List.eq_nil_of_length_eq_zero (by omega)
      rw [readHyphens_other _ _ (by simp [ended]), readHyphens_other _ _ (by simp [ended])]
  | succ m ih =>
      by_cases marked : s.rest.head? = some '-'
      · obtain ⟨u, rfl⟩ := Cursor.push_of_head marked
        have less := u.skipped_suffix.length_le
        simp only [Cursor.push_rest, List.length_cons] at enough enough'
        obtain ⟨n, rfl⟩ : ∃ less, n = less + 1 := ⟨n - 1, by omega⟩
        rw [readHyphens_push, readHyphens_push]
        exact ih (by omega) (by omega)
      · rw [readHyphens_other _ _ marked, readHyphens_other _ _ marked]

theorem readHyphens_takes (members : Members) (fuel : Nat) :
    Takes 0 (readHyphens members fuel) := by
  induction fuel generalizing members with
  | zero => exact .pure members
  | succ fuel ih =>
      have steps (s : Cursor) : readHyphens members (fuel + 1) (s.push '-') =
          (skipSpace >>= fun _ => readHyphens (members.push (.single '-') 0) fuel) s := by
        rw [readHyphens_push, bind_of_eq_some (skipSpace_eq s)]
      exact .of_mark steps (fun _ other => readHyphens_other members _ other)
        (Takes.skipSpace.bind fun _ => ih _) (.pure members)

theorem readAllHyphens_framed (members : Members) (k : Nat) :
    Framed never k (readAllHyphens members) (readAllHyphens members) := by
  have steps (members : Members) (s : Cursor) : readAllHyphens members (s.push '-') = (do
      skipSpace
      readAllHyphens (members.push (.single '-') 0)) s := by
    have less := s.skipped_suffix.length_le
    rw [bind_of_eq_some (skipSpace_eq s), readAllHyphens, Cursor.push_rest, List.length_cons,
      readHyphens_push]
    exact readHyphens_enough (by omega) (by omega)
  have leaves (members : Members) (s : Cursor) (other : s.rest.head? ≠ some '-') :
      readAllHyphens members s = (pure members : Scan Members) s := readHyphens_other _ _ other
  have takes (members : Members) : Takes 0 (readAllHyphens members) :=
    fun s => readHyphens_takes members _ s
  induction k using Nat.strongRecOn generalizing members with
  | ind k ih =>
      refine .of_mark (by decide) (steps members) (steps members) (leaves members) (leaves members)
        (Takes.skipSpace.bind fun _ => takes _) (Takes.skipSpace.bind fun _ => takes _) ?_ (.pure _)
      exact fun less eq => .bind .skipSpace fun _ => ih less (by omega) _

-- Sets.

def readNegation : Scan Bool := do
  match ← remaining with
  | '^' :: rest => advanceTo rest; return true
  | _ => return false

theorem readNegation_push (s : Cursor) : readNegation (s.push '^') = some (true, s.skipped) := by
  rw [readNegation, remaining_bind]
  simp only [Cursor.push_rest]
  rw [bind_of_eq_some (advanceTo_push '^' s)]
  rfl

theorem readNegation_other {s : Cursor} (other : s.rest.head? ≠ some '^') :
    readNegation s = some (false, s) := by
  rw [readNegation, remaining_bind]
  simp [Cursor.rest_ne other]
  rfl

/-- A closing bracket as the first member, if there is one. -/
def readFirst (hyphens : Members) : Scan Members := do
  match ← remaining with
  | ']' :: rest =>
      if hyphens.count = 0 then
        advanceTo rest
        return hyphens.push (.single ']') 0
      else return hyphens
  | _ => return hyphens

theorem readFirst_push (hyphens : Members) (s : Cursor) :
    readFirst hyphens (s.push ']') =
      if hyphens.count = 0 then some (hyphens.push (.single ']') 0, s.skipped)
      else some (hyphens, s.push ']') := by
  rw [readFirst, remaining_bind]
  simp only [Cursor.push_rest]
  split
  · rw [bind_of_eq_some (advanceTo_push ']' s)]
    rfl
  · rfl

theorem readFirst_other (hyphens : Members) {s : Cursor} (other : s.rest.head? ≠ some ']') :
    readFirst hyphens s = some (hyphens, s) := by
  rw [readFirst, remaining_bind]
  simp [Cursor.rest_ne other]
  rfl

/-- A bracketed set from after its opening bracket and its circumflex on. -/
def readBracketFrom (fuel : Nat) (flags : Flags) (negated : Bool) : Scan Nested := do
  let hyphens ← readAllHyphens .none
  let first ← readFirst hyphens
  let inner ← readMembers fuel none first
  let chars ← ofOption (invert flags negated (fold flags inner.chars))
  return ⟨chars, inner.depth + 1⟩

theorem readBracketFrom_eq (fuel : Nat) (flags : Flags) (negated : Bool) {n : Nat} {s : Cursor}
    (enough : s.rest.length ≤ n) :
    (do
      let hyphens ← readHyphens .none n
      let first ←
        match hyphens.count, ← remaining with
        | 0, ']' :: rest => do
            advanceTo rest
            pure (hyphens.push (.single ']') 0)
        | _, _ => pure hyphens
      let inner ← readMembers fuel none first
      let chars ← ofOption (invert flags negated (fold flags inner.chars))
      return ⟨chars, inner.depth + 1⟩ : Scan Nested) s = readBracketFrom fuel flags negated s := by
  have all : readAllHyphens .none s = readHyphens .none n s := readHyphens_enough (by omega) enough
  change (readHyphens .none n s).bind _ = (readAllHyphens .none s).bind _
  rw [all]
  refine congrArg _ (funext fun ⟨hyphens, t⟩ => ?_)
  dsimp only
  rw [remaining_bind]
  by_cases marked : t.rest.head? = some ']'
  · obtain ⟨u, rfl⟩ := Cursor.push_of_head marked
    cases count : hyphens.count with
    | zero =>
        have first : readFirst hyphens (u.push ']') =
            some (hyphens.push (.single ']') 0, u.skipped) := by rw [readFirst_push, if_pos count]
        rw [bind_of_eq_some first]
        simp only [Cursor.push_rest]
        rw [bind_of_eq_some (advanceTo_push ']' u)]
        rfl
    | succ _ =>
        have first : readFirst hyphens (u.push ']') = some (hyphens, u.push ']') := by
          rw [readFirst_push, if_neg (by omega)]
        rw [bind_of_eq_some first]
        rfl
  · rw [bind_of_eq_some (readFirst_other hyphens marked)]
    simp [Cursor.rest_ne marked]

def readAfterBracket (fuel : Nat) : Scan Nested := fun s => readBracket fuel (s.push '[')

theorem readAfterBracket_succ (fuel : Nat) : readAfterBracket (fuel + 1) = (do
    let flags ← flags
    skipSpace
    let negated ← readNegation
    readBracketFrom fuel flags negated) := by
  funext s
  unfold readAfterBracket
  have less := s.skipped_suffix.length_le
  rw [readBracket, flags_bind, remaining_bind, flags_bind]
  simp only [Cursor.push_rest, List.drop_succ_cons, List.drop_zero]
  rw [bind_of_eq_some (advanceTo_push '[' s), bind_of_eq_some (skipSpace_eq s), remaining_bind]
  by_cases marked : s.skipped.rest.head? = some '^'
  · obtain ⟨u, same⟩ := Cursor.push_of_head marked
    rw [same] at less ⊢
    have less' := u.skipped_suffix.length_le
    simp only [Cursor.push_rest, if_true, List.length_cons] at less ⊢
    rw [remaining_bind]
    have advance :
        (advanceTo (List.drop 1 (u.push '^').rest)) (u.push '^') = some ((), u.skipped) :=
      advanceTo_push '^' u
    rw [bind_of_eq_some advance]
    rw [bind_of_eq_some (readNegation_push u)]
    exact readBracketFrom_eq fuel s.flags true (by omega)
  · rw [bind_of_eq_some (readNegation_other marked)]
    rw [if_neg (by simp [Cursor.rest_ne marked])]
    refine (readBracketFrom_eq fuel s.flags _ (Nat.le_succ_of_le less)).trans ?_
    simp [Cursor.rest_ne marked]

theorem readNegation_framed (k : Nat) : Framed never k readNegation readNegation := by
  refine .self_of_mark '^' (skipSpace >>= fun _ => pure true) (pure false) (by decide)
    (fun s => ?_) (fun s other => readNegation_other other)
    (fun k => .bind .skipSpace fun _ => .pure _) fun k => .pure _
  rw [readNegation_push, bind_of_eq_some (skipSpace_eq s)]
  rfl

theorem readFirst_framed (hyphens : Members) (k : Nat) :
    Framed never k (readFirst hyphens) (readFirst hyphens) := by
  by_cases first : hyphens.count = 0
  · refine .self_of_mark ']'
      (skipSpace >>= fun _ => pure (hyphens.push (.single ']') 0)) (pure hyphens) (by decide)
      (fun s => ?_) (fun s other => readFirst_other hyphens other)
      (fun k => .bind .skipSpace fun _ => .pure _) fun k => .pure _
    rw [readFirst_push, if_pos first, bind_of_eq_some (skipSpace_eq s)]
    rfl
  · have leaves : readFirst hyphens = pure hyphens := by
      funext s
      by_cases marked : s.rest.head? = some ']'
      · obtain ⟨u, rfl⟩ := Cursor.push_of_head marked
        rw [readFirst_push, if_neg first]
        rfl
      · exact readFirst_other hyphens marked
    rw [leaves]
    exact .pure hyphens

theorem readBracketFrom_takes {fuel : Nat}
    (members : ∀ pending members, Takes 1 (readMembers fuel pending members)) (flags : Flags)
    (negated : Bool) : Takes 1 (readBracketFrom fuel flags negated) :=
  ((readAllHyphens_framed .none 0).takes.bind fun hyphens =>
    (readFirst_framed hyphens 0).takes.bind fun first => (members none first).bind fun _ =>
      (Framed.bind (k := 0) (.ofOption _) fun _ => .pure (E := never) _).takes).mono (by omega)

theorem readBracketFrom_framed {m n k : Nat}
    (members : ∀ pending members,
      Framed never k (readMembers m pending members) (readMembers n pending members))
    (flags : Flags) (negated : Bool) :
    Framed never k (readBracketFrom m flags negated) (readBracketFrom n flags negated) :=
  .bind (readAllHyphens_framed .none k) fun hyphens =>
    .bind (readFirst_framed hyphens k) fun first =>
    .bind (members none first) fun _ => .bind (.ofOption _) fun _ => .pure _

/-- The members of a set from a character on that counts. -/
def readMembersFrom (fuel : Nat) (pending : Pending) (members : Members) (flags : Flags) :
    Scan Nested := do
  match ← remaining with
  | [] => refuse
  | ']' :: rest =>
      moveTo rest
      return complete flags pending members
  | '&' :: '&' :: rest =>
      moveTo rest
      readMembers fuel (some (.inter, complete flags pending members)) .none
  | '-' :: '-' :: rest =>
      moveTo rest
      readMembers fuel (some (.difference, complete flags pending members)) .none
  | '~' :: '~' :: rest =>
      moveTo rest
      readMembers fuel (some (.symmetricDifference, complete flags pending members)) .none
  | '[' :: rest =>
      match asciiClassAt? ('[' :: rest) with
      | some (negated, named, after) =>
          moveTo after
          let chars ← ofOption (invert flags negated (fold flags named))
          readMembers fuel pending (members.push chars 0)
      | none =>
          let inner ← readBracket fuel
          readMembers fuel pending (members.push inner.chars inner.depth)
  | _ =>
      let chars ← readRange
      readMembers fuel pending (members.push chars 0)

theorem readMembers_succ (fuel : Nat) (pending : Pending) (members : Members) :
    readMembers (fuel + 1) pending members = (do
      skipSpace
      let flags ← flags
      readMembersFrom fuel pending members flags) := by
  rw [readMembers]
  rfl

/-- The operation that a character stands for when it is doubled. -/
def operation? (c : Char) : Option SetOperation :=
  if c = '&' then some .inter
  else if c = '-' then some .difference
  else if c = '~' then some .symmetricDifference
  else none

/-- A member that is a character, a range, or an escape. -/
def readPlainMember (fuel : Nat) (pending : Pending) (members : Members) : Scan Nested := do
  let chars ← readRange
  readMembers fuel pending (members.push chars 0)

theorem readMembersFrom_double {c : Char} {operation : SetOperation}
    (stands : operation? c = some operation) (fuel : Nat) (pending : Pending) (members : Members)
    (flags : Flags) (s : Cursor) :
    readMembersFrom fuel pending members flags ((s.push c).push c) =
      readMembers fuel (some (operation, complete flags pending members)) .none s := by
  unfold operation? at stands
  split at stands
  next h => subst h; cases stands; rfl
  split at stands
  next h => subst h; cases stands; rfl
  split at stands
  next h => subst h; cases stands; rfl
  contradiction

theorem readMembersFrom_bracket (fuel : Nat) (pending : Pending) (members : Members)
    (flags : Flags) (s : Cursor) :
    readMembersFrom fuel pending members flags (s.push '[') =
      match asciiClassAt? ('[' :: s.rest) with
      | some (negated, named, after) =>
          (do
            let chars ← ofOption (invert flags negated (fold flags named))
            readMembers fuel pending (members.push chars 0) : Scan Nested)
              { s with rest := after }
      | none =>
          (do
            let inner ← readAfterBracket fuel
            readMembers fuel pending (members.push inner.chars inner.depth) : Scan Nested) s := by
  rw [readMembersFrom, remaining_bind]
  simp only [Cursor.push_rest]
  cases asciiClassAt? ('[' :: s.rest) <;> rfl

theorem readMembersFrom_plain {c : Char} (fuel : Nat) (pending : Pending) (members : Members)
    (flags : Flags) (s : Cursor) (closes : c ≠ ']') (opens : c ≠ '[')
    (single : ∀ operation, operation? c = some operation → s.rest.head? ≠ some c) :
    readMembersFrom fuel pending members flags (s.push c) =
      readPlainMember fuel pending members (s.push c) := by
  rw [readMembersFrom, remaining_bind]
  by_cases both : c = '&'
  · subst both
    simp [Cursor.rest_ne (single .inter rfl)]
    rfl
  by_cases hyphen : c = '-'
  · subst hyphen
    simp [Cursor.rest_ne (single .difference rfl)]
    rfl
  by_cases tilde : c = '~'
  · subst tilde
    simp [Cursor.rest_ne (single .symmetricDifference rfl)]
    rfl
  simp [closes, opens, both, hyphen, tilde]
  rfl

theorem readMembersFrom_refuses (fuel : Nat) (pending : Pending) (members : Members) (flags : Flags)
    {s : Cursor} (ended : s.rest = []) : readMembersFrom fuel pending members flags s = none := by
  rw [readMembersFrom, remaining_bind, ended]
  rfl

/-- What a set has at a character: its end, an operation, a class or a set, or a plain member. -/
inductive MemberAt (c : Char) (s : Cursor) : Prop where
  | closes (here : c = ']')
  | doubles (operation : SetOperation) (before : Cursor) (stands : operation? c = some operation)
      (again : s = before.push c)
  | opens (here : c = '[')
  | plain (closes : c ≠ ']') (opens : c ≠ '[')
      (single : ∀ operation, operation? c = some operation → s.rest.head? ≠ some c)

theorem memberAt (c : Char) (s : Cursor) : MemberAt c s := by
  by_cases closes : c = ']'
  · exact .closes closes
  by_cases opens : c = '['
  · exact .opens opens
  cases stands : operation? c with
  | none => exact .plain closes opens (by simp [stands])
  | some operation =>
      by_cases doubled : s.rest.head? = some c
      · obtain ⟨u, again⟩ := Cursor.push_of_head doubled
        exact .doubles operation u stands again
      · exact .plain closes opens fun _ _ => doubled

section Members

variable {m n k : Nat}

theorem readPlainMember_takes (all : ∀ pending members, Takes 1 (readMembers m pending members))
    (pending : Pending) (members : Members) : Takes 2 (readPlainMember m pending members) :=
  readRange_takes.bind fun _ => all _ _

theorem readMembersFrom_takes (bracket : Takes 1 (readAfterBracket m))
    (all : ∀ pending members, Takes 1 (readMembers m pending members)) (pending : Pending)
    (members : Members) (flags : Flags) : Takes 1 (readMembersFrom m pending members flags) := by
  intro s a t found
  rcases s.push_of_rest with ended | ⟨u, c, rfl⟩
  · rw [readMembersFrom_refuses _ _ _ _ ended] at found
    contradiction
  cases memberAt c u with
  | closes here =>
      subst here
      cases found
      exact ⟨List.suffix_cons _ _, Nat.le_refl _⟩
  | doubles operation v stands again =>
      subst again
      rw [readMembersFrom_double stands] at found
      have shorter := (all _ _).length_le found
      have after := (List.suffix_cons c v.rest).trans (List.suffix_cons c _)
      exact ⟨((all _ _).suffix found).trans after, by simp; omega⟩
  | opens here =>
      subst here
      rw [readMembersFrom_bracket] at found
      split at found
      next negated named after named_here =>
        have takes := (Takes.bind (Framed.ofOption (E := never) (k := 0)
          (invert flags negated (fold flags named))).takes fun chars =>
            all pending (members.push chars 0))
        have left := asciiClassAt_suffix named_here
        have shorter := takes.length_le found
        have less := left.length_le
        exact ⟨(takes.suffix found).trans (left.trans (List.suffix_cons '[' u.rest)), by
          simp at less shorter ⊢; omega⟩
      next =>
        have takes := bracket.bind fun inner => all pending (members.push inner.chars inner.depth)
        have shorter := takes.length_le found
        exact ⟨(takes.suffix found).trans (List.suffix_cons '[' u.rest), by simp; omega⟩
  | plain closes opens single =>
      rw [readMembersFrom_plain _ _ _ _ _ closes opens single] at found
      exact (readPlainMember_takes all pending members).mono (by omega) _ _ _ found

theorem brackets_take (fuel : Nat) : Takes 1 (readAfterBracket fuel) ∧
    ∀ pending members, Takes 1 (readMembers fuel pending members) := by
  induction fuel with
  | zero =>
      refine ⟨fun s a t found => ?_, fun pending members => ?_⟩
      · rw [readAfterBracket, readBracket] at found
        cases found
      · rw [readMembers]
        exact .refuse
  | succ fuel ih =>
      obtain ⟨bracket, all⟩ := ih
      refine ⟨?_, fun pending members => ?_⟩
      · rw [readAfterBracket_succ]
        exact ((Framed.flags (k := 0)).takes.bind fun flags => Takes.skipSpace.bind fun _ =>
          (readNegation_framed 0).takes.bind fun negated =>
            readBracketFrom_takes all flags negated).mono (by omega)
      · rw [readMembers_succ]
        exact (Takes.skipSpace.bind fun _ => (Framed.flags (k := 0)).takes.bind fun flags =>
          readMembersFrom_takes bracket all pending members flags).mono (by omega)

theorem readAfterBracket_takes (fuel : Nat) : Takes 1 (readAfterBracket fuel) :=
  (brackets_take fuel).1

theorem readMembers_takes (fuel : Nat) (pending : Pending) (members : Members) :
    Takes 1 (readMembers fuel pending members) := (brackets_take fuel).2 pending members

theorem readPlainMember_framed
    (all : ∀ pending members, Framed never k (readMembers m pending members)
      (readMembers n pending members)) (pending : Pending) (members : Members) :
    Framed never (k + 1) (readPlainMember m pending members)
      (readPlainMember n pending members) := by
  refine (readRange_framed k).bind_of_takes (fun _ => all _ _) readRange_takes
    (fun _ => readMembers_takes m _ _) (fun _ => readMembers_takes n _ _) (by omega) (by omega) ?_
  -- Behind a range that ends before the closing a set does not end.
  intro chars t nested u closes found long
  have shorter := (readMembers_takes n _ _).length_le found
  rw [closes] at shorter
  omega

theorem readMembersFrom_framed
    (bracket : Framed never (k - 1) (readAfterBracket m) (readAfterBracket n))
    (all : ∀ pending members,
      Framed never k (readMembers m pending members) (readMembers n pending members))
    (pending : Pending) (members : Members) (flags : Flags) :
    Framed never (k + 1) (readMembersFrom m pending members flags)
      (readMembersFrom n pending members flags) := by
  have takes (fuel : Nat) := readMembersFrom_takes (readAfterBracket_takes fuel)
    (readMembers_takes fuel) pending members flags
  refine .of_chars ((takes m).mono (by omega)) ((takes n).mono (by omega))
    (fun s ended => by
      rw [readMembersFrom_refuses _ _ _ _ ended, readMembersFrom_refuses _ _ _ _ ended])
    (fun s left ended => .of_takes (takes m) (takes n) (by simp [ended])) fun c s left short => ?_
  cases memberAt c s with
  | closes here =>
      subst here
      exact .of_eq rfl
  | doubles operation u stands again =>
      subst again
      simp only [Cursor.push_rest, List.length_cons] at short
      rw [Cursor.followed_push, readMembersFrom_double stands, readMembersFrom_double stands]
      exact (all _ _).agree u left (by omega)
  | opens here =>
      subst here
      rw [readMembersFrom_bracket, readMembersFrom_bracket, Cursor.followed_rest,
        ← List.cons_append, asciiClassAt_closing]
      cases named_here : asciiClassAt? ('[' :: s.rest) with
      | some named =>
          obtain ⟨negated, named, after⟩ := named
          have less := (asciiClassAt_suffix named_here).length_le
          exact (Framed.bind (.ofOption _) fun chars => all _ _).agree
            { s with rest := after } left (by simp at less ⊢; omega)
      | none =>
          have nested := bracket.bind_of_takes (p := k)
            (fun inner => all pending (members.push inner.chars inner.depth))
            (readAfterBracket_takes m) (fun _ => readMembers_takes m _ _)
            (fun _ => readMembers_takes n _ _) (by omega) (by omega)
            fun _ _ _ _ excluded => excluded.elim
          exact nested.agree s left (by omega)
  | plain closes opens single =>
      have single' (operation : SetOperation) (stands : operation? c = some operation) :
          s.followed.rest.head? ≠ some c := by
        refine Cursor.followed_head_ne ?_ (single operation stands)
        rintro rfl
        contradiction
      rw [readMembersFrom_plain _ _ _ _ _ closes opens single,
        readMembersFrom_plain _ _ _ _ _ closes opens single']
      exact (readPlainMember_framed all pending members).agree (s.push c) left short

theorem brackets_framed (enough : k ≤ m) (enough' : k ≤ n) :
    Framed never (k - 1) (readAfterBracket m) (readAfterBracket n) ∧
      ∀ pending members,
        Framed never k (readMembers m pending members) (readMembers n pending members) := by
  induction m generalizing k n with
  | zero =>
      obtain rfl : k = 0 := by omega
      exact ⟨.of_takes (readAfterBracket_takes _) (readAfterBracket_takes _), fun pending members =>
        .of_takes (readMembers_takes _ _ _) (readMembers_takes _ _ _)⟩
  | succ m ih =>
      cases k with
      | zero =>
          exact ⟨.of_takes (readAfterBracket_takes _) (readAfterBracket_takes _),
            fun pending members => .of_takes (readMembers_takes _ _ _) (readMembers_takes _ _ _)⟩
      | succ k =>
          obtain ⟨n, rfl⟩ : ∃ less, n = less + 1 := ⟨n - 1, by omega⟩
          obtain ⟨bracket, all⟩ := ih (k := k) (n := n) (by omega) (by omega)
          refine ⟨?_, fun pending members => ?_⟩
          · rw [readAfterBracket_succ, readAfterBracket_succ]
            exact .bind .flags fun flags => .bind .skipSpace fun _ =>
              .bind (readNegation_framed _) fun negated => readBracketFrom_framed all flags negated
          · rw [readMembers_succ, readMembers_succ]
            exact .bind .skipSpace fun _ => .bind .flags fun flags =>
              readMembersFrom_framed bracket all pending members flags

theorem readAfterBracket_framed (enough : k < m) (enough' : k < n) :
    Framed never k (readAfterBracket m) (readAfterBracket n) :=
  (brackets_framed (k := k + 1) enough enough').1

end Members

end SpanAnnotation.Pattern
