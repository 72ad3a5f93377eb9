import SpanAnnotation.Proofs.PatternFrames

/-!
Escapes and ranges in front of the closing. A condition in front of a brace is the one part that is
read otherwise there: the brace has to open a name, and the closing is none.
-/

set_option autoImplicit false

namespace SpanAnnotation.Pattern

open Scan Text

theorem readHexDigits_framed (value count k : Nat) :
    Framed never k (readHexDigits value count) (readHexDigits value count) := by
  induction count generalizing value k with
  | zero => exact .pure value
  | succ count ih =>
      refine .self_of_taking
        (fun c => do
          let digit ← ofOption (hexDigit? c)
          skipSpace
          readHexDigits (value * 16 + digit) count) ?_ ?_ ?_
      · rintro ⟨_, _, _, _⟩ ⟨⟩
        rfl
      · intro c s
        rw [readHexDigits, remaining_bind]
        dsimp only [Cursor.push_rest]
        cases hexDigit? c <;> rfl
      · exact fun k c => .bind (.ofOption _) fun digit => .bind .skipSpace fun _ => ih _ k

theorem readBraced_push (fuel : Nat) (c : Char) (s : Cursor) :
    readBraced (fuel + 1) (s.push c) =
      (if c = '\x7d' then pure [] else do
        skipSpace
        let more ← readBraced fuel
        return c :: more : Scan (List Char)) s := by
  split
  next h => subst h; rfl
  next h =>
    rw [readBraced, remaining_bind]
    simp only [Cursor.push_rest]
    rfl

theorem readBraced_takes (fuel : Nat) : Takes 1 (readBraced fuel) := by
  induction fuel with
  | zero => exact .refuse
  | succ fuel ih =>
      refine .of_push ?_ (readBraced_push fuel) fun c => ?_
      · rintro ⟨_, _, _, _⟩ ⟨⟩
        rfl
      · split
        · exact .pure _
        · exact (Takes.skipSpace.bind fun _ => ih.bind fun _ => .pure _).mono (by omega)

theorem readBraced_framed {k m n : Nat} (enough : k ≤ m) (enough' : k ≤ n) :
    Framed never k (readBraced m) (readBraced n) := by
  induction m generalizing k n with
  | zero =>
      obtain rfl : k = 0 := by omega
      exact .of_takes (readBraced_takes _) (readBraced_takes _)
  | succ m ih =>
      cases n with
      | zero =>
          obtain rfl : k = 0 := by omega
          exact .of_takes (readBraced_takes _) (readBraced_takes _)
      | succ n =>
          refine .of_taking (readBraced_takes _) (readBraced_takes _) (readBraced_push m)
            (readBraced_push n) fun less c eq => ?_
          split
          · exact .pure _
          · exact .bind .skipSpace fun _ => .bind (ih (by omega) (by omega)) fun _ => .pure _

theorem readWholeBrace_framed (k : Nat) : Framed never k readWholeBrace readWholeBrace :=
  .of_fuel fun _ _ _ enough enough' => readBraced_framed (by omega) (by omega)

theorem readHex_framed (count k : Nat) : Framed never k (readHex count) (readHex count) := by
  refine .self_of_mark '\x7b'
    (do
      skipSpace
      let digits ← readWholeBrace
      if digits.isEmpty then refuse
      else
        let c ← ofOption ((hexInBraces? 0 digits).bind charOfCode?)
        return .literal c false)
    (do
      let code ← readHexDigits 0 count
      let c ← ofOption (charOfCode? code)
      return .literal c (count == 2)) (by decide) (fun _ => rfl) ?_ (fun k => ?_) fun k => ?_
  · intro s unmarked
    rw [readHex, remaining_bind]
    simp [Cursor.rest_ne unmarked]
  · refine .bind .skipSpace fun _ => .bind (readWholeBrace_framed k) fun digits => ?_
    split
    · exact .refuse
    · exact .bind (.ofOption _) fun _ => .pure _
  · exact .bind (readHexDigits_framed 0 count k) fun _ => .bind (.ofOption _) fun _ => .pure _

theorem readPropertyName_push (c : Char) (s : Cursor) :
    readPropertyName (s.push c) =
      (if c = '\x7b' then do
          skipSpace
          readWholeBrace
        else if c = '\\' then refuse
        else do
          skipSpace
          return [c] : Scan (List Char)) s := by
  rw [readPropertyName, remaining_bind]
  split
  next h => subst h; rfl
  simp only [Cursor.push_rest, beq_iff_eq]
  split <;> rfl

theorem readPropertyName_framed (k : Nat) : Framed never k readPropertyName readPropertyName := by
  refine .self_of_taking _ ?_ readPropertyName_push fun k c => ?_
  · rintro ⟨_, _, _, _⟩ ⟨⟩
    rfl
  split
  · exact .bind .skipSpace fun _ => readWholeBrace_framed k
  split
  · exact .refuse
  · exact .bind .skipSpace fun _ => .pure _

theorem readProperty_framed (negated : Bool) (k : Nat) :
    Framed never k (readProperty negated) (readProperty negated) := by
  refine .bind .flags fun flags => .bind (readPropertyName_framed k) fun name =>
    .bind (.ofOption _) fun ⟨chars, unequal⟩ => ?_
  dsimp only
  split
  · exact .bind (.ofOption _) fun _ => .pure _
  · exact .refuse

/-- An opening brace with nothing but the closing behind it. -/
def Blocked (t : Cursor) : Prop := ∃ u : Cursor, t = u.push '\x7b' ∧ u.skipped.rest = closing

/-- A condition in front of an opening brace that no count follows. -/
def Stuck (atom : Atom) (t : Cursor) : Prop := (∃ condition, atom = .look condition) ∧ Blocked t

def readBoundaryName (unicode : Bool) : Scan Atom := do
  let name ← readWholeBrace
  let condition ← ofOption (boundaryNamed? unicode (String.ofList name))
  return .look condition

theorem readBoundaryName_framed (unicode : Bool) (k : Nat) :
    Framed never k (readBoundaryName unicode) (readBoundaryName unicode) :=
  .bind (readWholeBrace_framed k) fun _ => .bind (.ofOption _) fun _ => .pure _

theorem readBoundary_other {s : Cursor} (other : s.rest.head? ≠ some '\x7b') :
    readBoundary s = some (.look (.wordBoundary s.flags.unicode), s) := by
  rw [readBoundary, flags_bind, remaining_bind]
  simp [Cursor.rest_ne other]
  rfl

theorem readBoundary_brace (s : Cursor) :
    readBoundary (s.push '\x7b') =
      match s.skipped.rest with
      | [] => none
      | c :: _ =>
          if isBoundaryLetter c then readBoundaryName s.flags.unicode s.skipped
          else some (.look (.wordBoundary s.flags.unicode), s.push '\x7b') := by
  rw [readBoundary, flags_bind, remaining_bind]
  change (advanceTo s.rest >>= _) (s.push '\x7b') = _
  rw [bind_of_eq_some (advanceTo_push _ s), remaining_bind]
  cases s.skipped.rest with
  | nil => rfl
  | cons c rest =>
      dsimp only
      split
      · rfl
      · unfold Cursor.skipped
        split <;> rfl

theorem readBoundary_takes : Takes 0 readBoundary := by
  refine .of_suffix fun s a t found => ?_
  by_cases marked : s.rest.head? = some '\x7b'
  next =>
    obtain ⟨u, rfl⟩ := Cursor.push_of_head marked
    rw [readBoundary_brace] at found
    split at found
    · contradiction
    split at found
    · have kept := (readBoundaryName_framed _ 0).takes.suffix found
      exact kept.trans (u.skipped_suffix.trans (List.suffix_cons '\x7b' u.rest))
    · cases found
      exact List.suffix_rfl
  next =>
    rw [readBoundary_other marked] at found
    cases found
    exact List.suffix_rfl

theorem readBoundary_framed (k : Nat) : Framed Stuck k readBoundary readBoundary := by
  refine .of_chars readBoundary_takes readBoundary_takes (fun _ _ => rfl)
    (fun s left ended => ?_) fun c s left short => ?_
  next =>
    rw [readBoundary_other (by simp [ended]), readBoundary_other (by simp [ended, closing])]
    exact .of_eq rfl
  by_cases marked : c = '\x7b'
  next =>
    subst marked
    rw [readBoundary_brace, readBoundary_brace]
    rcases s.followed_skipped with kept | ⟨ended, taken⟩
    · rw [kept]
      cases ended : s.skipped.rest with
      | nil =>
          -- Only the closing follows: the brace is no name, and will be no count either.
          refine ⟨by simp, ?_⟩
          rintro a t found -
          rw [Cursor.followed_rest, ended] at found
          cases found
          exact .inr ⟨⟨_, rfl⟩, s.followed, rfl, by rw [kept, Cursor.followed_rest, ended]; rfl⟩
      | cons c rest =>
          simp only [Cursor.followed_rest, ended, List.cons_append]
          split
          · have less := s.skipped_suffix.length_le
            exact (readBoundaryName_framed _ k).weaken.agree s.skipped left (by omega)
          · exact .of_eq rfl
    · simp only [taken, ended]
      exact ⟨by simp, by simp⟩
  next =>
    rw [readBoundary_other (by simpa using marked), readBoundary_other (by simpa using marked)]
    exact .of_eq rfl

theorem readEscape_push (c : Char) (s : Cursor) :
    readEscape (s.push c) =
      (do
        let flags ← flags
        if c = 'x' then do skipSpace; readHex 2
        else if c = 'u' then do skipSpace; readHex 4
        else if c = 'U' then do skipSpace; readHex 8
        else if c = 'p' then do skipSpace; readProperty false
        else if c = 'P' then do skipSpace; readProperty true
        else if c = 'b' then readBoundary
        else if mayBeEscaped c then return .literal c false
        else
          match shorthand? flags c, shorthand? flags c.toLower, control? c,
              condition? flags.unicode c with
          | some chars, _, _, _ => return .set chars
          | none, some chars, _, _ =>
              let set ← ofOption (invert flags true chars)
              return .set set
          | none, none, some literal, _ => return .literal literal false
          | none, none, none, some condition => return .look condition
          | none, none, none, none => refuse : Scan Atom) s := by
  rw [readEscape, flags_bind, remaining_bind, flags_bind]
  split
  next h => subst h; rfl
  split
  next h => subst h; rfl
  split
  next h => subst h; rfl
  split
  next h => subst h; rfl
  split
  next h => subst h; rfl
  split
  next h => subst h; rfl
  simp only [Cursor.push_rest]
  rfl

theorem readEscape_framed (k : Nat) : Framed Stuck k readEscape readEscape := by
  refine .self_of_taking _ ?_ readEscape_push fun k c => .bind .flags fun flags => ?_
  · rintro ⟨_, _, _, _⟩ ⟨⟩
    rfl
  split
  · exact (Framed.bind .skipSpace fun _ => readHex_framed 2 k).weaken
  split
  · exact (Framed.bind .skipSpace fun _ => readHex_framed 4 k).weaken
  split
  · exact (Framed.bind .skipSpace fun _ => readHex_framed 8 k).weaken
  split
  · exact (Framed.bind .skipSpace fun _ => readProperty_framed false k).weaken
  split
  · exact (Framed.bind .skipSpace fun _ => readProperty_framed true k).weaken
  split
  · exact readBoundary_framed k
  split
  · exact .pure _
  split
  · exact .pure _
  · exact .bind (.ofOption _) fun _ => .pure _
  · exact .pure _
  · exact .pure _
  · exact .refuse

theorem readMember_push (c : Char) (s : Cursor) :
    readMember (s.push c) =
      (if c = '\\' then readEscape else pure (.literal c false) : Scan Atom) s := by
  rw [readMember, remaining_bind]
  split
  next h => subst h; rfl
  simp only [Cursor.push_rest]
  rfl

theorem readMember_takes : Takes 1 readMember := by
  refine .of_push ?_ readMember_push fun c => ?_
  · rintro ⟨_, _, _, _⟩ ⟨⟩
    rfl
  split
  · exact (readEscape_framed 0).takes
  · exact .pure _

theorem readMember_framed (k : Nat) : Framed Stuck k readMember readMember := by
  refine .self_of_taking _ ?_ readMember_push fun k c => ?_
  · rintro ⟨_, _, _, _⟩ ⟨⟩
    rfl
  split
  · exact readEscape_framed k
  · exact .pure _

theorem dropWhile_closing {p : Char → Bool} (apart : p ')' = false) (cs : List Char) :
    (cs ++ closing).dropWhile p = cs.dropWhile p ++ closing := by
  induction cs with
  | nil => simp [closing, apart]
  | cons c rest ih =>
      rw [List.cons_append, List.dropWhile_cons, List.dropWhile_cons]
      split
      · exact ih
      · rfl

section Ends

variable {p : Char → Bool} {cs rest : List Char} {c : Char}

theorem takeWhile_closing_of_cons (ends : cs.dropWhile p = c :: rest) :
    (cs ++ closing).takeWhile p = cs.takeWhile p := by
  have whole := congrArg List.length (cs.takeWhile_append_dropWhile (p := p))
  rw [ends, List.length_append, List.length_cons] at whole
  rw [List.takeWhile_append, if_neg (by omega)]

theorem dropWhile_closing_of_cons (ends : cs.dropWhile p = c :: rest) :
    (cs ++ closing).dropWhile p = c :: (rest ++ closing) := by
  rw [List.dropWhile_append, ends]
  rfl

end Ends

/-- A hyphen is the last member, or one half of an operation. -/
def standsAlone (flags : Flags) (rest : List Char) : Bool :=
  let next := afterHyphen flags rest
  next == some ']' || next == some '-'

theorem standsAlone_closing (flags : Flags) (rest : List Char) :
    standsAlone flags (rest ++ closing) = standsAlone flags rest := by
  have head (cs : List Char) : (((cs ++ closing).head? == some ']') ||
      (cs ++ closing).head? == some '-') = (cs.head? == some ']' || cs.head? == some '-') := by
    cases cs with
    | nil => rfl
    | cons c rest => rfl
  unfold standsAlone afterHyphen
  rw [dropWhile_closing (by decide)]
  split
  · exact head rest
  · cases rest.dropWhile isBlank with
    | nil => rfl
    | cons c comment =>
        by_cases number : c = '#'
        · subst number
          simp only [List.cons_append]
          rw [dropWhile_closing (by decide)]
          exact head _
        · simp [number]

def rangeFrom (flags : Flags) (first : Atom) : Scan CharSet := do
  match ← remaining with
  | [] => refuse
  | '-' :: rest =>
      if standsAlone flags rest then ofOption (first.memberSet? flags)
      else
        advanceTo rest
        let last ← readMember
        match first, last with
        | .literal a _, .literal b _ =>
            if a ≤ b then ofOption (memberSet? flags a b) else refuse
        | _, _ => refuse
  | _ => ofOption (first.memberSet? flags)

theorem readRange_eq : readRange = (do
    let flags ← flags
    let first ← readMember
    skipSpace
    rangeFrom flags first) := rfl

def between (flags : Flags) (first last : Atom) : Option CharSet :=
  match first, last with
  | .literal a _, .literal b _ => if a ≤ b then memberSet? flags a b else none
  | _, _ => none

theorem rangeFrom_push (flags : Flags) (first : Atom) (c : Char) (s : Cursor) :
    rangeFrom flags first (s.push c) =
      if c = '-' ∧ standsAlone flags s.rest = false then
        (do
          skipSpace
          let last ← readMember
          ofOption (between flags first last) : Scan CharSet) s
      else ofOption (first.memberSet? flags) (s.push c) := by
  rw [rangeFrom, remaining_bind]
  by_cases hyphen : c = '-'
  · subst hyphen
    simp only [Cursor.push_rest]
    cases standsAlone flags s.rest with
    | true => rfl
    | false =>
      simp only [true_and, if_true, Bool.false_eq_true, if_false]
      rw [bind_of_eq_some (advanceTo_push '-' s), bind_of_eq_some (skipSpace_eq s)]
      change (readMember s.skipped).bind _ = (readMember s.skipped).bind _
      refine congrArg _ (funext fun ⟨last, t⟩ => ?_)
      unfold between
      dsimp only
      split
      · split <;> rfl
      · rfl
  · simp [hyphen]

theorem rangeFrom_look (flags : Flags) (condition : Look) (s : Cursor) :
    rangeFrom flags (.look condition) s = none := by
  rcases s.push_of_rest with ended | ⟨u, c, rfl⟩
  · rw [rangeFrom, remaining_bind, ended]
    rfl
  rw [rangeFrom_push]
  split
  · rw [bind_of_eq_some (skipSpace_eq u)]
    change (readMember u.skipped).bind _ = none
    cases readMember u.skipped <;> rfl
  · rfl

theorem rangeFrom_framed (flags : Flags) (first : Atom) (k : Nat) :
    Framed (fun _ t => t.rest = closing) k (rangeFrom flags first) (rangeFrom flags first) := by
  have ranged (k : Nat) : Framed never k (do
      skipSpace
      let last ← readMember
      ofOption (between flags first last)) (do
      skipSpace
      let last ← readMember
      ofOption (between flags first last)) := by
    refine .bind .skipSpace fun _ => .bind_of_blocked (readMember_framed k)
      (fun last => .ofOption _) ?_
    rintro last t b u ⟨⟨condition, rfl⟩, -⟩ found
    unfold between at found
    cases first <;> cases found
  have refused {s : Cursor} (ended : s.rest = []) : rangeFrom flags first s = none := by
    rw [rangeFrom, remaining_bind, ended]
    rfl
  have takes : Takes 0 (rangeFrom flags first) := by
    refine .of_suffix fun s a t found => ?_
    rcases s.push_of_rest with ended | ⟨u, c, rfl⟩
    · rw [refused ended] at found
      contradiction
    rw [rangeFrom_push] at found
    split at found
    · exact ((ranged 0).takes.suffix found).trans (List.suffix_cons c u.rest)
    · obtain ⟨-, rfl⟩ := (ofOption_eq_some_iff _ _ _ _).mp found
      exact List.suffix_rfl
  refine .of_chars takes takes (fun _ _ => rfl) (fun s left ended => ?_) fun c s left short => ?_
  · rw [refused ended]
    refine ⟨by simp, ?_⟩
    rintro a t found -
    rw [rangeFrom, remaining_bind, Cursor.followed_rest, ended] at found
    obtain ⟨-, kept⟩ := (ofOption_eq_some_iff _ _ _ _).mp found
    exact .inr (by rw [kept, Cursor.followed_rest, ended]; rfl)
  · rw [rangeFrom_push, rangeFrom_push, Cursor.followed_rest, standsAlone_closing]
    split
    · exact (ranged k).weaken.agree s left (by omega)
    · exact (Framed.ofOption _).agree (s.push c) left short

theorem readRange_framed (k : Nat) :
    Framed (fun _ t => t.rest = closing) k readRange readRange := by
  rw [readRange_eq]
  refine .bind .flags fun flags => .bind_of_blocked (readMember_framed k) (fun first =>
    .bind .skipSpace fun _ => rangeFrom_framed flags first k) ?_
  rintro first t b u ⟨⟨condition, rfl⟩, -⟩ found
  rw [bind_of_eq_some (skipSpace_eq t), rangeFrom_look] at found
  contradiction

theorem readRange_takes : Takes 1 readRange := by
  rw [readRange_eq]
  intro s chars t found
  rw [flags_bind] at found
  exact (readMember_takes.bind fun first => Takes.skipSpace.bind fun _ =>
    (rangeFrom_framed s.flags first 0).takes) s chars t found

end SpanAnnotation.Pattern
