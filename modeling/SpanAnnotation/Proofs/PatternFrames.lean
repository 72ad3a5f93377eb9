import SpanAnnotation.Pattern

/-!
Reading a pattern in front of a closing parenthesis and an end of text: what a reading does with a
text alone, it does with the closing behind the text. The exceptions are comments, which take the
closing in, and conditions in front of a brace.
-/

set_option autoImplicit false

namespace SpanAnnotation.Pattern

variable {α β : Type}

/-- What stands behind a pattern that is asked to match whole texts. -/
def closing : List Char := [')', '$']

@[simp] theorem closing_length : closing.length = 2 := rfl

namespace Cursor

def followed (cursor : Cursor) : Cursor := { cursor with rest := cursor.rest ++ closing }

def push (cursor : Cursor) (c : Char) : Cursor := { cursor with rest := c :: cursor.rest }

@[simp] theorem followed_rest (cursor : Cursor) :
    cursor.followed.rest = cursor.rest ++ closing := rfl

@[simp] theorem push_rest (cursor : Cursor) (c : Char) :
    (cursor.push c).rest = c :: cursor.rest := rfl

theorem followed_push (cursor : Cursor) (c : Char) :
    (cursor.push c).followed = cursor.followed.push c := rfl

theorem eq_push {cursor : Cursor} {c : Char} {rest : List Char} (head : cursor.rest = c :: rest) :
    cursor = push { cursor with rest := rest } c := by
  cases cursor
  cases head
  rfl

theorem push_of_rest (cursor : Cursor) :
    cursor.rest = [] ∨ ∃ (before : Cursor) (c : Char), cursor = before.push c := by
  cases head : cursor.rest with
  | nil => exact .inl rfl
  | cons c rest => exact .inr ⟨_, c, eq_push head⟩

theorem rest_ne {cursor : Cursor} {c : Char} (other : cursor.rest.head? ≠ some c)
    (rest : List Char) : cursor.rest ≠ c :: rest := by
  intro head
  simp [head] at other

theorem push_of_head {cursor : Cursor} {c : Char} (head : cursor.rest.head? = some c) :
    ∃ before : Cursor, cursor = before.push c := by
  rcases cursor.push_of_rest with ended | ⟨before, first, rfl⟩
  · simp [ended] at head
  · obtain rfl : first = c := by simpa using head
    exact ⟨before, rfl⟩

theorem followed_closes {cursor : Cursor} (ended : cursor.rest = []) :
    ∃ before : Cursor, cursor.followed = before.push ')' :=
  push_of_head (by simp [ended, closing])

theorem followed_head_ne {cursor : Cursor} {c : Char} (apart : c ≠ ')')
    (other : cursor.rest.head? ≠ some c) : cursor.followed.rest.head? ≠ some c := by
  cases rest : cursor.rest with
  | nil => simpa [rest, closing] using apart.symm
  | cons first rest' => simpa [rest] using other

end Cursor

-- Blanks and comments.

theorem dropSpace_suffix (inComment : Bool) (cs : List Char) : dropSpace inComment cs <:+ cs := by
  induction cs generalizing inComment with
  | nil => exact List.suffix_rfl
  | cons c rest ih =>
      have less := fun b => (ih b).trans (List.suffix_cons c rest)
      unfold dropSpace
      split
      · exact less _
      split
      · exact less _
      split
      · exact less _
      · exact List.suffix_rfl

theorem dropSpace_closing (inComment : Bool) (cs : List Char) :
    dropSpace inComment (cs ++ closing) = dropSpace inComment cs ++ closing ∨
      dropSpace inComment cs = [] ∧ dropSpace inComment (cs ++ closing) = [] := by
  induction cs generalizing inComment with
  | nil =>
      cases inComment with
      | false => exact .inl (by decide)
      | true => exact .inr (by decide)
  | cons c rest ih =>
      simp only [List.cons_append, dropSpace]
      split
      · exact ih _
      split
      · exact ih _
      split
      · exact ih _
      · exact .inl rfl

namespace Cursor

/-- The cursor after blanks and comments, where these do not count. -/
def skipped (cursor : Cursor) : Cursor :=
  if cursor.flags.spaced then { cursor with rest := dropSpace false cursor.rest } else cursor

theorem skipped_suffix (cursor : Cursor) : cursor.skipped.rest <:+ cursor.rest := by
  unfold skipped
  split
  · exact dropSpace_suffix _ _
  · exact List.suffix_rfl

theorem followed_skipped (cursor : Cursor) :
    cursor.followed.skipped = cursor.skipped.followed ∨
      cursor.skipped.rest = [] ∧ cursor.followed.skipped = cursor.skipped := by
  unfold skipped
  by_cases spaced : cursor.flags.spaced = true
  next =>
    rw [if_pos spaced, if_pos (show cursor.followed.flags.spaced = true from spaced)]
    rcases dropSpace_closing false cursor.rest with kept | ⟨ended, taken⟩
    · exact .inl (by rw [followed_rest, kept]; rfl)
    · exact .inr ⟨ended, by rw [followed_rest, taken, ended]; rfl⟩
  next =>
    rw [if_neg spaced, if_neg (show ¬ cursor.followed.flags.spaced = true from spaced)]
    exact .inl rfl

end Cursor

theorem skipSpace_eq (s : Cursor) : skipSpace s = some ((), s.skipped) := by
  unfold skipSpace Cursor.skipped
  split <;> rfl

theorem advanceTo_push (c : Char) (s : Cursor) :
    advanceTo s.rest (s.push c) = some ((), s.skipped) := skipSpace_eq s

namespace Scan

-- What the steps of a reading do to a cursor.

theorem bind_eq_some_iff (read : Scan α) (next : α → Scan β) (s : Cursor) (b : β) (t : Cursor) :
    (read >>= next) s = some (b, t) ↔ ∃ a u, read s = some (a, u) ∧ next a u = some (b, t) := by
  change (read s).bind (fun found => next found.1 found.2) = some (b, t) ↔ _
  simp [Option.bind_eq_some_iff]

theorem bind_of_eq_some {read : Scan α} {s t : Cursor} {a : α} (here : read s = some (a, t))
    (next : α → Scan β) : (read >>= next) s = next a t := by
  change (read s).bind (fun found => next found.1 found.2) = _
  rw [here]
  rfl

theorem remaining_bind (next : List Char → Scan β) (s : Cursor) :
    (remaining >>= next) s = next s.rest s := rfl

theorem flags_bind (next : Flags → Scan β) (s : Cursor) : (flags >>= next) s = next s.flags s := rfl

theorem ofOption_eq_some_iff (found : Option α) (s : Cursor) (a : α) (t : Cursor) :
    ofOption found s = some (a, t) ↔ found = some a ∧ t = s := by
  cases found with
  | none => exact ⟨nofun, nofun⟩
  | some b =>
      change some (b, s) = some (a, t) ↔ _
      simp [eq_comm]

/-- What is left is an end of the text, and at least `n` characters are taken. -/
def Takes (n : Nat) (read : Scan α) : Prop :=
  ∀ s a t, read s = some (a, t) → t.rest <:+ s.rest ∧ t.rest.length + n ≤ s.rest.length

namespace Takes

variable {m n : Nat} {read : Scan α} {next : α → Scan β}

theorem mono (takes : Takes n read) (less : m ≤ n) : Takes m read := by
  intro s a t found
  obtain ⟨left, shorter⟩ := takes s a t found
  exact ⟨left, by omega⟩

theorem suffix (takes : Takes n read) {s t : Cursor} {a : α} (found : read s = some (a, t)) :
    t.rest <:+ s.rest := (takes s a t found).1

theorem length_le (takes : Takes n read) {s t : Cursor} {a : α} (found : read s = some (a, t)) :
    t.rest.length + n ≤ s.rest.length := (takes s a t found).2

theorem of_suffix (left : ∀ s a t, read s = some (a, t) → t.rest <:+ s.rest) : Takes 0 read :=
  fun s a t found => ⟨left s a t found, (left s a t found).length_le⟩

theorem pure (a : α) : Takes 0 (Pure.pure a : Scan α) := by
  refine .of_suffix ?_
  rintro s b t ⟨⟩
  exact List.suffix_rfl

theorem refuse : Takes n (Scan.refuse : Scan α) := by
  intro s a t found
  cases found

theorem skipSpace : Takes 0 Pattern.skipSpace := by
  refine .of_suffix fun s a t found => ?_
  rw [skipSpace_eq] at found
  cases found
  exact s.skipped_suffix

theorem bind (first : Takes m read) (each : ∀ a, Takes n (next a)) :
    Takes (m + n) (read >>= next) := by
  intro s b t found
  obtain ⟨a, u, here, there⟩ := (bind_eq_some_iff _ _ _ _ _).mp found
  have shorter := first.length_le here
  have shorter' := (each a).length_le there
  exact ⟨((each a).suffix there).trans (first.suffix here), by omega⟩

theorem refuses (takes : Takes (n + 1) read) {s : Cursor} (ended : s.rest = []) :
    read s = none := by
  cases found : read s with
  | none => rfl
  | some result =>
      have shorter := takes.length_le found
      rw [ended, List.length_nil] at shorter
      omega

theorem of_push {rest : Char → Scan α} (refuses : ∀ s, s.rest = [] → read s = none)
    (steps : ∀ c s, read (s.push c) = rest c s) (each : ∀ c, Takes n (rest c)) :
    Takes (n + 1) read := by
  intro s a t found
  rcases s.push_of_rest with ended | ⟨u, c, rfl⟩
  · rw [refuses s ended] at found
    contradiction
  · rw [steps c u] at found
    have shorter := (each c).length_le found
    exact ⟨((each c).suffix found).trans (List.suffix_cons c u.rest), by simp; omega⟩

theorem of_mark {mark : Char} {rest other : Scan α} (steps : ∀ s, read (s.push mark) = rest s)
    (leaves : ∀ s, s.rest.head? ≠ some mark → read s = other s) (takes : Takes 0 rest)
    (takes_other : Takes 0 other) : Takes 0 read := by
  refine .of_suffix fun s a t found => ?_
  by_cases marked : s.rest.head? = some mark
  · obtain ⟨u, rfl⟩ := Cursor.push_of_head marked
    rw [steps u] at found
    exact (takes.suffix found).trans (List.suffix_cons mark u.rest)
  · rw [leaves s marked] at found
    exact takes_other.suffix found

theorem of_test {test : List Char → Bool} (takes : Takes n read) :
    Takes n (do if test (← remaining) then Scan.refuse else read) := by
  intro s a t found
  rw [remaining_bind] at found
  split at found
  · cases found
  · exact takes s a t found

end Takes

/-- What is found in front of the closing is what is found at the end of the text, as long as so
much is left and no comment takes the closing in. -/
structure Agree (E : α → Cursor → Prop) (left : Nat) (alone behind : Option (α × Cursor)) :
    Prop where
  onward : ∀ a t, alone = some (a, t) → left ≤ t.rest.length →
    behind = some (a, t.followed) ∨ t.rest = [] ∧ behind = some (a, t)
  back : ∀ a t, behind = some (a, t) → left + closing.length ≤ t.rest.length →
    (∃ u, t = u.followed ∧ alone = some (a, u)) ∨ E a t

namespace Agree

variable {E : α → Cursor → Prop} {left : Nat}

theorem of_eq {a : α} {t : Cursor} {behind : Option (α × Cursor)}
    (same : behind = some (a, t.followed)) : Agree E left (some (a, t)) behind := by
  subst same
  refine ⟨?_, ?_⟩
  · rintro a t ⟨⟩ -
    exact .inl rfl
  · rintro a t ⟨⟩ -
    exact .inl ⟨_, rfl, rfl⟩

/-- Too much is taken. -/
theorem of_takes {read behind : Scan α} {n : Nat} (takes : Takes n read) (takes' : Takes n behind)
    {s : Cursor} (short : s.rest.length < left + n) :
    Agree E left (read s) (behind s.followed) := by
  refine ⟨fun a t found long => ?_, fun a t found long => ?_⟩
  · have shorter := takes.length_le found
    omega
  · have shorter := takes'.length_le found
    rw [Cursor.followed_rest, List.length_append] at shorter
    omega

end Agree

/-- The one reading does with texts, as long as it takes at most `k` characters, what the other does
with the closing behind them. -/
structure Framed (E : α → Cursor → Prop) (k : Nat) (read behind : Scan α) : Prop where
  takes : Takes 0 read
  takes' : Takes 0 behind
  ended : ∀ s, s.rest = [] → read s = behind s
  agree : ∀ s left, s.rest.length ≤ left + k → Agree E left (read s) (behind s.followed)

def never : α → Cursor → Prop := fun _ _ => False

namespace Framed

variable {E : α → Cursor → Prop} {E' : β → Cursor → Prop} {k l : Nat}
variable {read behind : Scan α} {next next' : α → Scan β}

/-- Where both parts are sure to take something, each has less to take. -/
theorem bind_of_takes {m n p : Nat} (first : Framed E k read behind)
    (each : ∀ a, Framed E' l (next a) (next' a)) (takes : Takes m read)
    (takesThen : ∀ a, Takes n (next a)) (takesThen' : ∀ a, Takes n (next' a))
    (before : p ≤ k + n) (after : p ≤ l + m)
    (blocked : ∀ a t b u, E a t → next' a t = some (b, u) → closing.length ≤ u.rest.length →
      E' b u) :
    Framed E' p (read >>= next) (behind >>= next') := by
  refine ⟨first.takes.bind fun a => (each a).takes,
    first.takes'.bind fun a => (each a).takes', ?_, fun s left short => ⟨?_, ?_⟩⟩
  next =>
    intro s ended
    change (read s).bind _ = (behind s).bind _
    rw [← first.ended s ended]
    cases here : read s with
    | none => rfl
    | some found =>
        have last := first.takes.suffix here
        rw [ended, List.suffix_nil] at last
        exact (each found.1).ended found.2 last
  next =>
    intro b t found long
    obtain ⟨a, u, here, there⟩ := (bind_eq_some_iff _ _ _ _ _).mp found
    have less := takes.length_le here
    have lessThen := (takesThen a).length_le there
    simp only [bind_eq_some_iff]
    rcases (first.agree s (left + n) (by omega)).onward a u here (by omega) with
      kept | ⟨ended, taken⟩
    · rcases ((each a).agree u left (by omega)).onward b t there long with same | ⟨last, taken⟩
      · exact .inl ⟨a, _, kept, same⟩
      · exact .inr ⟨last, a, _, kept, taken⟩
    · have last := (each a).takes.suffix there
      rw [ended, List.suffix_nil] at last
      exact .inr ⟨last, a, u, taken, (each a).ended u ended ▸ there⟩
  next =>
    intro b t found long
    obtain ⟨a, u, here, there⟩ := (bind_eq_some_iff _ _ _ _ _).mp found
    have lessThen := (takesThen' a).length_le there
    simp only [bind_eq_some_iff]
    rcases (first.agree s (left + n) (by omega)).back a u here (by omega) with
      ⟨v, rfl, alone⟩ | blocks
    · have less := takes.length_le alone
      rcases ((each a).agree v left (by omega)).back b t there long with ⟨w, rfl, last⟩ | blocks
      · exact .inl ⟨w, rfl, a, v, alone, last⟩
      · exact .inr blocks
    · exact .inr (blocked a u b t blocks there (by omega))

theorem bind_of_blocked (first : Framed E k read behind)
    (each : ∀ a, Framed E' k (next a) (next' a))
    (blocked : ∀ a t b u, E a t → next' a t = some (b, u) → closing.length ≤ u.rest.length →
      E' b u) :
    Framed E' k (read >>= next) (behind >>= next') :=
  first.bind_of_takes each first.takes (fun a => (each a).takes) (fun a => (each a).takes')
    (by omega) (by omega) blocked

theorem bind (first : Framed never k read behind) (each : ∀ a, Framed E' k (next a) (next' a)) :
    Framed E' k (read >>= next) (behind >>= next') :=
  first.bind_of_blocked each fun _ _ _ _ excluded => excluded.elim

theorem weaken (framed : Framed never k read behind) : Framed E k read behind := by
  refine ⟨framed.takes, framed.takes', framed.ended, fun s left short => ⟨?_, ?_⟩⟩
  · exact (framed.agree s left short).onward
  · intro a t found long
    exact .inl (((framed.agree s left short).back a t found long).resolve_right id)

theorem pure (a : α) : Framed E k (Pure.pure a) (Pure.pure a) :=
  ⟨.pure a, .pure a, fun _ _ => rfl, fun _ _ _ => .of_eq rfl⟩

theorem refuse : Framed E k (Scan.refuse : Scan α) Scan.refuse := by
  refine ⟨.refuse, .refuse, fun _ _ => rfl, fun s _ _ => ⟨?_, ?_⟩⟩
  · intro a t found
    cases found
  · intro a t found
    cases found

theorem ofOption (found : Option α) : Framed E k (Scan.ofOption found) (Scan.ofOption found) := by
  cases found with
  | none => exact refuse
  | some a => exact pure a

/-- A reading of the flags, the names or the number of groups alone. -/
theorem of_unread {value : Cursor → α} {change : Cursor → Cursor}
    (reads : ∀ s, read s = some (value s, change s)) (keeps : ∀ s, (change s).rest = s.rest)
    (same : ∀ s, value s.followed = value s ∧ change s.followed = (change s).followed) :
    Framed E k read read := by
  have takes : Takes 0 read := by
    refine .of_suffix fun s a t found => ?_
    rw [reads] at found
    cases found
    exact (keeps s).symm ▸ List.suffix_rfl
  refine ⟨takes, takes, fun _ _ => rfl, fun s _ _ => ?_⟩
  rw [reads, reads, (same s).1, (same s).2]
  exact .of_eq rfl

theorem flags : Framed never k Scan.flags Scan.flags :=
  of_unread (fun _ => rfl) (fun _ => rfl) fun _ => ⟨rfl, rfl⟩

theorem setFlags (flags : Flags) : Framed never k (Scan.setFlags flags) (Scan.setFlags flags) :=
  of_unread (fun _ => rfl) (fun _ => rfl) fun _ => ⟨rfl, rfl⟩

theorem skipSpace : Framed never k Pattern.skipSpace Pattern.skipSpace := by
  refine ⟨.skipSpace, .skipSpace, fun _ _ => rfl, fun s _ _ => ?_⟩
  rw [skipSpace_eq, skipSpace_eq]
  rcases s.followed_skipped with kept | ⟨ended, taken⟩
  · exact .of_eq (by rw [kept])
  · refine ⟨?_, ?_⟩
    · rintro a t ⟨⟩ -
      exact .inr ⟨ended, by rw [taken]⟩
    · rintro a t found long
      cases found
      rw [taken, ended] at long
      simp at long

theorem of_takes (takes : Takes 1 read) (takes' : Takes 1 behind) : Framed E 0 read behind :=
  ⟨takes.mono (by omega), takes'.mono (by omega),
    fun s ended => by rw [takes.refuses ended, takes'.refuses ended],
    fun s left short => .of_takes takes takes' (by omega)⟩

/-- A reading is known by what it does at the end of a text and at each first character. -/
theorem of_chars (takes : Takes 0 read) (takes' : Takes 0 behind)
    (same : ∀ s, s.rest = [] → read s = behind s)
    (ends : ∀ s left, s.rest = [] → Agree E left (read s) (behind s.followed))
    (each : ∀ (c : Char) (s : Cursor) (left : Nat), s.rest.length < left + k →
      Agree E left (read (s.push c)) (behind (s.followed.push c))) : Framed E k read behind := by
  refine ⟨takes, takes', same, fun s left short => ?_⟩
  rcases s.push_of_rest with ended | ⟨u, c, rfl⟩
  · exact ends s left ended
  · exact each c u left short

/-- A reading that takes the first character whatever it is. -/
theorem of_taking {rest rest' : Char → Scan α} (takes : Takes 1 read)
    (takes' : Takes 1 behind) (steps : ∀ c s, read (s.push c) = rest c s)
    (steps' : ∀ c s, behind (s.push c) = rest' c s)
    (framed : ∀ less c, k = less + 1 → Framed E less (rest c) (rest' c)) :
    Framed E k read behind := by
  cases k with
  | zero => exact of_takes takes takes'
  | succ k =>
    refine of_chars (takes.mono (by omega)) (takes'.mono (by omega))
      (fun s ended => by rw [takes.refuses ended, takes'.refuses ended])
      (fun s left ended => .of_takes takes takes' (by simp [ended])) fun c s left short => ?_
    rw [steps, steps']
    exact (framed k c rfl).agree s left (by omega)

theorem self_of_taking (rest : Char → Scan α) (refuses : ∀ s, s.rest = [] → read s = none)
    (steps : ∀ c s, read (s.push c) = rest c s)
    (framed : ∀ k c, Framed E k (rest c) (rest c)) : Framed E k read read := by
  have takes : Takes 1 read := Takes.of_push refuses steps fun c => (framed 0 c).takes
  exact of_taking takes takes steps steps fun less c _ => framed less c

/-- A reading that looks whether a certain character is there, and takes it. -/
theorem of_mark {mark : Char} {rest rest' other other' : Scan α} (apart : mark ≠ ')')
    (steps : ∀ s, read (s.push mark) = rest s) (steps' : ∀ s, behind (s.push mark) = rest' s)
    (leaves : ∀ s, s.rest.head? ≠ some mark → read s = other s)
    (leaves' : ∀ s, s.rest.head? ≠ some mark → behind s = other' s)
    (takes : Takes 0 rest) (takes' : Takes 0 rest')
    (framed : ∀ less, k = less + 1 → Framed E less rest rest')
    (framed_other : Framed E k other other') : Framed E k read behind := by
  refine of_chars (.of_mark steps leaves takes framed_other.takes)
    (.of_mark steps' leaves' takes' framed_other.takes') (fun s ended => ?_)
    (fun s left ended => ?_) fun c s left short => ?_
  · rw [leaves s (by simp [ended]), leaves' s (by simp [ended]), framed_other.ended s ended]
  · have unmarked : s.rest.head? ≠ some mark := by simp [ended]
    rw [leaves s unmarked, leaves' s.followed (Cursor.followed_head_ne apart unmarked)]
    exact framed_other.agree s left (by simp [ended])
  · by_cases marked : c = mark
    · rw [marked, steps, steps']
      cases k with
      | zero => exact .of_takes takes takes' short
      | succ k => exact (framed k rfl).agree s left (by omega)
    · rw [leaves _ (by simpa using marked), leaves' _ (by simpa using marked)]
      exact framed_other.agree (s.push c) left short

theorem self_of_mark (mark : Char) (rest other : Scan α) (apart : mark ≠ ')')
    (steps : ∀ s, read (s.push mark) = rest s)
    (leaves : ∀ s, s.rest.head? ≠ some mark → read s = other s)
    (framed : ∀ k, Framed E k rest rest) (framed_other : ∀ k, Framed E k other other) :
    Framed E k read read :=
  of_mark apart steps steps leaves leaves (framed 0).takes (framed 0).takes
    (fun less _ => framed less) (framed_other k)

theorem of_test {test : List Char → Bool} (same : ∀ cs, test (cs ++ closing) = test cs)
    (framed : Framed E k read behind) :
    Framed E k (do if test (← remaining) then Scan.refuse else read)
      (do if test (← remaining) then Scan.refuse else behind) := by
  refine ⟨framed.takes.of_test, framed.takes'.of_test, fun s ended => ?_, fun s left short => ?_⟩
  · rw [remaining_bind, remaining_bind]
    split
    · rfl
    · exact framed.ended s ended
  · rw [remaining_bind, remaining_bind, Cursor.followed_rest, same]
    split
    · exact refuse.agree s left short
    · exact framed.agree s left short

/-- The number of steps allowed goes by the length of the text. -/
theorem of_fuel {family family' : Nat → Scan α} {extra : Nat}
    (each : ∀ less m n, less + extra ≤ m → less + extra ≤ n →
      Framed E less (family m) (family' n)) :
    Framed E k (fun s => family (s.rest.length + extra) s)
      (fun s => family' (s.rest.length + extra) s) := by
  have short (m n : Nat) := each 0 (m + extra) (n + extra) (by omega) (by omega)
  refine ⟨fun s => (short _ 0).takes s, fun s => (short 0 _).takes' s,
    fun s ended => (short _ _).ended s ended, fun s left short => ?_⟩
  exact (each s.rest.length _ _ (by omega) (by simp)).agree s left (by omega)

end Framed

end Scan

end SpanAnnotation.Pattern
