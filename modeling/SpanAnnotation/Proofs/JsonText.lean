import SpanAnnotation.Proofs.NumberText
import SpanAnnotation.Proofs.StringText
import SpanAnnotation.Wire.JsonText

/-!
The JSON text of a value reads back, whatever text comes after it. Values without doubles that are
not nested too deep come back as they were, except that whole numbers beyond 64 bits do not stay
whole numbers.
-/

set_option autoImplicit false

namespace SpanAnnotation.Wire

mutual

/-- There are no doubles, nothing is unreadable, and nothing is nested too deep when the value
stands at a depth. -/
def Value.plain (depth : Nat) : Value → Bool
  | .float _ => false
  | .unreadable => false
  | .array items => decide (depth < Json.maxDepth) && Value.allPlain (depth + 1) items
  | .object members => decide (depth < Json.maxDepth) && Value.membersPlain (depth + 1) members
  | _ => true

def Value.allPlain (depth : Nat) : List Value → Bool
  | [] => true
  | v :: rest => v.plain depth && Value.allPlain depth rest

def Value.membersPlain (depth : Nat) : List (String × Value) → Bool
  | [] => true
  | (_, v) :: rest => v.plain depth && Value.membersPlain depth rest

end

mutual

/-- What a value becomes when it is written and read. -/
def Value.settled : Value → Value
  | .int n => settledNumber n
  | .array items => .array (Value.allSettled items)
  | .object members => .object (Value.membersSettled members)
  | v => v

def Value.allSettled : List Value → List Value
  | [] => []
  | v :: rest => v.settled :: Value.allSettled rest

def Value.membersSettled : List (String × Value) → List (String × Value)
  | [] => []
  | (key, v) :: rest => (key, v.settled) :: Value.membersSettled rest

end

theorem Value.allPlain_iff (depth : Nat) (items : List Value) :
    Value.allPlain depth items = true ↔ ∀ v ∈ items, v.plain depth = true := by
  induction items with
  | nil => simp [Value.allPlain]
  | cons v rest ih => simp [Value.allPlain, ih]

theorem Value.allSettled_eq_map (items : List Value) :
    Value.allSettled items = items.map Value.settled := by
  induction items with
  | nil => rfl
  | cons v rest ih => simp [Value.allSettled, ih]

namespace Json

theorem skipSpace_cons (c : Char) (cs : List Char) (visible : isSpace c = false) :
    skipSpace (c :: cs) = c :: cs := by
  simp [skipSpace, visible]

theorem isSpace_of_numeric (c : Char) (numeric : c.isDigit = true ∨ c = '-') :
    isSpace c = false := by
  rw [isSpace, Bool.eq_false_iff]
  intro space
  simp only [Bool.or_eq_true, beq_iff_eq] at space
  rcases numeric with digit | rfl
  · rcases space with ((rfl | rfl) | rfl) | rfl <;> exact absurd digit (by decide)
  · exact absurd space (by decide)

theorem readValue_number (fuel depth : Nat) (c : Char) (cs : List Char)
    (numeric : c.isDigit = true ∨ c = '-') :
    readValue (fuel + 1) depth (c :: cs) = readNumber (c :: cs) := by
  rw [readValue, skipSpace_cons c cs (isSpace_of_numeric c numeric)]
  split
  all_goals first
    | rfl
    | (rename_i same
       rw [(List.cons.inj same).1] at numeric
       exact absurd numeric (by decide))

-- The texts of items and of members, with commas between them.

def itemsText (items : List Value) : List Char := (",".intercalate (renderItems items)).toList

def membersText (members : List (String × Value)) : List Char :=
  (",".intercalate (renderMembers members)).toList

theorem itemsText_single (v : Value) : itemsText [v] = (render v).toList := by
  simp [itemsText, renderItems]

theorem itemsText_cons (v w : Value) (rest : List Value) :
    itemsText (v :: w :: rest) = (render v).toList ++ ',' :: itemsText (w :: rest) := by
  simp [itemsText, renderItems]

theorem membersText_single (key : String) (v : Value) :
    membersText [(key, v)] = (quoted key).toList ++ ':' :: (render v).toList := by
  simp [membersText, renderMembers]

theorem membersText_cons (key : String) (v : Value) (member : String × Value)
    (rest : List (String × Value)) :
    membersText ((key, v) :: member :: rest) =
      (quoted key).toList ++ ':' :: (render v).toList ++ ',' :: membersText (member :: rest) := by
  simp [membersText, renderMembers]

theorem toList_render_array (items : List Value) :
    (render (.array items)).toList = '[' :: itemsText items ++ [']'] := by
  simp [render, itemsText]

theorem toList_render_object (members : List (String × Value)) :
    (render (.object members)).toList = '\x7b' :: membersText members ++ ['\x7d'] := by
  simp [render, membersText]

theorem toList_render_int (n : Int) :
    ∃ first rest, (render (.int n)).toList = first :: rest ∧
      (first.isDigit = true ∨ first = '-') := by
  obtain ⟨first, others, digits⟩ := List.exists_cons_of_ne_nil (Nat.toDigits_ne_nil (b := 10)
    (n := n.natAbs))
  have digit := allDigits_toDigits n.natAbs first (by simp [digits])
  rw [render, toList_toString_int, digits]
  split
  · exact ⟨'-', _, rfl, .inr rfl⟩
  · exact ⟨first, others, rfl, .inl digit⟩

theorem toList_render_start (depth : Nat) (v : Value) (plain : v.plain depth = true) :
    ∃ first rest, (render v).toList = first :: rest ∧ isSpace first = false ∧ first ≠ ']' := by
  cases v with
  | null => exact ⟨'n', ['u', 'l', 'l'], by simp [render], rfl, by decide⟩
  | bool b =>
    cases b with
    | false => exact ⟨'f', ['a', 'l', 's', 'e'], rfl, rfl, by decide⟩
    | true => exact ⟨'t', ['r', 'u', 'e'], rfl, rfl, by decide⟩
  | int n =>
    obtain ⟨first, rest, text, numeric⟩ := toList_render_int n
    refine ⟨first, rest, text, ?_, ?_⟩
    · exact isSpace_of_numeric first numeric
    · rintro rfl
      exact absurd numeric (by decide)
  | float x => simp [Value.plain] at plain
  | text s => exact ⟨'"', _, by rw [render, toList_quoted]; rfl, rfl, by decide⟩
  | array items => exact ⟨'[', _, toList_render_array items, rfl, by decide⟩
  | object members => exact ⟨'\x7b', _, toList_render_object members, rfl, by decide⟩
  | unreadable => simp [Value.plain] at plain

theorem itemsText_start (depth : Nat) (v : Value) (others : List Value)
    (plain : v.plain depth = true) :
    ∃ first rest, itemsText (v :: others) = first :: rest ∧ isSpace first = false ∧
      first ≠ ']' := by
  obtain ⟨first, rest, text, start⟩ := toList_render_start depth v plain
  cases others with
  | nil => exact ⟨first, rest, by rw [itemsText_single, text], start⟩
  | cons w others => exact ⟨first, _, by rw [itemsText_cons, text]; rfl, start⟩

theorem membersText_start (member : String × Value) (others : List (String × Value)) :
    ∃ rest, membersText (member :: others) = '"' :: rest := by
  obtain ⟨key, v⟩ := member
  cases others with
  | nil => exact ⟨_, by rw [membersText_single, toList_quoted]; rfl⟩
  | cons member others => exact ⟨_, by rw [membersText_cons, toList_quoted]; rfl⟩

theorem endsNumber_cons (c : Char) (rest : List Char)
    (mark : c = ',' ∨ c = ']' ∨ c = '\x7d') : EndsNumber (c :: rest) := by
  intro other same
  obtain rfl : c = other := by simpa using same
  rcases mark with rfl | rfl | rfl <;> decide

theorem objectOf_named (members : List (String × Value)) :
    objectOf (members.map fun member => (some member.1, member.2)) = .object members := by
  simp [objectOf, List.filterMap_map, Function.comp_def]

-- The fuel is at least the length of the text that is left, since every step of the reader that
-- goes deeper or further has taken a character before.

mutual

/-- The text of a value reads back whatever follows it, as long as that goes on with no number. -/
theorem readValue_render (fuel depth : Nat) (v : Value) (rest : List Char)
    (plain : v.plain depth = true) (enough : (render v).toList.length ≤ fuel)
    (ends : EndsNumber rest) :
    readValue fuel depth ((render v).toList ++ rest) = some (v.settled, rest) := by
  obtain ⟨first, others, start, visible, _⟩ := toList_render_start depth v plain
  obtain ⟨fuel, rfl⟩ : ∃ less, fuel = less + 1 := ⟨fuel - 1, by
    rw [start, List.length_cons] at enough
    omega⟩
  cases v with
  | null => rfl
  | bool b => cases b <;> rfl
  | int n =>
    obtain ⟨first, others, text, numeric⟩ := toList_render_int n
    have number := readNumber_toString n rest ends
    rw [← render, text] at number
    rw [text, List.cons_append, readValue_number fuel depth first _ numeric]
    exact number
  | float x => simp [Value.plain] at plain
  | text s =>
    rw [render, toList_quoted, List.append_assoc, List.cons_append, readValue,
      skipSpace_cons _ _ rfl]
    simp [readString_quoted, Value.settled]
  | array items =>
    simp only [Value.plain, Bool.and_eq_true, decide_eq_true_eq] at plain
    have shallow : depth + 1 ≤ maxDepth := plain.1
    rw [toList_render_array] at enough ⊢
    rw [List.append_assoc, List.cons_append, readValue, skipSpace_cons _ _ rfl]
    cases items with
    | nil =>
      simp [itemsText, renderItems, skipSpace, isSpace, guardDepth, shallow, Value.settled,
        Value.allSettled]
    | cons v others =>
      have first := (Value.allPlain_iff (depth + 1) (v :: others)).mp plain.2 v (by simp)
      obtain ⟨c, cs, text, visible, notClosed⟩ := itemsText_start (depth + 1) v others first
      have read := readElements_render fuel (depth + 1) (v :: others) rest (by simp) plain.2 (by
        simp only [List.length_append, List.length_cons, List.length_nil] at enough
        omega)
      rw [text, List.cons_append] at read
      simp only [text, List.cons_append, List.nil_append, skipSpace_cons c _ visible]
      split
      next closed => exact absurd (List.cons.inj closed).1 notClosed
      next => simp [read, guardDepth, shallow, Value.settled]
  | object members =>
    simp only [Value.plain, Bool.and_eq_true, decide_eq_true_eq] at plain
    have shallow : depth + 1 ≤ maxDepth := plain.1
    rw [toList_render_object] at enough ⊢
    rw [List.append_assoc, List.cons_append, readValue, skipSpace_cons _ _ rfl]
    cases members with
    | nil =>
      simp [membersText, renderMembers, skipSpace, isSpace, guardDepth, shallow, Value.settled,
        Value.membersSettled]
    | cons member others =>
      obtain ⟨cs, text⟩ := membersText_start member others
      have read := readMembers_render fuel (depth + 1) (member :: others) rest (by simp) plain.2 (by
        simp only [List.length_append, List.length_cons, List.length_nil] at enough
        omega)
      rw [text, List.cons_append] at read
      simp only [text, List.cons_append, List.nil_append, skipSpace_cons '"' _ rfl]
      simp [read, objectOf_named, guardDepth, shallow, Value.settled]
  | unreadable => simp [Value.plain] at plain

theorem readElements_render (fuel depth : Nat) (items : List Value) (rest : List Char)
    (some : items ≠ []) (plain : Value.allPlain depth items = true)
    (enough : (itemsText items).length < fuel) :
    readElements fuel depth (itemsText items ++ ']' :: rest) =
      .some (Value.allSettled items, rest) := by
  obtain ⟨fuel, rfl⟩ : ∃ less, fuel = less + 1 := ⟨fuel - 1, by omega⟩
  cases items with
  | nil => exact absurd rfl some
  | cons v others =>
    cases others with
    | nil =>
      rw [itemsText_single] at enough ⊢
      have item := readValue_render fuel depth v (']' :: rest)
        (by simpa [Value.allPlain] using plain) (by omega) (endsNumber_cons _ _ (by simp))
      simp [readElements, item, skipSpace, isSpace, Value.allSettled]
    | cons w others =>
      rw [itemsText_cons] at enough ⊢
      simp only [List.length_append, List.length_cons] at enough
      rw [Value.allPlain, Bool.and_eq_true] at plain
      have item := readValue_render fuel depth v (',' :: (itemsText (w :: others) ++ ']' :: rest))
        plain.1 (by omega) (endsNumber_cons _ _ (by simp))
      have items := readElements_render fuel depth (w :: others) rest (by simp) plain.2 (by omega)
      simp [readElements, item, items, skipSpace, isSpace, Value.allSettled]

theorem readMembers_render (fuel depth : Nat) (members : List (String × Value))
    (rest : List Char) (some : members ≠ []) (plain : Value.membersPlain depth members = true)
    (enough : (membersText members).length < fuel) :
    readMembers fuel depth (membersText members ++ '\x7d' :: rest) =
      .some ((Value.membersSettled members).map fun member => (.some member.1, member.2),
        rest) := by
  obtain ⟨fuel, rfl⟩ : ∃ less, fuel = less + 1 := ⟨fuel - 1, by omega⟩
  cases members with
  | nil => exact absurd rfl some
  | cons first others =>
    obtain ⟨key, v⟩ := first
    cases others with
    | nil =>
      rw [membersText_single, toList_quoted] at enough ⊢
      simp only [List.length_append, List.length_cons] at enough
      have item := readValue_render fuel depth v ('\x7d' :: rest)
        (by simpa [Value.membersPlain] using plain) (by omega) (endsNumber_cons _ _ (by simp))
      simp [readMembers, readString_quoted, item, skipSpace, isSpace, Value.membersSettled]
    | cons member others =>
      rw [membersText_cons, toList_quoted] at enough ⊢
      simp only [List.length_append, List.length_cons] at enough
      rw [Value.membersPlain, Bool.and_eq_true] at plain
      have item := readValue_render fuel depth v
        (',' :: (membersText (member :: others) ++ '\x7d' :: rest)) plain.1 (by omega)
        (endsNumber_cons _ _ (by simp))
      have items := readMembers_render fuel depth (member :: others) rest (by simp) plain.2
        (by omega)
      simp [readMembers, readString_quoted, item, items, skipSpace, isSpace, Value.membersSettled]

end

theorem read_render (v : Value) (plain : v.plain 0 = true) :
    Json.read (render v) = some (v.settled, []) := by
  have whole := readValue_render (2 * (render v).toList.length + 2) 0 v [] plain (by omega)
    endsNumber_nil
  rwa [List.append_nil] at whole

/-- What is read from the text of a plain value is what a reader makes of it once settled. -/
theorem decode_render {α : Type} (reader : Read α) (v : Value) (plain : v.plain 0 = true) :
    decode reader (render v) = reader v.settled := by
  rw [decode, read_render v plain]
  cases found : reader v.settled <;> simp [found, bind, Except.bind, pure, Except.pure]

end Json

end SpanAnnotation.Wire
