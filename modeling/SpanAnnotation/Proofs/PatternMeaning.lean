import SpanAnnotation.Pattern

/-!
What an expression matches: which parts of a text, from one position to another. The marks that an
expression moves say the same: an end is marked when a part from a marked start to it matches.
-/

set_option autoImplicit false

namespace SpanAnnotation.Pattern

/-- The characters around a position. -/
def placeAt (text : List Char) (position : Nat) : Place :=
  ⟨if position = 0 then none else text[position - 1]?, text[position]?⟩

def Steps (step : Nat → Nat → Prop) : Nat → Nat → Nat → Prop
  | 0, i, j => i = j
  | count + 1, i, j => ∃ k, step i k ∧ Steps step count k j

namespace Expression

/-- The part of a text from one position to another matches. A repetition that may be had less often
than it must be had is had as often as it must be. -/
def Spans (text : List Char) : Expression → Nat → Nat → Prop
  | .empty, i, j => i = j
  | .set chars, i, j => j = i + 1 ∧ ∃ c, text[i]? = some c ∧ chars.contains c = true
  | .look condition, i, j => i = j ∧ condition.holds (placeAt text i) = true
  | .sequence a b, i, j => ∃ k, a.Spans text i k ∧ b.Spans text k j
  | .choice a b, i, j => a.Spans text i j ∨ b.Spans text i j
  | .group _ a, i, j => a.Spans text i j
  | .repeated a least most _, i, j =>
      ∃ count, least ≤ count ∧ (∀ bound, most = some bound → count ≤ max least bound) ∧
        Steps (a.Spans text) count i j

end Expression

-- Paths that only go forwards.

/-- A step goes forwards, and not beyond the last position. -/
def Forwards (last : Nat) (step : Nat → Nat → Prop) : Prop :=
  ∀ i j, step i j → i ≤ j ∧ (i ≤ last → j ≤ last)

section Steps

variable {step : Nat → Nat → Prop} {last count other i j : Nat}

theorem Steps.forwards (forwards : Forwards last step) (path : Steps step count i j) :
    i ≤ j ∧ (i ≤ last → j ≤ last) := by
  induction count generalizing i with
  | zero =>
      cases path
      exact ⟨Nat.le_refl _, id⟩
  | succ count ih =>
      obtain ⟨k, first, rest⟩ := path
      have here := forwards i k first
      have there := ih rest
      exact ⟨by omega, fun inside => there.2 (here.2 inside)⟩

/-- A path with more steps than it has room stands still somewhere, and one step less will do. -/
theorem Steps.shrink (forwards : Forwards last step) (path : Steps step (count + 1) i j)
    (room : j < i + (count + 1)) : Steps step count i j := by
  induction count generalizing i with
  | zero =>
      obtain ⟨k, first, rfl⟩ := path
      have here := forwards i k first
      change i = k
      omega
  | succ count ih =>
      obtain ⟨k, first, rest⟩ := path
      have here := forwards i k first
      by_cases still : i = k
      · exact still ▸ rest
      · exact ⟨k, first, ih rest (by omega)⟩

/-- Where it stands still, one step more will do as well. -/
theorem Steps.grow (forwards : Forwards last step) (path : Steps step count i j)
    (room : j < i + count) : Steps step (count + 1) i j := by
  induction count generalizing i with
  | zero =>
      cases path
      omega
  | succ count ih =>
      obtain ⟨k, first, rest⟩ := path
      have here := forwards i k first
      by_cases still : i = k
      · exact ⟨i, still ▸ first, k, first, rest⟩
      · exact ⟨k, first, ih rest (by omega)⟩

/-- From as many steps on as there are positions, their number does not matter. -/
theorem Steps.of_many (forwards : Forwards last step) (path : Steps step count i j)
    (start : i ≤ last) (many : last < count) (many' : last < other) : Steps step other i j := by
  have inside := (path.forwards forwards).2 start
  have more (extra : Nat) : Steps step (count + extra) i j := by
    induction extra with
    | zero => exact path
    | succ extra ih => exact ih.grow forwards (show j < i + (count + extra) by omega)
  have less (extra : Nat) (path : Steps step (other + extra) i j) : Steps step other i j := by
    induction extra with
    | zero => exact path
    | succ extra ih =>
        exact ih (Steps.shrink forwards (show Steps step (other + extra + 1) i j from path) (by omega))
  refine less (count + other - other) ?_
  rw [show other + (count + other - other) = count + other from by omega]
  exact more other

theorem Steps.add_iff : Steps step (count + other) i j ↔
    ∃ k, Steps step count i k ∧ Steps step other k j := by
  induction count generalizing i with
  | zero => simp [Steps]
  | succ count ih =>
      rw [Nat.succ_add]
      simp only [Steps, ih]
      constructor
      · rintro ⟨k, first, l, before, after⟩
        exact ⟨l, ⟨k, first, before⟩, after⟩
      · rintro ⟨l, ⟨k, first, before⟩, after⟩
        exact ⟨k, first, l, before, after⟩

/-- The repetitions that are tried are enough. -/
theorem Steps.bounded (forwards : Forwards last step) (start : i ≤ last) (least : Nat)
    (most : Option Nat) :
    (∃ count, least ≤ count ∧ (∀ bound, most = some bound → count ≤ max least bound) ∧
      Steps step count i j) ↔
    ∃ extra, extra ≤ (match most with
        | none => last + 1
        | some bound => min (bound - least) (last + 1)) ∧
      Steps step (min least (last + 1) + extra) i j := by
  constructor
  · rintro ⟨count, enough, bounded, path⟩
    by_cases many : last + 1 ≤ least
    · exact ⟨0, Nat.zero_le _, path.of_many forwards start (by omega) (by omega)⟩
    by_cases few : count - least ≤ last + 1
    · refine ⟨count - least, ?_, ?_⟩
      · cases most with
        | none => exact few
        | some bound =>
            have bounded := bounded bound rfl
            simp only
            omega
      · rwa [show min least (last + 1) + (count - least) = count from by omega]
    · refine ⟨last + 1, ?_, path.of_many forwards start (by omega) (by omega)⟩
      cases most with
      | none => exact Nat.le_refl _
      | some bound =>
          have bounded := bounded bound rfl
          simp only
          omega
  · rintro ⟨extra, bounded, path⟩
    by_cases many : last + 1 ≤ least
    · exact ⟨least, Nat.le_refl _, fun _ _ => by omega,
        path.of_many forwards start (by omega) (by omega)⟩
    · refine ⟨least + extra, by omega, ?_, ?_⟩
      · rintro bound rfl
        simp only at bounded
        omega
      · rwa [show min least (last + 1) = least from by omega] at path

end Steps

namespace Expression

theorem spans_forwards (text : List Char) (expression : Expression) :
    Forwards text.length (expression.Spans text) := by
  induction expression with
  | empty =>
      rintro i j rfl
      exact ⟨Nat.le_refl _, id⟩
  | set chars =>
      rintro i j ⟨rfl, c, here, -⟩
      obtain ⟨inside, -⟩ := List.getElem?_eq_some_iff.mp here
      exact ⟨by omega, fun _ => inside⟩
  | look condition =>
      rintro i j ⟨rfl, -⟩
      exact ⟨Nat.le_refl _, id⟩
  | sequence a b iha ihb =>
      rintro i j ⟨k, first, second⟩
      have here := iha i k first
      have there := ihb k j second
      exact ⟨by omega, fun inside => there.2 (here.2 inside)⟩
  | choice a b iha ihb => exact fun i j spans => spans.elim (iha i j) (ihb i j)
  | group number? a ih => exact ih
  | repeated a least most greedy ih =>
      rintro i j ⟨count, -, -, path⟩
      exact path.forwards ih

-- Marks.

/-- The marks at an end are those of the starts that lead there. -/
def Moves (text : List Char) (move : Marks → Marks) (step : Nat → Nat → Prop) : Prop :=
  ∀ marks : Marks, marks.length = text.length + 1 → (move marks).length = text.length + 1 ∧
    ∀ j, (move marks)[j]? = some true ↔ ∃ i, marks[i]? = some true ∧ step i j

namespace Moves

variable {text : List Char} {move move' : Marks → Marks} {step step' : Nat → Nat → Prop}

theorem inside {marks : Marks} {j : Nat} (length : marks.length = text.length + 1)
    (marked : marks[j]? = some true) : j ≤ text.length := by
  obtain ⟨less, -⟩ := List.getElem?_eq_some_iff.mp marked
  omega

theorem id : Moves text (fun marks => marks) (fun i j => i = j) :=
  fun marks length => ⟨length, fun j => by simp⟩

theorem comp (first : Moves text move step) (second : Moves text move' step') :
    Moves text (fun marks => move' (move marks)) fun i j => ∃ k, step i k ∧ step' k j := by
  intro marks length
  obtain ⟨length', here⟩ := first marks length
  obtain ⟨length'', there⟩ := second (move marks) length'
  refine ⟨length'', fun j => (there j).trans ?_⟩
  constructor
  · rintro ⟨k, marked, last⟩
    obtain ⟨i, start, before⟩ := (here k).mp marked
    exact ⟨i, start, k, before, last⟩
  · rintro ⟨i, start, k, before, last⟩
    exact ⟨k, (here k).mpr ⟨i, start, before⟩, last⟩

theorem union_iff {a b : Marks} (same : a.length = b.length) (j : Nat) :
    (a.union b)[j]? = some true ↔ a[j]? = some true ∨ b[j]? = some true := by
  unfold Marks.union
  rw [List.getElem?_zipWith]
  cases left : a[j]? with
  | none =>
      have right : b[j]? = none := by
        rw [List.getElem?_eq_none_iff] at left ⊢
        omega
      simp [right]
  | some x =>
      cases right : b[j]? with
      | none =>
          rw [List.getElem?_eq_none_iff] at right
          obtain ⟨less, -⟩ := List.getElem?_eq_some_iff.mp left
          omega
      | some y => simp

theorem union (first : Moves text move step) (second : Moves text move' step') :
    Moves text (fun marks => (move marks).union (move' marks)) fun i j => step i j ∨ step' i j := by
  intro marks length
  obtain ⟨length', here⟩ := first marks length
  obtain ⟨length'', there⟩ := second marks length
  refine ⟨by simp [Marks.union, length', length''], fun j => ?_⟩
  rw [union_iff (by omega), here, there, ← exists_or]
  exact exists_congr fun i => by rw [and_or_left]

theorem iterate (moves : Moves text move step) (count : Nat) :
    Moves text (iterate move count) (Steps step count) := by
  induction count with
  | zero => exact id
  | succ count ih => exact moves.comp ih

/-- A step without a new mark ends the repetition, for no longer path leads to one. -/
theorem iterateUpTo (moves : Moves text move step) (count : Nat) :
    Moves text (iterateUpTo move count) fun i j => ∃ n, n ≤ count ∧ Steps step n i j := by
  induction count with
  | zero =>
      refine fun marks length =>
        ⟨length, fun j => ⟨fun marked => ⟨j, marked, 0, Nat.le_refl _, rfl⟩, ?_⟩⟩
      rintro ⟨i, marked, n, none, path⟩
      obtain rfl : n = 0 := by omega
      cases path
      exact marked
  | succ count ih =>
      intro marks length
      obtain ⟨length', here⟩ := (id.union moves) marks length
      unfold Pattern.iterateUpTo
      dsimp only
      split
      next still =>
        have still : marks.union (move marks) = marks := eq_of_beq still
        simp only [still] at here
        have closed (n i j : Nat) (marked : marks[i]? = some true) (path : Steps step n i j) :
            marks[j]? = some true := by
          induction n generalizing i with
          | zero => exact path ▸ marked
          | succ n along =>
              obtain ⟨k, first, rest⟩ := path
              exact along k ((here k).mpr ⟨i, marked, .inr first⟩) rest
        refine ⟨length, fun j => ⟨fun marked => ⟨j, marked, 0, Nat.zero_le _, rfl⟩, ?_⟩⟩
        rintro ⟨i, marked, n, -, path⟩
        exact closed n i j marked path
      next =>
        obtain ⟨length'', there⟩ := ih _ length'
        refine ⟨length'', fun j => (there j).trans ⟨?_, ?_⟩⟩
        · rintro ⟨k, marked, n, few, path⟩
          obtain ⟨i, start, rfl | first⟩ := (here k).mp marked
          · exact ⟨i, start, n, by omega, path⟩
          · exact ⟨i, start, n + 1, by omega, k, first, path⟩
        · rintro ⟨i, start, n, few, path⟩
          cases n with
          | zero => exact ⟨i, (here i).mpr ⟨i, start, .inl rfl⟩, 0, Nat.zero_le _, path⟩
          | succ n =>
              obtain ⟨k, first, rest⟩ := path
              exact ⟨k, (here k).mpr ⟨i, start, .inr first⟩, n, by omega, rest⟩

end Moves

theorem placesFrom_getElem (before? : Option Char) (cs : List Char) (i : Nat) :
    (placesFrom before? cs)[i]? =
      if i ≤ cs.length then some ⟨if i = 0 then before? else cs[i - 1]?, cs[i]?⟩ else none := by
  induction cs generalizing before? i with
  | nil => cases i <;> simp [placesFrom]
  | cons c rest ih =>
      cases i with
      | zero => simp [placesFrom]
      | succ i =>
          simp only [placesFrom, List.getElem?_cons_succ, ih, List.length_cons]
          cases i <;> simp

theorem places_getElem (text : String) (i : Nat) (inside : i ≤ text.toList.length) :
    (places text)[i]? = some (placeAt text.toList i) := by
  rw [places, placesFrom_getElem, if_pos inside]
  rfl

theorem places_length (text : String) : (places text).length = text.toList.length + 1 := by
  have length (before? : Option Char) (cs : List Char) :
      (placesFrom before? cs).length = cs.length + 1 := by
    induction cs generalizing before? with
    | nil => rfl
    | cons c rest ih => simp [placesFrom, ih]
  exact length none text.toList

theorem advance_length (chars : CharSet) (carried : Bool) (all : List Place) (marks : Marks) :
    (advance chars carried all marks).length = min all.length marks.length := by
  induction all generalizing carried marks with
  | nil => simp [advance]
  | cons place all ih =>
      cases marks with
      | nil => simp [advance]
      | cons mark marks => simp [advance, ih]

theorem advance_zero (chars : CharSet) (carried : Bool) {all : List Place} {marks : Marks}
    (inside : 0 < min all.length marks.length) :
    (advance chars carried all marks)[0]? = some carried := by
  cases all <;> cases marks <;> simp [advance] at inside ⊢

theorem advance_succ (chars : CharSet) (carried : Bool) {all : List Place} {marks : Marks} {i : Nat}
    (inside : i + 1 < min all.length marks.length) :
    (advance chars carried all marks)[i + 1]? = some true ↔
      marks[i]? = some true ∧
        ∃ place c, all[i]? = some place ∧ place.after? = some c ∧ chars.contains c = true := by
  induction all generalizing carried marks i with
  | nil => simp at inside
  | cons place all ih =>
      cases marks with
      | nil => simp at inside
      | cons mark marks =>
          simp only [advance, List.getElem?_cons_succ]
          simp only [List.length_cons] at inside
          cases i with
          | zero =>
              rw [advance_zero _ _ (by omega)]
              cases after : place.after? <;> simp [after]
          | succ i => exact ih _ (by omega)

theorem set_moves (text : String) (chars : CharSet) :
    Moves text.toList (advance chars false (places text)) (Spans text.toList (.set chars)) := by
  intro marks length
  have size := places_length text
  refine ⟨by rw [advance_length]; omega, fun j => ?_⟩
  cases j with
  | zero =>
      rw [advance_zero _ _ (by omega)]
      simp [Spans]
  | succ j =>
      by_cases inside : j + 1 ≤ text.toList.length
      · rw [advance_succ _ _ (by omega), places_getElem text j (by omega)]
        constructor
        · rintro ⟨marked, place, c, ⟨⟩, after, contained⟩
          exact ⟨j, marked, rfl, c, after, contained⟩
        · rintro ⟨i, marked, same, c, after, contained⟩
          obtain rfl : j = i := by omega
          exact ⟨marked, _, c, rfl, after, contained⟩
      · rw [List.getElem?_eq_none (by rw [advance_length]; omega)]
        refine ⟨nofun, ?_⟩
        rintro ⟨i, -, same, c, after, -⟩
        obtain ⟨less, -⟩ := List.getElem?_eq_some_iff.mp after
        omega

theorem look_moves (text : String) (condition : Look) :
    Moves text.toList (fun marks =>
      List.zipWith (fun place mark => mark && condition.holds place) (places text) marks)
      (Spans text.toList (.look condition)) := by
  intro marks length
  have size := places_length text
  refine ⟨by simp; omega, fun j => ?_⟩
  rw [List.getElem?_zipWith]
  constructor
  · intro marked
    cases here : marks[j]? with
    | none => simp [here] at marked
    | some mark =>
        rw [here, places_getElem text j (by
          obtain ⟨less, -⟩ := List.getElem?_eq_some_iff.mp here
          omega)] at marked
        obtain ⟨rfl, holds⟩ : mark = true ∧ condition.holds (placeAt text.toList j) = true := by
          simpa using marked
        exact ⟨j, here, rfl, holds⟩
  · rintro ⟨i, marked, rfl, holds⟩
    rw [marked, places_getElem text i (Moves.inside length marked)]
    simp [holds]

theorem run_moves (text : String) (expression : Expression) :
    Moves text.toList (expression.run (places text)) (expression.Spans text.toList) := by
  induction expression with
  | empty => exact .id
  | set chars => exact set_moves text chars
  | look condition => exact look_moves text condition
  | sequence a b iha ihb => exact iha.comp ihb
  | choice a b iha ihb => exact iha.union ihb
  | group number? a ih => exact ih
  | repeated a least most greedy ih =>
      intro marks length
      obtain ⟨length', here⟩ := ((ih.iterate _).comp (ih.iterateUpTo _)) marks length
      refine ⟨length', fun j => (here j).trans <|
        exists_congr fun i => and_congr_right fun marked => ?_⟩
      have inside := Moves.inside length marked
      rw [Spans, Steps.bounded (spans_forwards text.toList a) inside, ← places_length]
      simp only [Steps.add_iff]
      constructor
      · rintro ⟨k, before, n, few, after⟩
        exact ⟨n, few, k, before, after⟩
      · rintro ⟨n, few, k, before, after⟩
        exact ⟨k, before, n, few, after⟩

/-- A text has a match when a part of it matches. -/
theorem isMatch_iff (text : String) (expression : Expression) :
    expression.isMatch text = true ↔
      ∃ i j, i ≤ text.toList.length ∧ expression.Spans text.toList i j := by
  have length : ((places text).map fun _ => true).length = text.toList.length + 1 := by
    rw [List.length_map, places_length]
  obtain ⟨-, ends⟩ := run_moves text expression _ length
  have started (i : Nat) : ((places text).map fun _ => true)[i]? = some true ↔
      i ≤ text.toList.length := by
    rw [List.getElem?_map, Option.map_eq_some_iff]
    constructor
    · rintro ⟨place, here, -⟩
      obtain ⟨less, -⟩ := List.getElem?_eq_some_iff.mp here
      rw [places_length] at less
      omega
    · exact fun inside => ⟨_, places_getElem text i inside, rfl⟩
  rw [isMatch, List.any_eq_true]
  constructor
  · rintro ⟨mark, listed, rfl⟩
    obtain ⟨j, here⟩ := List.mem_iff_getElem?.mp listed
    obtain ⟨i, marked, spans⟩ := (ends j).mp here
    exact ⟨i, j, (started i).mp marked, spans⟩
  · rintro ⟨i, j, inside, spans⟩
    have here := (ends j).mpr ⟨i, (started i).mpr inside, spans⟩
    exact ⟨true, List.mem_iff_getElem?.mpr ⟨j, here⟩, rfl⟩

end Expression

end SpanAnnotation.Pattern
