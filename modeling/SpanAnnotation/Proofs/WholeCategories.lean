import SpanAnnotation.Proofs.Construction
import SpanAnnotation.Proofs.PatternMeaning
import SpanAnnotation.Proofs.WholePatterns

/-!
Mention patterns and whole categories. A selector accepts a category when one of its patterns,
taken alone, matches the category from its first character to its last. This holds as long as no
pattern breaks the group that it is put into, none ends in a comment, and the group does not take
a pattern over the bounds on nesting and size.
-/

set_option autoImplicit false

namespace SpanAnnotation

namespace Pattern

theorem textStart_holds_iff (text : List Char) {i : Nat} (inside : i ≤ text.length) :
    Look.textStart.holds (placeAt text i) = true ↔ i = 0 := by
  unfold Look.holds placeAt
  by_cases start : i = 0
  · simp [start]
  · simp [start]
    omega

theorem textEnd_holds_iff (text : List Char) (i : Nat) :
    Look.textEnd.holds (placeAt text i) = true ↔ text.length ≤ i := by
  simp [Look.holds, placeAt]

/-- Between the start and the end of the text only matches of the whole text are left. -/
theorem Expression.isMatch_between (expression : Expression) (text : String) :
    isMatch (.sequence (.look .textStart) (.sequence expression (.look .textEnd))) text = true ↔
      expression.Spans text.toList 0 text.toList.length := by
  rw [isMatch_iff]
  constructor
  · rintro ⟨i, j, inside, k, ⟨rfl, starts⟩, l, spans, rfl, ends⟩
    obtain rfl := (textStart_holds_iff _ inside).mp starts
    have last := (spans_forwards _ expression 0 l spans).2 inside
    obtain rfl : l = text.toList.length :=
      Nat.le_antisymm last ((textEnd_holds_iff _ l).mp ends)
    exact spans
  · intro spans
    exact ⟨0, text.toList.length, Nat.zero_le _, 0,
      ⟨rfl, (textStart_holds_iff _ (Nat.zero_le _)).mpr rfl⟩, _, spans, rfl,
      (textEnd_holds_iff _ _).mpr (Nat.le_refl _)⟩

/-- The pattern matches the text from its first character to its last. -/
def MatchesWhole (pattern : Pattern) (text : String) : Prop :=
  pattern.expression.Spans text.toList 0 text.toList.length

-- Patterns alone and in their group.

/-- The bounds on nesting and size hold. -/
def Part.Small (part : Part) : Prop :=
  part.depth ≤ nestingLimit ∧ Automaton.fits (.ofExpression part.expression) = true

/-- The bounds allow a pattern in its group when they allow it alone. -/
def BoundedAlike (text : List Char) : Prop :=
  ∀ part, Parses text part → (part.Small ↔ (wholePart part).Small)

instance (part : Part) : Decidable part.Small := inferInstanceAs (Decidable (_ ∧ _))

instance (text : List Char) : Decidable (BoundedAlike text) :=
  decidable_of_iff (∀ found ∈ reading text, found.2.rest = [] →
      (found.1.Small ↔ (wholePart found.1).Small)) <| by
    unfold BoundedAlike Parses
    constructor
    · rintro all part ⟨cursor, read, ended⟩
      exact all (part, cursor) read ended
    · rintro all ⟨part, cursor⟩ read ended
      exact all part ⟨cursor, read, ended⟩

theorem ofText_eq_some_iff (text : List Char) (expression : Expression) :
    ofText? text = some expression ↔
      ∃ part, Parses text part ∧ part.Small ∧ expression = part.expression := by
  unfold ofText?
  rw [show readParts (2 * text.length + 2) [] [] ⟨text, .initial, [], 0⟩ = reading text from rfl]
  constructor
  · intro found
    split at found
    next part cursor read =>
      split at found
      next accepted =>
        simp only [Bool.and_eq_true, List.isEmpty_iff, decide_eq_true_eq] at accepted
        exact ⟨part, ⟨cursor, read, accepted.1.1⟩, ⟨accepted.1.2, accepted.2⟩,
          (Option.some.inj found).symm⟩
      next => contradiction
    next => contradiction
  · rintro ⟨part, ⟨cursor, read, ended⟩, small, rfl⟩
    rw [read]
    simp [ended, small.1, small.2]

theorem compile_eq_ok_iff (text : String) (pattern : Pattern) :
    compile text = .ok pattern ↔
      ∃ part, Parses text.toList part ∧ part.Small ∧ pattern = ⟨text, part.expression⟩ := by
  have expression := ofText_eq_some_iff text.toList
  unfold compile
  cases found : ofText? text.toList with
  | none =>
      refine ⟨nofun, ?_⟩
      rintro ⟨part, parses, small, -⟩
      rw [(expression _).mpr ⟨part, parses, small, rfl⟩] at found
      contradiction
  | some e =>
      obtain ⟨part, parses, small, rfl⟩ := (expression e).mp found
      refine ⟨fun same => ⟨part, parses, small, (Except.ok.inj same).symm⟩, ?_⟩
      rintro ⟨other, also, -, rfl⟩
      rw [parses.unique also]

/-- Neither a parenthesis nor a comment of the text does away with the end of its group. -/
def StaysInside (text : List Char) : Prop := ¬ BreaksGroup text ∧ ¬ LeavesComment text

instance (text : List Char) : Decidable (StaysInside text) := inferInstanceAs (Decidable (_ ∧ _))

theorem isMatch_wholePart (part : Part) (text : String) :
    (wholePart part).expression.isMatch text = true ↔
      part.expression.Spans text.toList 0 text.toList.length := by
  obtain ⟨expression?, depth⟩ := part
  cases expression? with
  | none => exact Expression.isMatch_between .empty text
  | some expression => exact Expression.isMatch_between (.group none expression) text

theorem toList_whole (text : String) : ("^(?:" ++ text ++ ")$").toList = wrapped text.toList := by
  simp [wrapped, closing]

/-- In its group a pattern is valid when it is valid alone, and matches what it matches whole. -/
theorem compileWhole_iff {text : String} (inside : StaysInside text.toList)
    (bounded : BoundedAlike text.toList) (category : String) :
    ((∃ whole, compileWhole text = .ok whole) ↔ ∃ pattern, compile text = .ok pattern) ∧
      ∀ whole, compileWhole text = .ok whole → ∃ pattern, compile text = .ok pattern ∧
        (whole.isMatch category = true ↔ pattern.MatchesWhole category) := by
  have matching (whole : Pattern) (compiled : compileWhole text = .ok whole) :
      ∃ pattern, compile text = .ok pattern ∧
        (whole.isMatch category = true ↔ pattern.MatchesWhole category) := by
    obtain ⟨_, parses, small, rfl⟩ := (compile_eq_ok_iff _ _).mp compiled
    rw [toList_whole] at parses
    obtain ⟨part, alone, rfl⟩ :=
      parses_of_wrapped parses fun closes => inside.1 ⟨closes, _, parses⟩
    exact ⟨_, (compile_eq_ok_iff _ _).mpr ⟨part, alone, (bounded part alone).mpr small, rfl⟩,
      isMatch_wholePart part category⟩
  refine ⟨⟨fun ⟨whole, compiled⟩ => ?_, ?_⟩, matching⟩
  · obtain ⟨pattern, alone, -⟩ := matching whole compiled
    exact ⟨pattern, alone⟩
  · rintro ⟨pattern, compiled⟩
    obtain ⟨part, alone, small, -⟩ := (compile_eq_ok_iff _ _).mp compiled
    refine ⟨_, (compile_eq_ok_iff _ _).mpr ⟨wholePart part, ?_, (bounded part alone).mp small, rfl⟩⟩
    rw [toList_whole]
    exact parses_wrapped alone inside.2

/-- A pattern that closes its group is not valid alone, whatever it is in the group. -/
theorem compile_of_closesGroup {text : String} (closes : ClosesGroup text.toList)
    (pattern : Pattern) : compile text ≠ .ok pattern := by
  intro compiled
  obtain ⟨part, parses, -⟩ := (compile_eq_ok_iff _ _).mp compiled
  exact closes.not_parses part parses

/-- A pattern that ends in a comment is not valid in its group, even when it is valid alone. -/
theorem compileWhole_of_leavesComment {text : String} (leaves : LeavesComment text.toList)
    (whole : Pattern) : compileWhole text ≠ .ok whole := by
  intro compiled
  obtain ⟨part, parses, -⟩ := (compile_eq_ok_iff _ _).mp compiled
  rw [toList_whole] at parses
  exact leaves.not_parses_wrapped part parses

end Pattern

theorem partners_of_forall₂ {α β : Type} {R : α → β → Prop} {left : List α} {right : List β}
    (related : List.Forall₂ R left right) :
    (∀ a ∈ left, ∃ b ∈ right, R a b) ∧ ∀ b ∈ right, ∃ a ∈ left, R a b := by
  induction related with
  | nil => simp
  | cons first _ ih =>
      refine ⟨List.forall_mem_cons.mpr ⟨⟨_, List.mem_cons_self, first⟩, fun a there => ?_⟩,
        List.forall_mem_cons.mpr ⟨⟨_, List.mem_cons_self, first⟩, fun b there => ?_⟩⟩
      · obtain ⟨b, partner, same⟩ := ih.1 a there
        exact ⟨b, List.mem_cons_of_mem _ partner, same⟩
      · obtain ⟨a, partner, same⟩ := ih.2 b there
        exact ⟨a, List.mem_cons_of_mem _ partner, same⟩

theorem MentionSelector.patterns_of_ofPatterns {patterns : List String} {selector : MentionSelector}
    (built : MentionSelector.ofPatterns patterns = .ok selector) :
    patterns ≠ [] ∧ patterns.mapM Pattern.compileWhole = .ok selector.patterns := by
  unfold MentionSelector.ofPatterns at built
  split at built
  next => contradiction
  next nonempty =>
    obtain ⟨compiled, mapped, same⟩ := (bind_eq_ok_iff _ _ _).mp built
    cases same
    exact ⟨by simpa using nonempty, mapped⟩

theorem MentionSelector.accepts_whole_categories (patterns : List String) (category : String)
    (inside : ∀ text ∈ patterns, Pattern.StaysInside text.toList)
    (bounded : ∀ text ∈ patterns, Pattern.BoundedAlike text.toList) :
    ((∃ selector, MentionSelector.ofPatterns patterns = .ok selector) ↔
      patterns ≠ [] ∧ ∀ text ∈ patterns, ∃ pattern, Pattern.compile text = .ok pattern) ∧
    ∀ selector, MentionSelector.ofPatterns patterns = .ok selector →
      (selector.accepts category = true ↔
        ∃ text ∈ patterns, ∃ pattern, Pattern.compile text = .ok pattern ∧
          pattern.MatchesWhole category) := by
  have each (text : String) (declared : text ∈ patterns) :=
    Pattern.compileWhole_iff (inside text declared) (bounded text declared) category
  refine ⟨?_, fun selector built => ?_⟩
  next =>
    by_cases empty : patterns = []
    · refine ⟨fun ⟨selector, built⟩ => absurd empty (patterns_of_ofPatterns built).1, ?_⟩
      exact fun ⟨nonempty, _⟩ => absurd empty nonempty
    · rw [ofPatterns_succeeds_iff patterns empty]
      simp only [ne_eq, empty, not_false_eq_true, true_and]
      exact forall₂_congr fun text declared => (each text declared).1
  next =>
    obtain ⟨compiled, partner⟩ :=
      partners_of_forall₂ (forall₂_of_mapM _ _ _ (patterns_of_ofPatterns built).2)
    rw [accepts, List.any_eq_true]
    constructor
    · rintro ⟨whole, listed, matching⟩
      obtain ⟨text, declared, made⟩ := partner whole listed
      obtain ⟨pattern, alone, same⟩ := (each text declared).2 whole made
      exact ⟨text, declared, pattern, alone, same.mp matching⟩
    · rintro ⟨text, declared, pattern, alone, matching⟩
      obtain ⟨whole, listed, made⟩ := compiled text declared
      obtain ⟨other, also, same⟩ := (each text declared).2 whole made
      rw [alone] at also
      cases also
      exact ⟨whole, listed, same.mpr matching⟩

def mixedPatterns : List String := ["PER|ORG", "(?i)loc"]

theorem MentionSelector.mixedPatterns_accept :
    (∀ text ∈ mixedPatterns, Pattern.StaysInside text.toList) ∧
      (∀ text ∈ mixedPatterns, Pattern.BoundedAlike text.toList) ∧
        ∃ selector, MentionSelector.ofPatterns mixedPatterns = .ok selector ∧
          ∃ text ∈ mixedPatterns, ∃ pattern, Pattern.compile text = .ok pattern ∧
            pattern.MatchesWhole "LOC" := by
  have inside : ∀ text ∈ mixedPatterns, Pattern.StaysInside text.toList := by decide +kernel
  have bounded : ∀ text ∈ mixedPatterns, Pattern.BoundedAlike text.toList := by decide +kernel
  have accepted : ((MentionSelector.ofPatterns mixedPatterns).toOption.any fun selector =>
      selector.accepts "LOC") = true := by decide +kernel
  cases built : MentionSelector.ofPatterns mixedPatterns with
  | error _ =>
      rw [built] at accepted
      exact absurd accepted Bool.false_ne_true
  | ok selector =>
      rw [built] at accepted
      have whole := (accepts_whole_categories mixedPatterns "LOC" inside bounded).2 selector built
      exact ⟨inside, bounded, selector, rfl, whole.mp accepted⟩

/-- A pattern that is not valid alone closes the group and opens another: then its first half only
has to match the beginning of a category. A pattern that is valid alone ends in a comment and is
refused. -/
theorem MentionSelector.groups_broken :
    (¬ ∃ pattern, Pattern.compile "A)|(?:B" = .ok pattern) ∧
      (∃ selector, MentionSelector.ofPatterns ["A)|(?:B"] = .ok selector ∧
        selector.accepts "AX" = true) ∧
      (∃ pattern, Pattern.compile "(?x)A #" = .ok pattern) ∧
        ¬ ∃ selector, MentionSelector.ofPatterns ["(?x)A #"] = .ok selector := by
  refine ⟨?_, ?_, ?_, ?_⟩
  · rintro ⟨pattern, compiled⟩
    exact Pattern.compile_of_closesGroup (by decide +kernel) pattern compiled
  · have accepted : ((MentionSelector.ofPatterns ["A)|(?:B"]).toOption.any fun selector =>
        selector.accepts "AX") = true := by decide +kernel
    cases built : MentionSelector.ofPatterns ["A)|(?:B"] with
    | error _ =>
        rw [built] at accepted
        exact absurd accepted Bool.false_ne_true
    | ok selector =>
        rw [built] at accepted
        exact ⟨selector, rfl, accepted⟩
  · have valid : (Pattern.compile "(?x)A #").toBool = true := by decide +kernel
    cases compiled : Pattern.compile "(?x)A #" with
    | error _ =>
        rw [compiled] at valid
        exact absurd valid Bool.false_ne_true
    | ok pattern => exact ⟨pattern, rfl⟩
  · rw [ofPatterns_succeeds_iff _ (by simp)]
    intro every
    obtain ⟨whole, compiled⟩ := every "(?x)A #" (by simp)
    exact Pattern.compileWhole_of_leavesComment (by decide +kernel) whole compiled

end SpanAnnotation
