import Mathlib.Data.List.Chain
import SpanAnnotation.Bio

/-!
What spans are written as. The flags that marking leaves tell which tokens some span covers, and the
tags tell the flags. Tags are what is written for the tokens that they cover when no span continues
where none is open and none begins where another one ends.
-/

set_option autoImplicit false

namespace SpanAnnotation

def Tag.covers (tag : Tag) : Bool := tag != .outside

namespace Bio

def Covers (spans : List (Nat × Nat)) (token : Nat) : Prop :=
  ∃ span ∈ spans, span.1 ≤ token ∧ token ≤ span.2

instance (spans : List (Nat × Nat)) (token : Nat) : Decidable (Covers spans token) := by
  unfold Covers
  infer_instance

@[simp] theorem not_covers_nil (token : Nat) : ¬ Covers [] token := by simp [Covers]

@[simp] theorem covers_cons (span : Nat × Nat) (spans : List (Nat × Nat)) (token : Nat) :
    Covers (span :: spans) token ↔ (span.1 ≤ token ∧ token ≤ span.2) ∨ Covers spans token := by
  simp [Covers]

@[simp] theorem covers_append (spans others : List (Nat × Nat)) (token : Nat) :
    Covers (spans ++ others) token ↔ Covers spans token ∨ Covers others token := by
  simp [Covers, or_and_right, exists_or]

-- Marking.

theorem mark_getElem? (flags : List Bool) (span : Nat × Nat) (token : Nat)
    (small : token < maxIndex) :
    (mark flags span)[token]? =
      flags[token]?.map fun flag => flag || decide (span.1 ≤ token ∧ token ≤ span.2) := by
  have below : token < min (span.2 + 1) maxIndex ↔ token ≤ span.2 := by omega
  simp only [mark, List.getElem?_mapIdx, below, Bool.decide_and]

theorem marks_getElem? (flags : List Bool) (spans : List (Nat × Nat)) (token : Nat)
    (small : token < maxIndex) :
    (spans.foldl mark flags)[token]? =
      flags[token]?.map fun flag => flag || decide (Covers spans token) := by
  induction spans generalizing flags with
  | nil => simp
  | cons span rest ih =>
    rw [List.foldl_cons, ih, mark_getElem? flags span token small, Option.map_map]
    congr 1
    funext flag
    simp [Bool.or_assoc]

theorem marks_length (flags : List Bool) (spans : List (Nat × Nat)) :
    (spans.foldl mark flags).length = flags.length := by
  induction spans generalizing flags with
  | nil => rfl
  | cons span rest ih => simp [ih, mark]

theorem encodeSpans_eq (spans : List (Nat × Nat)) (size : Nat) (small : size ≤ maxIndex) :
    encodeSpans spans size =
      ofCoverage ((List.range size).map fun token => decide (Covers spans token)) := by
  rw [encodeSpans]
  congr 1
  have sized := marks_length (List.replicate size false) spans
  apply List.ext_getElem?
  intro token
  by_cases within : token < size
  next => simp [marks_getElem? _ spans token (Nat.lt_of_lt_of_le within small), within]
  next =>
    rw [List.length_replicate] at sized
    rw [List.getElem?_eq_none (by omega), List.getElem?_eq_none (by simpa using within)]

@[simp] theorem encodeSpans_length (spans : List (Nat × Nat)) (size : Nat) :
    (encodeSpans spans size).length = size := by
  simp [encodeSpans, ofCoverage, tagsAfter_length, marks_length]

-- Tags and flags.

theorem covers_tagsAfter (before : Bool) (covered : List Bool) :
    (tagsAfter before covered).map Tag.covers = covered := by
  induction covered generalizing before with
  | nil => rfl
  | cons flag rest ih =>
    cases flag <;> cases before <;> simp [tagsAfter, ih, Tag.covers]

/-- No span continues where none is open, also not before the first token. -/
def Strict (tags : List Tag) : Prop :=
  (.outside :: tags).IsChain fun before after => before.mayFollow after = true

/-- No span begins right after another one. -/
def Spaced (tags : List Tag) : Prop :=
  tags.IsChain fun before after => after = .opening → before = .outside

theorem tagsAfter_covers_iff (before : Tag) (tags : List Tag) :
    tagsAfter before.covers (tags.map Tag.covers) = tags ↔
      (before :: tags).IsChain (fun before after => before.mayFollow after = true) ∧
        Spaced (before :: tags) := by
  induction tags generalizing before with
  | nil => simp [tagsAfter, Spaced]
  | cons tag rest ih =>
    have head : (if !tag.covers then Tag.outside else if before.covers then .inside else .opening) =
        tag ↔ before.mayFollow tag = true ∧ (tag = .opening → before = .outside) := by
      cases before <;> cases tag <;> decide
    simp only [Spaced] at ih
    simp only [List.map_cons, tagsAfter, List.cons.injEq, head, ih, Spaced, List.isChain_cons_cons]
    exact and_and_and_comm

theorem ofCoverage_covers_iff (tags : List Tag) :
    ofCoverage (tags.map Tag.covers) = tags ↔ Strict tags ∧ Spaced tags := by
  have unopened : Spaced (.outside :: tags) ↔ Spaced tags := by simp [Spaced, List.isChain_cons]
  rw [← unopened]
  exact tagsAfter_covers_iff .outside tags

end Bio

end SpanAnnotation
