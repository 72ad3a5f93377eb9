import Mathlib.Data.List.Pairwise
import Mathlib.Data.List.Sort
import SpanAnnotation.Proofs.Identity
import SpanAnnotation.Proofs.TagReading

/-!
Spans that are written as tags and read again come back as the runs of covered tokens, each as long
as it can be. Spans with a free token between any two of them are such runs already, and tags that
were written from spans are written again from the runs.
-/

set_option autoImplicit false

namespace SpanAnnotation.Bio

/-- A run of covered tokens that no covered token next to it prolongs. -/
structure IsRun (covered : Nat → Prop) (size : Nat) (run : Nat × Nat) : Prop where
  upright : run.1 ≤ run.2
  inside : run.2 < size
  filled : ∀ token, run.1 ≤ token → token ≤ run.2 → covered token
  fresh : ∀ token, token + 1 = run.1 → ¬ covered token
  ended : run.2 + 1 < size → ¬ covered (run.2 + 1)

namespace IsRun

variable {covered : Nat → Prop} {size : Nat}

theorem of_same {others : Nat → Prop} {run : Nat × Nat} (one : IsRun covered size run)
    (same : ∀ token < size, covered token ↔ others token) : IsRun others size run := by
  have inside := one.inside
  have upright := one.upright
  constructor
  next => exact upright
  next => exact inside
  next => exact fun token first last => (same token (by omega)).mp (one.filled token first last)
  next =>
    intro token before other
    exact one.fresh token before ((same token (by omega)).mpr other)
  next =>
    intro within other
    exact one.ended within ((same _ within).mpr other)

theorem congr {others : Nat → Prop} (same : ∀ token < size, covered token ↔ others token)
    (run : Nat × Nat) : IsRun covered size run ↔ IsRun others size run :=
  ⟨fun one => one.of_same same, fun one => one.of_same fun token within => (same token within).symm⟩

-- Two runs with a token in common are one run.

theorem first_le {left right : Nat × Nat} (one : IsRun covered size left)
    (other : IsRun covered size right) (touching : right.1 ≤ left.2) : right.1 ≤ left.1 := by
  by_contra later
  have before : right.1 - 1 + 1 = right.1 := by omega
  exact other.fresh _ before (one.filled (right.1 - 1) (by omega) (by omega))

theorem le_last {left right : Nat × Nat} (one : IsRun covered size left)
    (other : IsRun covered size right) (touching : left.1 ≤ right.2) : left.2 ≤ right.2 := by
  by_contra longer
  have bound := one.inside
  exact other.ended (by omega) (one.filled (right.2 + 1) (by omega) (by omega))

theorem eq_of_common {left right : Nat × Nat} (one : IsRun covered size left)
    (other : IsRun covered size right) (leftFirst : left.1 ≤ right.2)
    (rightFirst : right.1 ≤ left.2) : left = right := by
  apply Prod.ext
  next => exact Nat.le_antisymm (other.first_le one leftFirst) (one.first_le other rightFirst)
  next => exact Nat.le_antisymm (one.le_last other leftFirst) (other.le_last one rightFirst)

theorem mem_of_covers {spans : List (Nat × Nat)} {run : Nat × Nat}
    (runs : ∀ span ∈ spans, IsRun covered size span) (one : IsRun covered size run)
    (found : Covers spans run.1) : run ∈ spans := by
  obtain ⟨span, present, first, last⟩ := found
  have upright := one.upright
  have same := one.eq_of_common (runs span present) last (by omega)
  rwa [same]

end IsRun

-- Reading tags in which no span begins right after another.

theorem not_tagged_before (tags : List Tag) (spaced : Spaced tags) (token : Nat)
    (starts : StartsAt tags (token + 1)) : ¬ Tagged tags token := by
  have bound := lt_of_startsAt starts
  have outside : tags[token]? = some .outside := by
    rcases starts with opening | ⟨_, first | outside⟩
    · have opens : tags[token + 1] = .opening := (List.getElem?_eq_some_iff.mp opening).2
      rw [List.getElem?_eq_getElem (by omega), spaced.getElem token bound opens]
    · omega
    · exact outside
  simp [Tagged, outside]

theorem decode_isRun (tags : List Tag) (spaced : Spaced tags) (run : Nat × Nat)
    (present : run ∈ decode tags) : IsRun (Tagged tags) tags.length run := by
  have upright := decode_upright tags run present
  have filled (token : Nat) (first : run.1 ≤ token) (last : token ≤ run.2) : Tagged tags token :=
    (covers_decode_iff tags token).mp ⟨run, present, first, last⟩
  constructor
  next => exact upright
  next => exact decode_inside tags run present
  next => exact filled
  next =>
    intro token before
    apply not_tagged_before tags spaced
    exact (starts_decode_iff tags (token + 1)).mp ⟨run, present, before.symm⟩
  next =>
    -- A tagged token after the run would be in a later run, which would start there.
    intro _ tagged
    obtain ⟨later, listed, first, last⟩ := (covers_decode_iff tags (run.2 + 1)).mpr tagged
    have apart := eq_or_related (decode_ordered tags) present listed
    have start : later.1 = run.2 + 1 := by
      rcases apart with rfl | after | before <;> omega
    have starts := (starts_decode_iff tags (run.2 + 1)).mp ⟨later, listed, start⟩
    exact not_tagged_before tags spaced run.2 starts (filled run.2 upright (Nat.le_refl _))

theorem mem_decode_iff (tags : List Tag) (spaced : Spaced tags) (run : Nat × Nat) :
    run ∈ decode tags ↔ IsRun (Tagged tags) tags.length run := by
  constructor
  next => exact decode_isRun tags spaced run
  next =>
    intro one
    have tagged := one.filled run.1 (Nat.le_refl _) one.upright
    exact one.mem_of_covers (decode_isRun tags spaced) ((covers_decode_iff tags run.1).mpr tagged)

theorem decode_gaps (tags : List Tag) (spaced : Spaced tags) :
    (decode tags).Pairwise fun a b =>
      ∃ gap, a.2 < gap ∧ gap < b.1 ∧ gap < tags.length ∧ ¬ Tagged tags gap := by
  apply (decode_ordered tags).imp_of_mem
  intro a b left right apart
  have one := decode_isRun tags spaced a left
  have other := decode_isRun tags spaced b right
  have upright := other.upright
  have inside := other.inside
  have free : ¬ Tagged tags (b.1 - 1) := other.fresh (b.1 - 1) (by omega)
  have beyond : a.2 ≠ b.1 - 1 := fun same =>
    free (same ▸ one.filled a.2 one.upright (Nat.le_refl _))
  exact ⟨b.1 - 1, by omega, by omega, by omega, free⟩

-- Writing spans and reading them again.

theorem tagged_iff (tags : List Tag) (token : Nat) :
    Tagged tags token ↔ (tags.map Tag.covers)[token]? = some true := by
  simp [Tagged, Tag.covers]

theorem tagged_encodeSpans_iff (spans : List (Nat × Nat)) (size : Nat) (small : size ≤ maxIndex)
    (token : Nat) : Tagged (encodeSpans spans size) token ↔ token < size ∧ Covers spans token := by
  rw [tagged_iff, encodeSpans_eq spans size small, ofCoverage, covers_tagsAfter]
  by_cases within : token < size <;> simp [within]

theorem encodeSpans_writes (spans : List (Nat × Nat)) (size : Nat) :
    Strict (encodeSpans spans size) ∧ Spaced (encodeSpans spans size) := by
  apply (ofCoverage_covers_iff _).mp
  simp only [encodeSpans, ofCoverage, covers_tagsAfter]

/-- The spans lie inside, and between any two of them, as they are listed, is a free token. -/
structure Separated (size : Nat) (spans : List (Nat × Nat)) : Prop where
  upright : ∀ span ∈ spans, span.1 ≤ span.2
  inside : ∀ span ∈ spans, span.2 < size
  gaps : spans.Pairwise fun a b => a.2 + 1 < b.1

theorem Separated.isRun {size : Nat} {spans : List (Nat × Nat)} (separated : Separated size spans)
    (span : Nat × Nat) (present : span ∈ spans) : IsRun (Covers spans) size span := by
  have upright := separated.upright span present
  constructor
  next => exact upright
  next => exact separated.inside span present
  next => exact fun token first last => ⟨span, present, first, last⟩
  next =>
    rintro token before ⟨other, listed, first, last⟩
    rcases eq_or_related separated.gaps present listed with rfl | after | earlier <;> omega
  next =>
    rintro _ ⟨other, listed, first, last⟩
    rcases eq_or_related separated.gaps present listed with rfl | after | earlier <;> omega

theorem Separated.mem_iff {size : Nat} {spans : List (Nat × Nat)} (separated : Separated size spans)
    (run : Nat × Nat) : run ∈ spans ↔ IsRun (Covers spans) size run := by
  constructor
  next => exact separated.isRun run
  next =>
    intro one
    exact one.mem_of_covers separated.isRun (one.filled run.1 (Nat.le_refl _) one.upright)

theorem Separated.eq_of_mem_iff {size : Nat} {spans : List (Nat × Nat)}
    (separated : Separated size spans) (tags : List Tag)
    (same : ∀ run, run ∈ decode tags ↔ run ∈ spans) : decode tags = spans := by
  let starts (a b : Nat × Nat) : Prop := a.1 < b.1
  have irreflexive : Std.Irrefl starts := ⟨fun _ => Nat.lt_irrefl _⟩
  have antisymmetric : Std.Antisymm starts := ⟨fun _ _ less more => absurd more (Nat.lt_asymm less)⟩
  have read : (decode tags).Pairwise starts := by
    apply (decode_ordered tags).imp_of_mem
    intro a b present _ after
    exact Nat.lt_of_le_of_lt (decode_upright tags a present) after
  have listed : spans.Pairwise starts := by
    apply separated.gaps.imp_of_mem
    intro a b present _ after
    exact Nat.lt_of_le_of_lt (separated.upright a present) (Nat.lt_of_succ_lt after)
  exact read.eq_of_mem_iff listed same

theorem mem_decode_encodeSpans_iff (spans : List (Nat × Nat)) (size : Nat)
    (small : size ≤ maxIndex) (run : Nat × Nat) :
    run ∈ decode (encodeSpans spans size) ↔ IsRun (Covers spans) size run := by
  rw [mem_decode_iff _ (encodeSpans_writes spans size).2, encodeSpans_length]
  apply IsRun.congr
  intro token within
  simp [tagged_encodeSpans_iff spans size small, within]

/-- All runs of covered tokens and nothing else, in increasing order. -/
structure AreRuns (covered : Nat → Prop) (size : Nat) (spans : List (Nat × Nat)) : Prop where
  mem_iff : ∀ run, run ∈ spans ↔ IsRun covered size run
  ordered : spans.Pairwise fun a b => a.2 < b.1

theorem decode_encodeSpans_areRuns (spans : List (Nat × Nat)) (size : Nat)
    (small : size ≤ maxIndex) : AreRuns (Covers spans) size (decode (encodeSpans spans size)) where
  mem_iff := mem_decode_encodeSpans_iff spans size small
  ordered := decode_ordered _

/-- What comes back from tags are the runs of covered tokens in increasing order, with a free token
between any two. Spans that are separated like this come back as they are, and all spans leave the
tags that their runs are written as. -/
theorem decode_encodeSpans_runs (spans : List (Nat × Nat)) (size : Nat) (small : size ≤ maxIndex) :
    ((encodeSpans spans size).length = size ∧ Strict (encodeSpans spans size)) ∧
      (∀ run, run ∈ decode (encodeSpans spans size) ↔ IsRun (Covers spans) size run) ∧
      ((decode (encodeSpans spans size)).Pairwise fun a b =>
        ∃ gap, a.2 < gap ∧ gap < b.1 ∧ ¬ Covers spans gap) ∧
      (Separated size spans → decode (encodeSpans spans size) = spans) ∧
      encodeSpans (decode (encodeSpans spans size)) size = encodeSpans spans size := by
  have written := encodeSpans_writes spans size
  have length := encodeSpans_length spans size
  have runs := mem_decode_encodeSpans_iff spans size small
  refine ⟨⟨length, written.1⟩, runs, ?_, ?_, ?_⟩
  · apply (decode_gaps _ written.2).imp
    rintro a b ⟨gap, after, before, within, free⟩
    rw [length] at within
    rw [tagged_encodeSpans_iff spans size small] at free
    exact ⟨gap, after, before, fun covered => free ⟨within, covered⟩⟩
  · intro separated
    exact separated.eq_of_mem_iff _ fun run => (runs run).trans (separated.mem_iff run).symm
  · have again := encodeSpans_decode (encodeSpans spans size) (by rwa [length])
    rw [length] at again
    rw [again]
    exact (ofCoverage_covers_iff _).mpr written

/-- One span reaches beyond the end, one is inverted, and two touch. -/
theorem decode_encodeSpans_runs_clipped :
    7 ≤ maxIndex ∧ IsRun (Covers [(5, maxIndex), (1, 1), (4, 2), (0, 0)]) 7 (5, 6) := by
  have small : 7 ≤ maxIndex := by decide
  obtain ⟨_, runs, _⟩ := decode_encodeSpans_runs [(5, maxIndex), (1, 1), (4, 2), (0, 0)] 7 small
  exact ⟨small, (runs (5, 6)).mp (by decide)⟩

end SpanAnnotation.Bio
