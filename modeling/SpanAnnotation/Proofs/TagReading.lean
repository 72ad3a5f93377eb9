import SpanAnnotation.Proofs.Tagging

/-!
What reading tags gives, for any tags. After each tag the spans that are closed, together with the
one that is open, cover the tokens that are not tagged outside, and they start where a tag opens a
span. So nothing is lost at the end either, and writing the spans again gives the tags whenever they
could have been written at all.
-/

set_option autoImplicit false

namespace SpanAnnotation.Bio

def Tagged (tags : List Tag) (token : Nat) : Prop :=
  ∃ tag, tags[token]? = some tag ∧ tag ≠ .outside

/-- An inside tag opens a span where none is open. -/
def StartsAt (tags : List Tag) (token : Nat) : Prop :=
  tags[token]? = some .opening ∨
    (tags[token]? = some .inside ∧ (token = 0 ∨ tags[token - 1]? = some .outside))

/-- No span is open after the tags. -/
def Idle (tags : List Tag) : Prop := ∀ tag ∈ tags.getLast?, tag = .outside

theorem lt_of_startsAt {tags : List Tag} {token : Nat} (starts : StartsAt tags token) :
    token < tags.length := by
  rcases starts with found | ⟨found, _⟩ <;> exact (List.getElem?_eq_some_iff.mp found).1

theorem tagged_concat (tags : List Tag) (tag : Tag) (token : Nat) :
    Tagged (tags ++ [tag]) token ↔
      Tagged tags token ∨ (token = tags.length ∧ tag ≠ .outside) := by
  rcases Nat.lt_trichotomy token tags.length with less | rfl | more
  · have old : token ≠ tags.length := Nat.ne_of_lt less
    simp [Tagged, List.getElem?_append_left less, old]
  · simp [Tagged]
  · have beyond : (tags ++ [tag])[token]? = none := List.getElem?_eq_none (by simp; omega)
    have old : tags[token]? = none := List.getElem?_eq_none (by omega)
    have other : token ≠ tags.length := Nat.ne_of_gt more
    simp [Tagged, beyond, old, other]

theorem idle_iff (tags : List Tag) (tag : Tag) :
    Idle tags ↔ tags = [] ∨ (tags ++ [tag])[tags.length - 1]? = some .outside := by
  obtain rfl | ⟨before, last, rfl⟩ := List.eq_nil_or_concat tags
  · simp [Idle]
  · simp [Idle]

theorem startsAt_concat (tags : List Tag) (tag : Tag) (token : Nat) :
    StartsAt (tags ++ [tag]) token ↔
      StartsAt tags token ∨
        (token = tags.length ∧ (tag = .opening ∨ (tag = .inside ∧ Idle tags))) := by
  rcases Nat.lt_trichotomy token tags.length with less | rfl | more
  · have old : token ≠ tags.length := Nat.ne_of_lt less
    have before : token - 1 < tags.length := by omega
    simp [StartsAt, List.getElem?_append_left less, List.getElem?_append_left before, old]
  · simp [StartsAt, idle_iff tags tag]
  · have beyond : (tags ++ [tag])[token]? = none := List.getElem?_eq_none (by simp; omega)
    have old : tags[token]? = none := List.getElem?_eq_none (by omega)
    have other : token ≠ tags.length := Nat.ne_of_gt more
    simp [StartsAt, beyond, old, other]

namespace Reading

@[simp] theorem close_start (reading : Reading) : reading.close.start = none := by
  unfold close
  split <;> simp_all

theorem after_concat (tags : List Tag) (tag : Tag) :
    after (tags ++ [tag]) = (after tags).step tag := by
  simp [after]

theorem start_eq_none_iff (tags : List Tag) : (after tags).start = none ↔ Idle tags := by
  induction tags using List.reverseRecOn with
  | nil => simp [after, initial, Idle]
  | append_singleton tags tag _ =>
    rw [after_concat]
    cases tag with
    | opening => simp [step, advance, openHere, Idle]
    | inside =>
      cases start : (after tags).start <;> simp [step, advance, openHere, Idle, start]
    | outside => simp [step, advance, Idle]

/-- What has been read of the tags so far. -/
structure Reads (reading : Reading) (tags : List Tag) : Prop where
  position : reading.position = tags.length
  start_lt : ∀ first, reading.start = some first → first < tags.length
  upright : ∀ span ∈ reading.spans, span.1 ≤ span.2
  inside : ∀ span ∈ reading.spans, span.2 < reading.start.getD tags.length
  ordered : reading.spans.Pairwise fun a b => a.2 < b.1
  covers : ∀ token, Tagged tags token ↔
    Covers reading.spans token ∨
      ∃ first, reading.start = some first ∧ first ≤ token ∧ token < tags.length
  starts : ∀ token, StartsAt tags token ↔
    (∃ span ∈ reading.spans, span.1 = token) ∨ reading.start = some token

variable {reading : Reading} {tags : List Tag}

theorem Reads.close (reads : reading.Reads tags) : reading.close.Reads tags := by
  cases start : reading.start with
  | none =>
    have unchanged : reading.close = reading := by simp [Reading.close, start]
    rwa [unchanged]
  | some first =>
    have bound := reads.start_lt first start
    have before : ∀ span ∈ reading.spans, span.2 < first := by simpa [start] using reads.inside
    have closed : reading.close =
        ⟨reading.position, none, reading.spans ++ [(first, tags.length - 1)]⟩ := by
      simp [Reading.close, start, reads.position]
    rw [closed]
    constructor
    next => exact reads.position
    next => simp
    next =>
      have upright : first ≤ tags.length - 1 := by omega
      exact List.forall_mem_append.mpr ⟨reads.upright, List.forall_mem_singleton.mpr upright⟩
    next =>
      have last : tags.length - 1 < tags.length := by omega
      exact List.forall_mem_append.mpr ⟨fun span present => Nat.lt_trans (before span present) bound,
        List.forall_mem_singleton.mpr last⟩
    next => exact List.pairwise_append.mpr ⟨reads.ordered, by simp, by simpa using before⟩
    next =>
      intro token
      have last : token ≤ tags.length - 1 ↔ token < tags.length := by omega
      simp [reads.covers, start, last]
    next =>
      intro token
      simp [reads.starts, start, or_and_right, exists_or]

theorem Reads.skip (reads : reading.Reads tags) (closed : reading.start = none) :
    reading.advance.Reads (tags ++ [.outside]) := by
  have inside : ∀ span ∈ reading.spans, span.2 < tags.length := by
    simpa [closed] using reads.inside
  constructor
  next => simp [advance, reads.position]
  next => simp [advance, closed]
  next => exact reads.upright
  next =>
    intro span present
    simpa [advance, closed] using Nat.lt_succ_of_lt (inside span present)
  next => exact reads.ordered
  next =>
    intro token
    simp [advance, tagged_concat, reads.covers, closed]
  next =>
    intro token
    simp [advance, startsAt_concat, reads.starts, closed]

theorem Reads.openHere (reads : reading.Reads tags) (closed : reading.start = none) (tag : Tag)
    (opens : tag = .opening ∨ (tag = .inside ∧ Idle tags)) :
    reading.openHere.advance.Reads (tags ++ [tag]) := by
  have inside : ∀ span ∈ reading.spans, span.2 < tags.length := by
    simpa [closed] using reads.inside
  have notOutside : tag ≠ .outside := by
    rcases opens with rfl | ⟨rfl, _⟩ <;> simp
  constructor
  next => simp [advance, Reading.openHere, reads.position]
  next => simp [advance, Reading.openHere, reads.position]
  next => exact reads.upright
  next => simpa [advance, Reading.openHere, reads.position] using inside
  next => exact reads.ordered
  next =>
    intro token
    have here : tags.length ≤ token ∧ token < tags.length + 1 ↔ token = tags.length := by omega
    rw [tagged_concat, reads.covers, List.length_append, List.length_singleton]
    simp only [advance, Reading.openHere, reads.position, closed, notOutside, here,
      Option.some.injEq, exists_eq_left', reduceCtorEq, false_and, exists_false, or_false, ne_eq,
      not_false_eq_true, and_true]
  next =>
    intro token
    simp [advance, Reading.openHere, reads.position, startsAt_concat, reads.starts, closed, opens,
      eq_comm]

theorem Reads.continue (reads : reading.Reads tags) (first : Nat)
    (opened : reading.start = some first) (busy : ¬ Idle tags) :
    reading.advance.Reads (tags ++ [.inside]) := by
  have bound := reads.start_lt first opened
  constructor
  next => simp [advance, reads.position]
  next => simpa [advance, opened] using Nat.lt_succ_of_lt bound
  next => exact reads.upright
  next => simpa [advance, opened] using reads.inside
  next => exact reads.ordered
  next =>
    intro token
    have longer : first ≤ token ∧ token < tags.length + 1 ↔
        (first ≤ token ∧ token < tags.length) ∨ token = tags.length := by omega
    rw [tagged_concat, reads.covers, List.length_append, List.length_singleton]
    simp only [advance, opened, longer, Option.some.injEq, exists_eq_left', or_assoc, ne_eq,
      reduceCtorEq, not_false_eq_true, and_true]
  next =>
    intro token
    simp [advance, opened, startsAt_concat, reads.starts, busy]

theorem Reads.step (reads : reading.Reads tags) (idle : reading.start = none ↔ Idle tags)
    (tag : Tag) : (reading.step tag).Reads (tags ++ [tag]) := by
  cases tag with
  | opening => exact reads.close.openHere (close_start reading) .opening (.inl rfl)
  | inside =>
    cases start : reading.start with
    | none =>
      have opened := reads.openHere start .inside (.inr ⟨rfl, idle.mp start⟩)
      simpa [Reading.step, start] using opened
    | some first =>
      have busy : ¬ Idle tags := by simp [← idle, start]
      have continued := reads.continue first start busy
      simpa [Reading.step, start] using continued
  | outside => exact reads.close.skip (close_start reading)

theorem after_reads (tags : List Tag) : (after tags).Reads tags := by
  induction tags using List.reverseRecOn with
  | nil => constructor <;> simp [after, initial, Tagged, StartsAt]
  | append_singleton tags tag ih =>
    rw [after_concat]
    exact ih.step (start_eq_none_iff tags) tag

end Reading

-- Reading to the end.

theorem decode_reads (tags : List Tag) : (Reading.after tags).close.Reads tags :=
  (Reading.after_reads tags).close

theorem decode_upright (tags : List Tag) : ∀ span ∈ decode tags, span.1 ≤ span.2 :=
  (decode_reads tags).upright

theorem decode_inside (tags : List Tag) : ∀ span ∈ decode tags, span.2 < tags.length := by
  simpa [decode] using (decode_reads tags).inside

theorem decode_ordered (tags : List Tag) : (decode tags).Pairwise fun a b => a.2 < b.1 :=
  (decode_reads tags).ordered

theorem covers_decode_iff (tags : List Tag) (token : Nat) :
    Covers (decode tags) token ↔ Tagged tags token := by
  simpa [decode] using ((decode_reads tags).covers token).symm

theorem starts_decode_iff (tags : List Tag) (token : Nat) :
    (∃ span ∈ decode tags, span.1 = token) ↔ StartsAt tags token := by
  simpa [decode] using ((decode_reads tags).starts token).symm

theorem encodeSpans_decode (tags : List Tag) (small : tags.length ≤ maxIndex) :
    encodeSpans (decode tags) tags.length = ofCoverage (tags.map Tag.covers) := by
  rw [encodeSpans_eq _ _ small]
  congr 1
  apply List.ext_getElem
  next => simp
  next =>
    intro token _ within
    rw [List.length_map] at within
    simp [covers_decode_iff, Tagged, Tag.covers, within, bne, Bool.beq_eq_decide_eq]

/-- The spans that are read are not empty, lie inside, follow one another and cover exactly the
tokens that are not outside, and one starts at each token whose tag opens a span. Where one is
closed there is a token before. Only what could have been written comes back from writing them. -/
theorem decode_loses_nothing (tags : List Tag) :
    (∀ before, before <+: tags → ∀ first, (Reading.after before).start = some first →
      first < (Reading.after before).position) ∧
      (∀ span ∈ decode tags, span.1 ≤ span.2 ∧ span.2 < tags.length) ∧
      ((decode tags).Pairwise fun a b => a.2 < b.1) ∧
      (∀ token, Covers (decode tags) token ↔ Tagged tags token) ∧
      (∀ token, (∃ span ∈ decode tags, span.1 = token) ↔ StartsAt tags token) ∧
      (tags.length ≤ maxIndex →
        (encodeSpans (decode tags) tags.length = tags ↔ Strict tags ∧ Spaced tags)) := by
  refine ⟨?_, ?_, decode_ordered tags, covers_decode_iff tags, starts_decode_iff tags, ?_⟩
  · intro before _ first opened
    have reads := Reading.after_reads before
    rw [reads.position]
    exact reads.start_lt first opened
  · intro span present
    exact ⟨decode_upright tags span present, decode_inside tags span present⟩
  · intro small
    rw [encodeSpans_decode tags small]
    exact ofCoverage_covers_iff tags

/-- The inside tag opens a span, which is written with an opening tag. -/
theorem decode_loses_nothing_insideFirst :
    Covers (decode [.inside, .inside, .outside, .opening]) 1 ∧
      encodeSpans (decode [.inside, .inside, .outside, .opening]) 4 ≠
        [.inside, .inside, .outside, .opening] := by
  obtain ⟨_, _, _, covers, _, written⟩ :=
    decode_loses_nothing [.inside, .inside, .outside, .opening]
  constructor
  · exact (covers 1).mpr ⟨.inside, rfl, by decide⟩
  · intro same
    have strict := ((written (by decide)).mp same).1
    simp [Strict, Tag.mayFollow] at strict

end SpanAnnotation.Bio
