import Mathlib.Data.Nat.Dist
import Mathlib.Order.Bounds.Defs
import SpanAnnotation.Proofs.TokenDistance

/-!
The distance of two spans is the least number of steps between their tokens, where tokens count
through the whole document in text order. Positions never pass the number of tokens, so that words
of 64 bits hold all that is computed on the way.
-/

set_option autoImplicit false

namespace SpanAnnotation.Document

variable (document : Document)

-- Positions number the tokens.

def Holds (place token : Nat) : Prop :=
  ∃ sentence, document.sentence? place = some sentence ∧ token < sentence.size

namespace Holds

variable {document}
variable {place token later other : Nat}

theorem place_lt (held : document.Holds place token) : place < document.sentences.length := by
  obtain ⟨_, found, _⟩ := held
  exact (List.getElem?_eq_some_iff.mp found).1

theorem position_eq (held : document.Holds place token) :
    document.position place token = totalSize (document.sentences.take place) + token := by
  rw [position, offset_eq, if_pos held.place_lt]

theorem position_lt (held : document.Holds place token) :
    document.position place token < document.tokenCount := by
  have known := held.place_lt
  rw [held.position_eq, tokenCount]
  obtain ⟨sentence, found, within⟩ := held
  have bound := totalSize_take_le document.sentences place _ sentence found known
  rw [List.take_length] at bound
  omega

theorem before (left : document.Holds place token) (right : document.Holds later other)
    (earlier : place < later) :
    document.position place token < document.position later other := by
  obtain ⟨sentence, found, within⟩ := left
  refine document.position_lt_of_earlier place later token other sentence.size ?_ within earlier ?_
  · rw [sizes, List.getElem?_map, Option.map_eq_some_iff]
    exact ⟨sentence, found, rfl⟩
  · rw [sizes, List.length_map]
    exact right.place_lt

theorem position_lt_iff (left : document.Holds place token) (right : document.Holds later other) :
    document.position place token < document.position later other ↔
      place < later ∨ place = later ∧ token < other := by
  rcases Nat.lt_trichotomy place later with earlier | rfl | earlier
  next =>
    have ahead := left.before right earlier
    simp only [ahead, earlier, true_or]
  next => simp [position]
  next =>
    have behind := right.before left earlier
    omega

end Holds

theorem holds_of_fits {a : Annotation} (fits : a.Fits document.sizes) :
    document.Holds a.sentence a.first ∧ document.Holds a.sentence a.last := by
  obtain ⟨size, found, within⟩ := fits.inside
  rw [sizes, List.getElem?_map, Option.map_eq_some_iff] at found
  obtain ⟨sentence, found, rfl⟩ := found
  exact ⟨⟨sentence, found, Nat.lt_of_le_of_lt fits.upright within⟩, sentence, found, within⟩

theorem lt_tokenCount_iff (n : Nat) :
    n < document.tokenCount ↔
      ∃ place token, document.Holds place token ∧ document.position place token = n := by
  constructor
  next =>
    intro small
    rw [← List.mem_range, ← positions_eq_range, positions, List.mem_flatMap] at small
    obtain ⟨place, known, there⟩ := small
    obtain ⟨token, within, same⟩ := List.mem_map.mp there
    rw [List.mem_range] at known within
    have found := List.getElem?_eq_getElem known
    rw [document.sentenceSize_eq place _ found] at within
    exact ⟨place, token, ⟨_, found, within⟩, same⟩
  next =>
    rintro ⟨place, token, held, rfl⟩
    exact held.position_lt

-- Distances.

def positionsOf (a : Annotation) : List Nat := a.tokens.map (document.position a.sentence)

/-- The tokens of a span stand next to each other. -/
theorem mem_positionsOf_iff (a : Annotation) (p : Nat) :
    p ∈ document.positionsOf a ↔
      document.position a.sentence a.first ≤ p ∧ p ≤ document.position a.sentence a.last := by
  simp only [positionsOf, Annotation.tokens, List.mem_map, List.mem_range'_1, position]
  constructor
  next =>
    rintro ⟨token, within, rfl⟩
    omega
  next => exact fun between => ⟨p - document.offset a.sentence, by omega, by omega⟩

theorem distance_cases (a b : Annotation) :
    (document.position a.sentence a.last < document.position b.sentence b.first ∧
      document.distance a b =
        document.position b.sentence b.first - document.position a.sentence a.last) ∨
    (document.position b.sentence b.first ≤ document.position a.sentence a.last ∧
      document.position b.sentence b.last < document.position a.sentence a.first ∧
      document.distance a b =
        document.position a.sentence a.first - document.position b.sentence b.last) ∨
    (document.position b.sentence b.first ≤ document.position a.sentence a.last ∧
      document.position a.sentence a.first ≤ document.position b.sentence b.last ∧
      document.distance a b = 0) := by
  simp only [distance]
  split
  next before => exact .inl ⟨before, rfl⟩
  next notBefore =>
    rw [Nat.not_lt] at notBefore
    split
    next after => exact .inr (.inl ⟨notBefore, after, rfl⟩)
    next notAfter => exact .inr (.inr ⟨notBefore, Nat.not_lt.mp notAfter, rfl⟩)

theorem position_le_position (a : Annotation) (upright : a.first ≤ a.last) :
    document.position a.sentence a.first ≤ document.position a.sentence a.last :=
  Nat.add_le_add_left upright _

theorem distance_comm (a b : Annotation) (upright : a.first ≤ a.last)
    (otherUpright : b.first ≤ b.last) : document.distance a b = document.distance b a := by
  have left := document.position_le_position a upright
  have right := document.position_le_position b otherUpright
  have forward := document.distance_cases a b
  have backward := document.distance_cases b a
  omega

def stepsBetween (a b : Annotation) : Set Nat :=
  { steps | ∃ p ∈ document.positionsOf a, ∃ q ∈ document.positionsOf b, steps = p.dist q }

theorem distance_isLeast (a b : Annotation) (upright : a.first ≤ a.last)
    (otherUpright : b.first ≤ b.last) :
    IsLeast (document.stepsBetween a b) (document.distance a b) := by
  have left := document.position_le_position a upright
  have right := document.position_le_position b otherUpright
  have cases := document.distance_cases a b
  constructor
  next =>
    simp only [stepsBetween, mem_positionsOf_iff, Set.mem_ofPred_eq]
    rcases cases with ⟨before, steps⟩ | ⟨_, after, steps⟩ | ⟨reaches, reached, steps⟩
    next =>
      rw [steps, ← Nat.dist_eq_sub_of_le (Nat.le_of_lt before)]
      exact ⟨_, ⟨left, Nat.le_refl _⟩, _, ⟨Nat.le_refl _, right⟩, rfl⟩
    next =>
      rw [steps, ← Nat.dist_eq_sub_of_le_right (Nat.le_of_lt after)]
      exact ⟨_, ⟨Nat.le_refl _, left⟩, _, ⟨right, Nat.le_refl _⟩, rfl⟩
    next =>
      -- Both have the token at which the one that begins later begins.
      let shared :=
        max (document.position a.sentence a.first) (document.position b.sentence b.first)
      rw [steps, ← Nat.dist_self shared]
      exact ⟨shared, by omega, shared, by omega, rfl⟩
  next =>
    rintro steps ⟨p, ofLeft, q, ofRight, rfl⟩
    rw [mem_positionsOf_iff] at ofLeft ofRight
    rw [Nat.dist]
    omega

theorem overlaps_iff_position (a b : Annotation) (left : a.Fits document.sizes)
    (right : b.Fits document.sizes) :
    a.overlaps b = true ↔
      document.position b.sentence b.first ≤ document.position a.sentence a.last ∧
        document.position a.sentence a.first ≤ document.position b.sentence b.last := by
  simp only [Bool.and_eq_true, Annotation.overlaps, beq_iff_eq, decide_eq_true_eq]
  rcases Nat.lt_trichotomy a.sentence b.sentence with before | same | after
  next =>
    have apart := document.last_lt_of_earlier a b left right before
    omega
  next =>
    simp only [same, position, true_and]
    omega
  next =>
    have apart := document.last_lt_of_earlier b a right left after
    omega

theorem distance_eq_zero_iff (a b : Annotation) (left : a.Fits document.sizes)
    (right : b.Fits document.sizes) : document.distance a b = 0 ↔ a.overlaps b = true := by
  have cases := document.distance_cases a b
  rw [document.overlaps_iff_position a b left right]
  omega

-- Words of 64 bits.

/-- How many tokens stand before each sentence, counted in words from the given number on. -/
def wordOffsets (total : UInt64) : List Sentence → List UInt64
  | [] => []
  | sentence :: rest => total :: wordOffsets (total + .ofNat sentence.size) rest

def wordPosition (place token : Nat) : UInt64 :=
  (wordOffsets 0 document.sentences)[place]?.getD 0 + .ofNat token

def wordDistance (a b : Annotation) : UInt64 :=
  let aFirst := document.wordPosition a.sentence a.first
  let aLast := document.wordPosition a.sentence a.last
  let bFirst := document.wordPosition b.sentence b.first
  let bLast := document.wordPosition b.sentence b.last
  if aLast < bFirst then bFirst - aLast
  else if bLast < aFirst then aFirst - bLast
  else 0

theorem wordOffsets_toNat (total : UInt64) (sentences : List Sentence) (place : Nat)
    (known : place < sentences.length) (room : total.toNat + totalSize sentences ≤ maxIndex) :
    ((wordOffsets total sentences)[place]?.getD 0).toNat =
      total.toNat + totalSize (sentences.take place) := by
  induction sentences generalizing total place with
  | nil => simp at known
  | cons sentence rest ih =>
    cases place with
    | zero => simp [wordOffsets]
    | succ place =>
      rw [totalSize_cons] at room
      have next : (total + .ofNat sentence.size).toNat = total.toNat + sentence.size := by
        rw [UInt64.toNat_add, UInt64.toNat_ofNat']
        simp only [maxIndex] at room
        omega
      have tail := ih (total + .ofNat sentence.size) place (Nat.lt_of_succ_lt_succ known) (by omega)
      simp only [wordOffsets, List.getElem?_cons_succ, List.take_succ_cons, totalSize_cons, tail,
        next, Nat.add_assoc]

theorem wordPosition_toNat (room : document.tokenCount ≤ maxIndex) {place token : Nat}
    (held : document.Holds place token) :
    (document.wordPosition place token).toNat = document.position place token := by
  have offset := wordOffsets_toNat 0 document.sentences place held.place_lt
    (by simpa [tokenCount] using room)
  have small := held.position_lt
  have position := held.position_eq
  rw [wordPosition, UInt64.toNat_add, UInt64.toNat_ofNat', offset, position]
  simp only [maxIndex] at room
  simp only [UInt64.toNat_zero]
  omega

theorem wordDistance_toNat (room : document.tokenCount ≤ maxIndex) (a b : Annotation)
    (left : a.Fits document.sizes) (right : b.Fits document.sizes) :
    (document.wordDistance a b).toNat = document.distance a b := by
  obtain ⟨firstHeld, lastHeld⟩ := document.holds_of_fits left
  obtain ⟨otherFirstHeld, otherLastHeld⟩ := document.holds_of_fits right
  have aFirst := document.wordPosition_toNat room firstHeld
  have aLast := document.wordPosition_toNat room lastHeld
  have bFirst := document.wordPosition_toNat room otherFirstHeld
  have bLast := document.wordPosition_toNat room otherLastHeld
  simp only [wordDistance, distance, UInt64.lt_iff_toNat_lt, aFirst, aLast, bFirst, bLast]
  split
  next before =>
    rw [UInt64.toNat_sub_of_le, aLast, bFirst]
    rw [UInt64.le_iff_toNat_le, aLast, bFirst]
    exact Nat.le_of_lt before
  next =>
    split
    next after =>
      rw [UInt64.toNat_sub_of_le, aFirst, bLast]
      rw [UInt64.le_iff_toNat_le, aFirst, bLast]
      exact Nat.le_of_lt after
    next => rfl

/-- Distances are symmetric, least and nothing just for spans that overlap. Positions put the tokens
in text order and number them, also where sentences are empty. While the tokens are no more than a
word can count, positions and distances are the same in words. -/
theorem distances_are_least_steps (valid : document.validate = .ok ()) :
    (∀ a ∈ document.annotations.entries, ∀ b ∈ document.annotations.entries,
      document.distance a b = document.distance b a ∧
        IsLeast (document.stepsBetween a b) (document.distance a b) ∧
        (document.distance a b = 0 ↔ a.overlaps b = true)) ∧
    (∀ place token later other, document.Holds place token → document.Holds later other →
      (document.position place token < document.position later other ↔
        place < later ∨ place = later ∧ token < other)) ∧
    (∀ n, n < document.tokenCount ↔
      ∃ place token, document.Holds place token ∧ document.position place token = n) ∧
    (document.tokenCount ≤ maxIndex →
      (∀ place token, document.Holds place token →
        (document.wordPosition place token).toNat = document.position place token) ∧
      ∀ a ∈ document.annotations.entries, ∀ b ∈ document.annotations.entries,
        (document.wordDistance a b).toNat = document.distance a b) := by
  have fits := (document.validate_eq_ok_iff.mp valid).spans
  refine ⟨fun a left b right => ?_, fun _ _ _ _ => Holds.position_lt_iff,
    document.lt_tokenCount_iff, fun room => ⟨fun _ _ => document.wordPosition_toNat room, ?_⟩⟩
  next =>
    have upright := (fits a left).upright
    have otherUpright := (fits b right).upright
    exact ⟨document.distance_comm a b upright otherUpright,
      document.distance_isLeast a b upright otherUpright,
      document.distance_eq_zero_iff a b (fits a left) (fits b right)⟩
  next =>
    intro a left b right
    exact document.wordDistance_toNat room a b (fits a left) (fits b right)

def nowakPerson : Annotation := ⟨0, 0, 0, 1, "PERSON", none, 0, ""⟩

def nowySacz : Annotation := ⟨1, 2, 1, 2, "PLACE", none, 0, ""⟩

def sacz : Annotation := ⟨2, 2, 2, 2, "PLACE", none, 0, ""⟩

-- An empty sentence lies between the person and the places.
def nowakInNowySacz : Document :=
  { ofSentences "d" ([["Jan", "Nowak"], [], ["w", "Nowym", "Sączu"]].map fun orths =>
      ⟨"s", orths.map fun orth => Token.ofOrth orth 0, .empty orths.length⟩) with
    annotations := ⟨[nowakPerson, nowySacz, sacz], by decide⟩
    nextId := 3 }

theorem nowakInNowySacz_steps :
    nowakInNowySacz.validate = .ok () ∧
      IsLeast (nowakInNowySacz.stepsBetween nowakPerson nowySacz) 2 ∧
      nowakInNowySacz.distance nowySacz sacz = 0 ∧
      (nowakInNowySacz.wordDistance sacz nowakPerson).toNat = 3 := by
  have valid : nowakInNowySacz.validate = .ok () := by decide
  obtain ⟨distances, _, _, words⟩ := nowakInNowySacz.distances_are_least_steps valid
  obtain ⟨_, least, _⟩ := distances nowakPerson (by decide) nowySacz (by decide)
  obtain ⟨_, _, together⟩ := distances nowySacz (by decide) sacz (by decide)
  refine ⟨valid, least, together.mpr (by decide), ?_⟩
  exact (words (by decide)).2 sacz (by decide) nowakPerson (by decide)

end SpanAnnotation.Document
