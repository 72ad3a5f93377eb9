import SpanAnnotation.Proofs.SpanRules
import SpanAnnotation.Proofs.TextOrder

/-!
Positions of tokens in the whole document. They count all tokens, sentence after sentence, so that
those of a sentence stand before those of a later one, and the distance to what comes later in the
text is counted from the end of the earlier span.
-/

set_option autoImplicit false

namespace SpanAnnotation.Document

theorem totalSize_take_le (sentences : List Sentence) (place later : Nat) (sentence : Sentence)
    (found : sentences[place]? = some sentence) (after : place < later) :
    totalSize (sentences.take place) + sentence.size ≤ totalSize (sentences.take later) := by
  induction sentences generalizing place later with
  | nil => simp at found
  | cons first rest ih =>
    cases later with
    | zero => omega
    | succ later =>
      cases place with
      | zero =>
        obtain rfl : first = sentence := by simpa using found
        simp
      | succ place =>
        have bound := ih place later (by simpa using found) (Nat.lt_of_succ_lt_succ after)
        simp only [List.take_succ_cons, totalSize_cons]
        omega

variable (document : Document)

-- Positions.

/-- The positions of all tokens, sentence after sentence. -/
def positions : List Nat :=
  (List.range document.sentences.length).flatMap fun place =>
    (List.range (document.sentenceSize place)).map (document.position place)

theorem totalSize_take_succ (sentences : List Sentence) (place : Nat) (sentence : Sentence)
    (found : sentences[place]? = some sentence) :
    totalSize (sentences.take (place + 1)) = totalSize (sentences.take place) + sentence.size := by
  induction sentences generalizing place with
  | nil => simp at found
  | cons first rest ih =>
    cases place with
    | zero =>
      obtain rfl : first = sentence := by simpa using found
      simp
    | succ place =>
      have tail := ih place (by simpa using found)
      simp only [List.take_succ_cons, totalSize_cons, tail, Nat.add_assoc]

theorem positions_before (count : Nat) (known : count ≤ document.sentences.length) :
    ((List.range count).flatMap fun place =>
      (List.range (document.sentenceSize place)).map (document.position place)) =
        List.range (totalSize (document.sentences.take count)) := by
  induction count with
  | zero => simp
  | succ count ih =>
    have inside : count < document.sentences.length := known
    have found := List.getElem?_eq_getElem inside
    have here : document.position count = fun token =>
        totalSize (document.sentences.take count) + token := by
      funext token
      rw [position, offset_eq, if_pos inside]
    rw [List.range_succ, List.flatMap_append, ih (Nat.le_of_succ_le known),
      List.flatMap_singleton, document.sentenceSize_eq count _ found, here,
      totalSize_take_succ _ count _ found, List.range_add]

/-- Counted from the start of the document the tokens have the positions from zero on. -/
theorem positions_eq_range : document.positions = List.range document.tokenCount := by
  have all := document.positions_before document.sentences.length (Nat.le_refl _)
  rwa [List.take_length] at all

def tokens : List Token := document.sentences.flatMap Sentence.tokens

theorem getElem?_flatMap_tokens (sentences : List Sentence) (place token : Nat)
    (sentence : Sentence) (found : sentences[place]? = some sentence)
    (within : token < sentence.size) :
    (sentences.flatMap Sentence.tokens)[totalSize (sentences.take place) + token]? =
      sentence.tokens[token]? := by
  induction sentences generalizing place with
  | nil => simp at found
  | cons first rest ih =>
    cases place with
    | zero =>
      obtain rfl : first = sentence := by simpa using found
      simpa using List.getElem?_append_left within
    | succ place =>
      have tail := ih place (by simpa using found)
      have later : first.tokens.length ≤
          first.size + totalSize (rest.take place) + token := by
        rw [Sentence.size]
        omega
      rw [List.take_succ_cons, totalSize_cons, List.flatMap_cons,
        List.getElem?_append_right later, ← tail]
      congr 1
      rw [Sentence.size]
      omega

theorem tokens_getElem?_position (place token : Nat) (sentence : Sentence)
    (found : document.sentence? place = some sentence) (within : token < sentence.size) :
    document.tokens[document.position place token]? = sentence.tokens[token]? := by
  have known := (List.getElem?_eq_some_iff.mp found).1
  rw [position, offset_eq, if_pos known]
  exact getElem?_flatMap_tokens document.sentences place token sentence found within

-- Distances.

theorem position_lt_of_earlier (place later token other size : Nat)
    (found : document.sizes[place]? = some size) (within : token < size) (after : place < later)
    (known : later < document.sizes.length) :
    document.position place token < document.position later other := by
  rw [sizes, List.getElem?_map, Option.map_eq_some_iff] at found
  obtain ⟨sentence, found, rfl⟩ := found
  rw [sizes, List.length_map] at known
  have bound := totalSize_take_le document.sentences place later sentence found after
  simp only [position, offset_eq, known, Nat.lt_trans after known, if_true]
  omega

/-- A span that fits ends before all tokens of later sentences. -/
theorem last_lt_of_earlier (a b : Annotation) (left : a.Fits document.sizes)
    (right : b.Fits document.sizes) (earlier : a.sentence < b.sentence) :
    document.position a.sentence a.last < document.position b.sentence b.first := by
  obtain ⟨size, found, within⟩ := left.inside
  obtain ⟨_, present, _⟩ := right.inside
  have known := (List.getElem?_eq_some_iff.mp present).1
  exact document.position_lt_of_earlier _ _ _ _ size found within earlier known

theorem distance_of_precedes (a b : Annotation) (left : a.Fits document.sizes)
    (right : b.Fits document.sizes) (earlier : a.precedes b = true) :
    document.distance a b =
      document.position b.sentence b.first - document.position a.sentence a.last := by
  have leftUpright := left.upright
  have rightUpright := right.upright
  rw [a.precedes_iff b] at earlier
  have notAfter : document.position a.sentence a.first ≤ document.position b.sentence b.last := by
    rcases earlier with before | ⟨same, inside⟩
    · have apart := document.last_lt_of_earlier a b left right before
      simp only [position] at apart ⊢
      omega
    · simp only [position, same]
      omega
  simp only [distance]
  split
  next => rfl
  next =>
    rw [if_neg (Nat.not_lt_of_le notAfter)]
    omega

theorem overlaps_eq_false_iff (a b : Annotation) (left : a.Fits document.sizes)
    (right : b.Fits document.sizes) (earlier : a.precedes b = true) :
    a.overlaps b = false ↔
      document.position a.sentence a.last < document.position b.sentence b.first := by
  have upright := right.upright
  rw [a.precedes_iff b] at earlier
  rcases earlier with before | ⟨same, _⟩
  · have ends := document.last_lt_of_earlier a b left right before
    simp [ends, Annotation.overlaps, Nat.ne_of_lt before]
  · simp only [same, Annotation.overlaps, position, Bool.and_eq_false_iff, decide_eq_false_iff_not,
      beq_self_eq_true, Bool.true_eq_false, false_or]
    omega

end SpanAnnotation.Document
