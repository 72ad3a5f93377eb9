import SpanAnnotation.Proofs.Identity
import SpanAnnotation.Token

/-!
Tokens as cuts of a text. Scanning leaves out nothing but blanks: read from left to right a text is
blanks and pieces in turn, and each piece carries the byte range at which it stands.
-/

set_option autoImplicit false

namespace SpanAnnotation

-- Blanks.

namespace Text

def blankCodes : List Nat :=
  [9, 10, 11, 12, 13, 0x20, 0x85, 0xA0, 0x1680, 0x2000, 0x2001, 0x2002, 0x2003, 0x2004, 0x2005,
   0x2006, 0x2007, 0x2008, 0x2009, 0x200A, 0x2028, 0x2029, 0x202F, 0x205F, 0x3000]

theorem mem_blankCodes (c : Char) (blank : isBlank c = true) : c.toNat ∈ blankCodes := by
  simp only [isBlank, Bool.or_eq_true, Bool.and_eq_true, decide_eq_true_eq, beq_iff_eq] at blank
  simp only [blankCodes, List.mem_cons, List.not_mem_nil, or_false]
  omega

theorem isBlank_of_isAlphanumeric (c : Char) (alphanumeric : isAlphanumeric c = true) :
    isBlank c = false := by
  have apart : ∀ code ∈ blankCodes, Ranges.contains alphabeticRanges code = false ∧
      Ranges.contains numericRanges code = false := by decide +kernel
  rw [Bool.eq_false_iff]
  intro blank
  obtain ⟨notAlphabetic, notNumeric⟩ := apart c.toNat (mem_blankCodes c blank)
  simp [isAlphanumeric, isAlphabetic, isNumeric, notAlphabetic, notNumeric] at alphanumeric

end Text

namespace Token

open Text

theorem isBlank_of_continues (word : List Char) (c : Char) (more : continues word c = true) :
    isBlank c = false := by
  simp only [continues, Bool.or_eq_true, Bool.and_eq_true, beq_iff_eq] at more
  rcases more with alphanumeric | ⟨rfl, _⟩
  · exact isBlank_of_isAlphanumeric c alphanumeric
  · decide

-- Scanning.

/-- The pieces are what stands in the text from a byte position on when its blanks are left out. -/
inductive Cuts : Nat → List Char → List Piece → Prop
  | nil (position : Nat) : Cuts position [] []
  | blank {position : Nat} {c : Char} {rest : List Char} {found : List Piece} :
      isBlank c = true → Cuts (position + c.utf8Size) rest found → Cuts position (c :: rest) found
  | piece {position : Nat} {word rest : List Char} {found : List Piece} :
      word ≠ [] → (∀ c ∈ word, isBlank c = false) → Cuts (position + byteSize word) rest found →
        Cuts position (word ++ rest) (⟨word, position, position + byteSize word⟩ :: found)

namespace Cuts

variable {position : Nat} {cs others : List Char} {found more : List Piece}

theorem append (left : Cuts position cs found)
    (right : Cuts (position + byteSize cs) others more) :
    Cuts position (cs ++ others) (found ++ more) := by
  induction left with
  | nil => simpa using right
  | blank white _ ih => exact .blank white (ih (by simpa [Nat.add_assoc] using right))
  | piece filled solid _ ih =>
    rw [List.append_assoc]
    exact .piece filled solid (ih (by simpa [byteSize_append, Nat.add_assoc] using right))

theorem shift (cuts : Cuts position cs found) (offset : Nat) :
    Cuts (position + offset) cs (found.map (Piece.shift offset)) := by
  induction cuts with
  | nil => exact .nil _
  | blank white _ ih =>
    rw [Nat.add_right_comm] at ih
    exact .blank white ih
  | piece filled solid _ ih =>
    rw [Nat.add_right_comm] at ih
    simpa [Piece.shift, Nat.add_right_comm] using Cuts.piece filled solid ih

theorem single (position : Nat) (word : List Char) (filled : word ≠ [])
    (solid : ∀ c ∈ word, isBlank c = false) :
    Cuts position word [⟨word, position, position + byteSize word⟩] := by
  simpa using Cuts.piece filled solid (.nil (position + byteSize word))

end Cuts

theorem closeWord_cuts (first start : Nat) (word : List Char)
    (solid : ∀ c ∈ word, isBlank c = false) (opened : word ≠ [] → start = first) :
    Cuts first word (closeWord word start (first + byteSize word)) := by
  cases word with
  | nil => exact .nil first
  | cons c rest =>
    rw [opened (by simp)]
    exact .single first (c :: rest) (by simp) solid

/-- The word that is open began at `first`, and what is scanned comes after it. -/
theorem scan_cuts (first start : Nat) (word cs : List Char)
    (solid : ∀ c ∈ word, isBlank c = false) (opened : word ≠ [] → start = first) :
    Cuts first (word ++ cs) (scan (first + byteSize word) start word cs) := by
  induction cs generalizing first start word with
  | nil => simpa [scan] using closeWord_cuts first start word solid opened
  | cons c rest ih =>
    have closed := closeWord_cuts first start word solid opened
    have longer (opening : Nat) (inner : isBlank c = false) (began : opening = first) :
        Cuts first (word ++ c :: rest)
          (scan (first + byteSize word + c.utf8Size) opening (word ++ [c]) rest) := by
      have grown : ∀ d ∈ word ++ [c], isBlank d = false :=
        List.forall_mem_append.mpr ⟨solid, by simpa using inner⟩
      have scanned := ih first opening (word ++ [c]) grown fun _ => began
      simpa [byteSize_append, Nat.add_assoc] using scanned
    have afresh (position : Nat) : Cuts position rest (scan position position [] rest) := by
      simpa using ih position position [] (by simp) (by simp)
    simp only [scan]
    split
    next more =>
      apply longer _ (isBlank_of_continues word c more)
      split
      next empty => simp [List.isEmpty_iff.mp empty]
      next filled => exact opened (by simpa using filled)
    next =>
      split
      next stop =>
        simp only [Bool.and_eq_true, beq_iff_eq, Bool.not_eq_true', List.isEmpty_eq_false_iff] at stop
        obtain ⟨⟨rfl, filled⟩, _⟩ := stop
        exact longer start (by decide) (opened filled)
      next =>
        split
        next white => exact closed.append (.blank white (afresh _))
        next inner =>
          have mark := Cuts.single (first + byteSize word) [c] (by simp) (by simpa using inner)
          exact closed.append (by simpa using mark.append (afresh _))

theorem pieces_cuts (cs : List Char) : Cuts 0 cs (pieces cs) := by
  simpa [pieces] using scan_cuts 0 0 [] cs (by simp) (by simp)

-- What follows for the pieces.

theorem byteSize_pos (word : List Char) (filled : word ≠ []) : 0 < byteSize word := by
  cases word with
  | nil => exact absurd rfl filled
  | cons c rest =>
    have wide := c.utf8Size_pos
    rw [byteSize_cons]
    omega

namespace Cuts

variable {position : Nat} {cs : List Char} {found : List Piece}

theorem stands (cuts : Cuts position cs found) : ∀ piece ∈ found, piece.text ≠ [] ∧
    ∃ before after, cs = before ++ piece.text ++ after ∧
      piece.start = position + byteSize before ∧
      piece.stop = position + byteSize (before ++ piece.text) := by
  induction cuts with
  | nil => simp
  | @blank position c rest found _ _ ih =>
    intro piece present
    obtain ⟨filled, before, after, rfl, start, stop⟩ := ih piece present
    refine ⟨filled, c :: before, after, rfl, ?_, ?_⟩
    · rw [start, byteSize_cons, Nat.add_assoc]
    · rw [stop, List.cons_append, byteSize_cons, Nat.add_assoc]
  | @piece position word rest found filled _ _ ih =>
    refine List.forall_mem_cons.mpr ⟨⟨filled, [], rest, rfl, rfl, rfl⟩, fun piece present => ?_⟩
    obtain ⟨filled, before, after, rfl, start, stop⟩ := ih piece present
    refine ⟨filled, word ++ before, after, by simp, ?_, ?_⟩
    · rw [start, byteSize_append, Nat.add_assoc]
    · rw [stop, List.append_assoc, byteSize_append word, Nat.add_assoc]

theorem le_start (cuts : Cuts position cs found) (piece : Piece) (present : piece ∈ found) :
    position ≤ piece.start := by
  obtain ⟨_, _, _, _, start, _⟩ := cuts.stands piece present
  omega

theorem stop_le (cuts : Cuts position cs found) (piece : Piece) (present : piece ∈ found) :
    piece.start ≤ piece.stop ∧ piece.stop ≤ position + byteSize cs := by
  obtain ⟨_, before, after, rfl, start, stop⟩ := cuts.stands piece present
  simp only [byteSize_append] at stop ⊢
  omega

theorem length_le (cuts : Cuts position cs found) : found.length ≤ byteSize cs := by
  induction cuts with
  | nil => exact Nat.le_refl 0
  | blank _ _ ih =>
    rw [byteSize_cons]
    omega
  | @piece _ word _ _ filled _ _ ih =>
    have wide := byteSize_pos word filled
    rw [byteSize_append, List.length_cons]
    omega

theorem ordered (cuts : Cuts position cs found) :
    found.Pairwise fun a b => a.stop ≤ b.start := by
  induction cuts with
  | nil => exact .nil
  | blank _ _ ih => exact ih
  | piece _ _ later ih =>
    exact List.pairwise_cons.mpr ⟨fun piece present => later.le_start piece present, ih⟩

-- A character of a text that starts with a word stands in the word or after it.
theorem place_cases {word rest before after : List Char} {c : Char}
    (same : word ++ rest = before ++ c :: after) :
    (∃ inner, word = before ++ c :: inner) ∨
      ∃ further, before = word ++ further ∧ rest = further ++ c :: after := by
  obtain ⟨further, longer, tail⟩ | ⟨inner, longer, tail⟩ := List.append_eq_append_iff.mp same
  · exact .inr ⟨further, longer, tail⟩
  · cases inner with
    | nil => exact .inr ⟨[], by simpa using longer.symm, by simpa using tail.symm⟩
    | cons d inner =>
      obtain ⟨rfl, _⟩ := List.cons.inj tail
      exact .inl ⟨inner, longer⟩

theorem holds_solid (cuts : Cuts position cs found) (before after : List Char) (c : Char)
    (place : cs = before ++ c :: after) (inner : isBlank c = false) :
    ∃ piece ∈ found, piece.start ≤ position + byteSize before ∧
      position + byteSize before + c.utf8Size ≤ piece.stop := by
  induction cuts generalizing before with
  | nil => simp at place
  | @blank position d rest found white _ ih =>
    cases before with
    | nil =>
      obtain ⟨rfl, _⟩ := List.cons.inj place
      simp [white] at inner
    | cons e before =>
      obtain ⟨rfl, tail⟩ := List.cons.inj place
      simpa [Nat.add_assoc] using ih before tail
  | @piece position word rest found _ _ _ ih =>
    obtain ⟨more, rfl⟩ | ⟨further, rfl, tail⟩ := place_cases place
    · refine ⟨_, List.mem_cons_self, Nat.le_add_right _ _, ?_⟩
      simp only [byteSize_append, byteSize_cons]
      omega
    · obtain ⟨piece, present, holds⟩ := ih further tail
      rw [byteSize_append, ← Nat.add_assoc]
      exact ⟨piece, List.mem_cons_of_mem _ present, holds⟩

theorem misses_blank (cuts : Cuts position cs found) (before after : List Char) (c : Char)
    (place : cs = before ++ c :: after) (white : isBlank c = true) :
    ∀ piece ∈ found, position + byteSize before + c.utf8Size ≤ piece.start ∨
      piece.stop ≤ position + byteSize before := by
  induction cuts generalizing before with
  | nil => simp
  | @blank position d rest found _ later ih =>
    cases before with
    | nil =>
      obtain ⟨rfl, _⟩ := List.cons.inj place
      exact fun piece present => .inl (later.le_start piece present)
    | cons e before =>
      obtain ⟨rfl, tail⟩ := List.cons.inj place
      simpa [Nat.add_assoc] using ih before tail
  | @piece position word rest found _ solid _ ih =>
    obtain ⟨more, rfl⟩ | ⟨further, rfl, tail⟩ := place_cases place
    · simp [solid c (by simp)] at white
    · rw [byteSize_append, ← Nat.add_assoc]
      exact List.forall_mem_cons.mpr ⟨.inr (Nat.le_add_right _ _), ih further tail⟩

end Cuts

-- Tokens of a text.

def toPiece (token : Token) : Piece := ⟨token.orth.toList, token.start, token.stop⟩

theorem number_toPiece (found : List Piece) : (number found).map toPiece = found := by
  apply List.ext_getElem <;> simp [number, toPiece, Piece.toToken]

theorem number_index (found : List Piece) :
    (number found).map Token.index = List.range (number found).length := by
  apply List.ext_getElem <;> simp [number, Piece.toToken]

theorem number_isEmpty (found : List Piece) : (number found).isEmpty = found.isEmpty := by
  cases found <;> simp [number]

theorem tokenizeSegments_cuts (offset : Nat) (segments : List (List Char)) :
    Cuts offset segments.flatten ((tokenizeSegments offset segments).flatten.map toPiece) := by
  induction segments generalizing offset with
  | nil => exact .nil offset
  | cons segment rest ih =>
    have here := (pieces_cuts segment).shift offset
    rw [Nat.zero_add] at here
    have joined := here.append (ih (offset + byteSize segment))
    simp only [tokenizeSegments, List.flatten_cons, number_isEmpty]
    split
    next empty => simpa [List.isEmpty_iff.mp empty] using joined
    next => simpa [number_toPiece] using joined

theorem mem_tokenizeSegments (offset : Nat) (segments : List (List Char)) :
    ∀ tokens ∈ tokenizeSegments offset segments,
      tokens ≠ [] ∧ tokens.map Token.index = List.range tokens.length := by
  induction segments generalizing offset with
  | nil => simp [tokenizeSegments]
  | cons segment rest ih =>
    simp only [tokenizeSegments]
    split
    next => exact ih _
    next filled =>
      exact List.forall_mem_cons.mpr ⟨⟨by simpa using filled, number_index _⟩, ih _⟩

/-- The tokens stand one after the other in the text, each at its byte range, and have all of its
characters but the blanks. -/
structure CutFrom (text : String) (tokens : List Token) : Prop where
  filled : ∀ token ∈ tokens, token.start < token.stop
  stands : ∀ token ∈ tokens, ∃ before after, text = before ++ token.orth ++ after ∧
    before.utf8ByteSize = token.start ∧ (before ++ token.orth).utf8ByteSize = token.stop
  ordered : tokens.Pairwise fun a b => a.stop ≤ b.start
  solid : ∀ before c after, text = before ++ String.singleton c ++ after →
    Text.isBlank c = false → ∃! token, token ∈ tokens ∧ token.start ≤ before.utf8ByteSize ∧
      before.utf8ByteSize + c.utf8Size ≤ token.stop
  blank : ∀ before c after, text = before ++ String.singleton c ++ after →
    Text.isBlank c = true → ∀ token ∈ tokens,
      before.utf8ByteSize + c.utf8Size ≤ token.start ∨ token.stop ≤ before.utf8ByteSize

theorem byteSize_toList (s : String) : byteSize s.toList = s.utf8ByteSize := by
  rw [← utf8ByteSize_ofList, String.ofList_toList]

theorem cutFrom_of_cuts (text : String) (tokens : List Token)
    (cuts : Cuts 0 text.toList (tokens.map toPiece)) : CutFrom text tokens := by
  have stands (token : Token) (present : token ∈ tokens) :=
    cuts.stands token.toPiece (List.mem_map_of_mem present)
  have ordered : tokens.Pairwise fun a b => a.stop ≤ b.start :=
    List.pairwise_map.mp cuts.ordered
  have places (before after : String) (c : Char)
      (place : text = before ++ String.singleton c ++ after) :
      text.toList = before.toList ++ c :: after.toList := by
    simp [place]
  constructor
  next =>
    intro token present
    obtain ⟨filled, before, _, _, start, stop⟩ := stands token present
    have wide := byteSize_pos _ filled
    simp only [toPiece, byteSize_append] at start stop wide
    omega
  next =>
    intro token present
    obtain ⟨_, before, after, split, start, stop⟩ := stands token present
    refine ⟨String.ofList before, String.ofList after, ?_, ?_, ?_⟩
    · rw [← String.toList_inj, split]
      simp [toPiece]
    · simpa [toPiece, utf8ByteSize_ofList] using start.symm
    · rw [← byteSize_toList]
      simpa [toPiece] using stop.symm
  next => exact ordered
  next =>
    intro before c after place inner
    have wide := c.utf8Size_pos
    obtain ⟨piece, listed, holds⟩ :=
      cuts.holds_solid _ _ c (places before after c place) inner
    obtain ⟨token, present, rfl⟩ := List.mem_map.mp listed
    simp only [toPiece, byteSize_toList, Nat.zero_add] at holds
    refine ⟨token, ⟨present, holds⟩, ?_⟩
    rintro other ⟨here, first, last⟩
    rcases eq_or_related ordered here present with same | before | after
    · exact same
    · omega
    · omega
  next =>
    intro before c after place white token present
    have missed := cuts.misses_blank _ _ c (places before after c place) white token.toPiece
      (List.mem_map_of_mem present)
    simpa [toPiece, byteSize_toList] using missed

/-- The tokens of a text are numbered, and what they leave out of the text are its blanks. -/
theorem tokenize_cuts_text (text : String) :
    (tokenize text).map Token.index = List.range (tokenize text).length ∧
      CutFrom text (tokenize text) := by
  refine ⟨number_index _, cutFrom_of_cuts text _ ?_⟩
  rw [tokenize, number_toPiece]
  exact pieces_cuts text.toList

end Token

end SpanAnnotation
