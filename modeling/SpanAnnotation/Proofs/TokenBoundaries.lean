import SpanAnnotation.Proofs.SpacedWords

/-!
Where tokens end. Whether a character lengthens the word before it depends on that word and, for a
full stop, on the next character; a word that stands alone needs no next character. So a token
between blanks is one token wherever it stands, and tokens put together one blank apart are cut into
the same tokens again. A number keeps one full stop: after it the word is no longer numeric.
-/

set_option autoImplicit false

namespace SpanAnnotation

namespace Token

open Text

-- One step of the scanner.

/-- The character joins the word before it, given what follows the character. -/
def lengthens (word : List Char) (c : Char) (after : List Char) : Bool :=
  continues word c || (c == '.' && !word.isEmpty && keepsStop word after)

theorem lengthens_congr (word : List Char) (c : Char) (after other : List Char)
    (same : startsNumeric after = startsNumeric other) :
    lengthens word c after = lengthens word c other := by
  simp only [lengthens, keepsStop, same]

theorem lengthens_of_isAlphanumeric (word : List Char) (c : Char) (after : List Char)
    (alphanumeric : isAlphanumeric c = true) : lengthens word c after = true := by
  simp [lengthens, continues, alphanumeric]

theorem isBlank_of_lengthens (word : List Char) (c : Char) (after : List Char)
    (longer : lengthens word c after = true) : isBlank c = false := by
  simp only [lengthens, Bool.or_eq_true, Bool.and_eq_true, beq_iff_eq] at longer
  rcases longer with more | stop
  · exact isBlank_of_continues word c more
  · rw [stop.1.1]
    decide

variable (position start : Nat) (word : List Char) (c : Char) (rest : List Char)

theorem scan_lengthened (longer : lengthens word c rest = true) :
    scan position start word (c :: rest) =
      scan (position + c.utf8Size) (if word.isEmpty then position else start) (word ++ [c])
        rest := by
  rw [scan]
  by_cases more : continues word c = true
  next => rw [if_pos more]
  next =>
    have stop : (c == '.' && !word.isEmpty && keepsStop word rest) = true := by
      simpa [lengthens, more] using longer
    have filled : word.isEmpty = false := by
      simp only [Bool.and_eq_true, Bool.not_eq_true'] at stop
      exact stop.1.2
    rw [if_neg more, if_pos stop, filled]
    rfl

theorem scan_blank (white : isBlank c = true) :
    scan position start word (c :: rest) = closeWord word start position ++
      scan (position + c.utf8Size) (position + c.utf8Size) [] rest := by
  have ends : lengthens word c rest = false := by
    by_contra longer
    have inner := isBlank_of_lengthens word c rest (by simpa using longer)
    simp [inner] at white
  obtain ⟨more, stop⟩ := Bool.or_eq_false_iff.mp ends
  simp [scan, more, stop, white]

theorem scan_mark (ends : lengthens word c rest = false) (inner : isBlank c = false) :
    scan position start word (c :: rest) = closeWord word start position ++
      ⟨[c], position, position + c.utf8Size⟩ ::
        scan (position + c.utf8Size) (position + c.utf8Size) [] rest := by
  obtain ⟨more, stop⟩ := Bool.or_eq_false_iff.mp ends
  simp [scan, more, stop, inner]

-- Cutting at a blank.

theorem not_isNumeric_of_isBlank (white : isBlank c = true) : isNumeric c = false := by
  by_contra numeric
  have inner := isBlank_of_isAlphanumeric c (isAlphanumeric_of_isNumeric c (by simpa using numeric))
  simp [inner] at white

theorem startsNumeric_append_blank (cs others : List Char) (white : isBlank c = true) :
    startsNumeric (cs ++ c :: others) = startsNumeric cs := by
  cases cs with
  | nil => exact not_isNumeric_of_isBlank c white
  | cons d rest => rfl

/-- What follows a blank is scanned as if nothing stood before it. -/
theorem scan_append_blank (white : isBlank c = true) (cs others : List Char) :
    scan position start word (cs ++ c :: others) =
      scan position start word cs ++
        scan (position + byteSize cs + c.utf8Size) (position + byteSize cs + c.utf8Size) []
          others := by
  induction cs generalizing position start word with
  | nil => rw [List.nil_append, scan_blank _ _ _ _ _ white]; rfl
  | cons d rest ih =>
    have same := lengthens_congr word d _ _ (startsNumeric_append_blank c rest others white)
    rw [List.cons_append, byteSize_cons, ← Nat.add_assoc]
    by_cases longer : lengthens word d rest = true
    next =>
      rw [scan_lengthened _ _ _ _ _ longer, scan_lengthened _ _ _ _ _ (same.trans longer), ih]
    next =>
      have ends : lengthens word d rest = false := by simpa using longer
      by_cases blank : isBlank d = true
      next =>
        rw [scan_blank _ _ _ _ _ blank, scan_blank _ _ _ _ _ blank, ih, List.append_assoc]
      next =>
        have inner : isBlank d = false := by simpa using blank
        rw [scan_mark _ _ _ _ _ ends inner, scan_mark _ _ _ _ _ (same.trans ends) inner, ih,
          List.append_assoc, List.cons_append]

-- Words that were taken whole.

/-- The scanner took the word character by character, and this is what follows. -/
inductive Grown : List Char → List Char → Prop
  | nil (after : List Char) : Grown [] after
  | push {word after : List Char} {c : Char} :
      Grown word (c :: after) → lengthens word c after = true → Grown (word ++ [c]) after

theorem Grown.congr {word after : List Char} (grown : Grown word after) (other : List Char)
    (same : startsNumeric after = startsNumeric other) : Grown word other := by
  induction grown generalizing other with
  | nil => exact .nil other
  | push _ longer ih =>
    exact .push (ih _ rfl) ((lengthens_congr _ _ _ _ same).symm.trans longer)

theorem Grown.scan_eq {word after : List Char} (grown : Grown word after) :
    scan position start [] (word ++ after) =
      scan (position + byteSize word) (if word.isEmpty then start else position) word after := by
  induction grown with
  | nil => rfl
  | @push word after c _ longer ih =>
    rw [List.append_assoc, List.singleton_append, ih, scan_lengthened _ _ _ _ _ longer,
      byteSize_append, byteSize_cons, byteSize_nil, Nat.add_zero, Nat.add_assoc]
    cases word <;> simp

theorem Grown.pieces_eq {word : List Char} (grown : Grown word []) (filled : word ≠ []) :
    pieces word = [⟨word, 0, byteSize word⟩] := by
  have taken := grown.scan_eq 0 0
  rw [List.append_nil, Nat.zero_add, ite_self] at taken
  rw [pieces, taken, scan, closeWord, if_neg (by simpa using filled)]

theorem pieces_mark (ends : isAlphanumeric c = false) (inner : isBlank c = false) :
    pieces [c] = [⟨[c], 0, byteSize [c]⟩] := by
  have alone : lengthens [] c [] = false := by simp [lengthens, continues, ends]
  rw [pieces, scan_mark _ _ _ _ _ alone inner]
  simp [scan, closeWord]

theorem startsNumeric_of_not_lengthens (ends : lengthens word c rest = false) :
    startsNumeric (c :: rest) = false := by
  by_contra numeric
  have longer := lengthens_of_isAlphanumeric word c rest
    (isAlphanumeric_of_isNumeric c (by simpa [startsNumeric] using numeric))
  simp [longer] at ends

/-- The text is one piece for the scanner when nothing else is there. -/
def IsPiece (text : List Char) : Prop := pieces text = [⟨text, 0, byteSize text⟩]

theorem closeWord_isPiece (after : List Char) (grown : Grown word after)
    (last : startsNumeric after = false) :
    ∀ piece ∈ closeWord word start position, IsPiece piece.text := by
  rw [closeWord]
  split
  next => simp
  next filled =>
    have alone : Grown word [] := grown.congr [] last
    rw [List.forall_mem_singleton]
    exact alone.pieces_eq (by simpa using filled)

theorem scan_isPiece (cs : List Char) (grown : Grown word cs) :
    ∀ piece ∈ scan position start word cs, IsPiece piece.text := by
  induction cs generalizing position start word with
  | nil => exact closeWord_isPiece _ _ word [] grown rfl
  | cons c rest ih =>
    by_cases longer : lengthens word c rest = true
    next =>
      rw [scan_lengthened _ _ _ _ _ longer]
      exact ih _ _ _ (grown.push longer)
    next =>
      have ends : lengthens word c rest = false := by simpa using longer
      have closed := closeWord_isPiece position start word _ grown
        (startsNumeric_of_not_lengthens word c rest ends)
      have afresh := ih (position + c.utf8Size) (position + c.utf8Size) [] (.nil rest)
      by_cases white : isBlank c = true
      next =>
        rw [scan_blank _ _ _ _ _ white]
        exact List.forall_mem_append.mpr ⟨closed, afresh⟩
      next =>
        have inner : isBlank c = false := by simpa using white
        have single : isAlphanumeric c = false := by
          by_contra alphanumeric
          exact longer (lengthens_of_isAlphanumeric word c rest (by simpa using alphanumeric))
        rw [scan_mark _ _ _ _ _ ends inner]
        exact List.forall_mem_append.mpr
          ⟨closed, List.forall_mem_cons.mpr ⟨pieces_mark c single inner, afresh⟩⟩

-- The written forms of tokens.

theorem closeWord_texts (other first : Nat) :
    (closeWord word start position).map Piece.text =
      (closeWord word first other).map Piece.text := by
  simp only [closeWord]
  split <;> rfl

theorem scan_texts (other first : Nat) (cs : List Char) :
    (scan position start word cs).map Piece.text = (scan other first word cs).map Piece.text := by
  induction cs generalizing position start other first word with
  | nil => exact closeWord_texts position start word other first
  | cons c rest ih =>
    by_cases longer : lengthens word c rest = true
    next =>
      rw [scan_lengthened _ _ _ _ _ longer, scan_lengthened _ _ _ _ _ longer]
      exact ih _ _ _ _ _
    next =>
      have ends : lengthens word c rest = false := by simpa using longer
      have closed := closeWord_texts position start word other first
      have afresh := ih (position + c.utf8Size) (position + c.utf8Size) [] (other + c.utf8Size)
        (other + c.utf8Size)
      by_cases white : isBlank c = true
      next =>
        rw [scan_blank _ _ _ _ _ white, scan_blank _ _ _ _ _ white, List.map_append,
          List.map_append, closed, afresh]
      next =>
        have inner : isBlank c = false := by simpa using white
        rw [scan_mark _ _ _ _ _ ends inner, scan_mark _ _ _ _ _ ends inner, List.map_append,
          List.map_append, List.map_cons, List.map_cons, closed, afresh]

def textsOf (cs : List Char) : List (List Char) := (pieces cs).map Piece.text

theorem scan_textsOf (cs : List Char) :
    (scan position start [] cs).map Piece.text = textsOf cs :=
  scan_texts position start [] 0 0 cs

def orthsOf (text : String) : List String := (tokenize text).map Token.orth

theorem orthsOf_eq (text : String) :
    orthsOf text = (textsOf text.toList).map String.ofList := by
  apply List.ext_getElem <;> simp [orthsOf, textsOf, tokenize, number, Piece.toToken]

theorem tokenize_of_isPiece (text : String) (whole : IsPiece text.toList) :
    tokenize text = [⟨text, 0, text.utf8ByteSize, 0⟩] := by
  rw [tokenize, whole, byteSize_toList]
  simp [number, Piece.toToken]

theorem orthsOf_of_isPiece (text : String) (whole : IsPiece text.toList) :
    orthsOf text = [text] := by
  rw [orthsOf, tokenize_of_isPiece text whole]
  rfl

theorem isPiece_of_mem_orthsOf (text orth : String) (present : orth ∈ orthsOf text) :
    IsPiece orth.toList := by
  rw [orthsOf_eq, textsOf, List.map_map] at present
  obtain ⟨piece, listed, rfl⟩ := List.mem_map.mp present
  have whole := scan_isPiece 0 0 [] text.toList (.nil _) piece listed
  simpa using whole

theorem orthsOf_spaced (before after : String) :
    orthsOf (before ++ " " ++ after) = orthsOf before ++ orthsOf after := by
  have apart : (before ++ " " ++ after).toList = before.toList ++ ' ' :: after.toList := by simp
  have texts : textsOf (before ++ " " ++ after).toList =
      textsOf before.toList ++ textsOf after.toList := by
    rw [apart, textsOf, pieces, scan_append_blank 0 0 [] ' ' (by decide), List.map_append,
      scan_textsOf, scan_textsOf]
  rw [orthsOf_eq, texts, List.map_append, orthsOf_eq, orthsOf_eq]

theorem orthsOf_intercalate (texts : List String) :
    orthsOf (" ".intercalate texts) = texts.flatMap orthsOf := by
  induction texts with
  | nil => rfl
  | cons text rest ih =>
    cases rest with
    | nil => simp
    | cons next rest =>
      rw [String.intercalate_cons_cons, orthsOf_spaced, ih, List.flatMap_cons (x := text)]

/-- Tokens put together one blank apart are cut into the same tokens again, and each of them is one
token wherever it stands between blanks. -/
theorem tokenize_spaced_tokens (text : String) :
    orthsOf (" ".intercalate (orthsOf text)) = orthsOf text ∧
      ∀ orth ∈ orthsOf text, ∀ before after,
        orthsOf (before ++ " " ++ orth ++ " " ++ after) =
          orthsOf before ++ orth :: orthsOf after := by
  have alone (orth : String) (present : orth ∈ orthsOf text) : orthsOf orth = [orth] :=
    orthsOf_of_isPiece orth (isPiece_of_mem_orthsOf text orth present)
  constructor
  next =>
    rw [orthsOf_intercalate, List.flatMap_congr alone, List.flatMap_singleton']
  next =>
    intro orth present before after
    rw [orthsOf_spaced, orthsOf_spaced, alone orth present, List.append_assoc]
    rfl

theorem orthsOf_mark (taken more : String) (mark : Char)
    (grown : Grown taken.toList (mark :: more.toList)) (filled : taken.toList ≠ [])
    (ends : lengthens taken.toList mark more.toList = false) (inner : isBlank mark = false) :
    orthsOf (taken ++ String.singleton mark ++ more) =
      taken :: String.singleton mark :: orthsOf more := by
  have apart : (taken ++ String.singleton mark ++ more).toList =
      taken.toList ++ mark :: more.toList := by simp
  have texts : textsOf (taken ++ String.singleton mark ++ more).toList =
      taken.toList :: [mark] :: textsOf more.toList := by
    rw [apart, textsOf, pieces, grown.scan_eq, scan_mark _ _ _ _ _ ends inner, closeWord,
      if_neg (by simpa using filled), List.singleton_append, List.map_cons, List.map_cons,
      scan_textsOf]
  rw [orthsOf_eq, texts, orthsOf_eq, List.map_cons, List.map_cons, String.ofList_toList,
    String.singleton_eq_ofList]

-- Numbers with full stops.

/-- The text has numeric characters and no others. -/
structure IsNumber (text : String) : Prop where
  filled : text ≠ ""
  numeric : ∀ c ∈ text.toList, isNumeric c = true

instance (text : String) : Decidable (IsNumber text) :=
  decidable_of_iff (text ≠ "" ∧ text.toList.all isNumeric = true) <| by
    rw [List.all_eq_true]
    exact ⟨fun ⟨filled, numeric⟩ => ⟨filled, numeric⟩,
      fun number => ⟨number.filled, number.numeric⟩⟩

theorem Grown.append_numeric (cs after : List Char) (numeric : ∀ c ∈ cs, isNumeric c = true)
    (grown : Grown word (cs ++ after)) : Grown (word ++ cs) after := by
  induction cs generalizing word with
  | nil => simpa using grown
  | cons c rest ih =>
    obtain ⟨here, later⟩ := List.forall_mem_cons.mp numeric
    have longer := lengthens_of_isAlphanumeric word c (rest ++ after)
      (isAlphanumeric_of_isNumeric c here)
    simpa using ih _ later (grown.push longer)

theorem lengthens_stop (after : List Char) (filled : word ≠ [])
    (numeric : ∀ c ∈ word, isNumeric c = true) (next : startsNumeric after = true) :
    lengthens word '.' after = true := by
  have opened : word.isEmpty = false := by simpa using filled
  have all : word.all isNumeric = true := List.all_eq_true.mpr numeric
  simp [lengthens, keepsStop, opened, all, next]

theorem not_abbreviation_of_startsNumeric (numeric : startsNumeric word = true) :
    abbreviations.contains (String.ofList word) = false := by
  have letters : ∀ known ∈ abbreviations, startsNumeric known.toList = false := by decide +kernel
  by_contra listed
  have known := letters (String.ofList word) (by simpa using listed)
  simp [numeric] at known

-- A number that holds a full stop is not numeric any more.
theorem not_lengthens_of_stop (after : List Char) (numeric : startsNumeric word = true)
    (stop : '.' ∈ word) : lengthens word '.' after = false := by
  have mark : isNumeric '.' = false := by decide +kernel
  have letter : isAlphanumeric '.' = false := by decide +kernel
  have mixed : word.all isNumeric = false := List.all_eq_false.mpr ⟨'.', stop, by simp [mark]⟩
  have kept : keepsStop word after = false := by
    rw [keepsStop, not_abbreviation_of_startsNumeric word numeric, mixed]
    rfl
  simp [lengthens, continues, letter, kept]

namespace IsNumber

variable {number other : String}

theorem grown (numbered : IsNumber number) (after : List Char) : Grown number.toList after :=
  Grown.append_numeric [] number.toList after numbered.numeric (.nil _)

theorem opens (numbered : IsNumber number) : number.toList ≠ [] := by
  simpa using numbered.filled

theorem startsNumeric (numbered : IsNumber number) (after : List Char) :
    startsNumeric (number.toList ++ after) = true := by
  cases digits : number.toList with
  | nil => exact absurd digits numbered.opens
  | cons c rest => exact numbered.numeric c (by simp [digits])

theorem grown_stop (numbered : IsNumber number) (next : IsNumber other) (after : List Char) :
    Grown (number.toList ++ '.' :: other.toList) after := by
  have first := numbered.grown ('.' :: (other.toList ++ after))
  have stop := lengthens_stop number.toList (other.toList ++ after) numbered.opens
    numbered.numeric (next.startsNumeric after)
  simpa using Grown.append_numeric _ other.toList after next.numeric (first.push stop)

theorem isPiece (numbered : IsNumber number) : IsPiece number.toList :=
  (numbered.grown []).pieces_eq numbered.opens

theorem isPiece_stop (numbered : IsNumber number) (next : IsNumber other) :
    IsPiece (number ++ "." ++ other).toList := by
  have whole := (numbered.grown_stop next []).pieces_eq (by simp)
  have apart : (number ++ "." ++ other).toList = number.toList ++ '.' :: other.toList := by simp
  rw [apart]
  exact whole

theorem orthsOf_stop (numbered : IsNumber number) (next : IsNumber other) (more : String) :
    orthsOf (number ++ "." ++ other ++ "." ++ more) =
      (number ++ "." ++ other) :: "." :: orthsOf more := by
  have apart : (number ++ "." ++ other).toList = number.toList ++ '.' :: other.toList := by simp
  have grown := numbered.grown_stop next ('.' :: more.toList)
  have ends := not_lengthens_of_stop (number.toList ++ '.' :: other.toList) more.toList
    (numbered.startsNumeric _) (by simp)
  rw [← apart] at grown ends
  exact orthsOf_mark _ more '.' grown (by simp) ends (by decide)

end IsNumber

/-- The numbers taken two by two, with the full stops that are left between them. -/
def inPairs : List String → List String
  | [] => []
  | [number] => [number]
  | [number, other] => [number ++ "." ++ other]
  | number :: other :: rest => (number ++ "." ++ other) :: "." :: inPairs rest

theorem inPairs_length_le_iff (numbers : List String) :
    (inPairs numbers).length ≤ 1 ↔ numbers.length ≤ 2 := by
  fun_cases inPairs numbers with
  | case1 => simp
  | case2 => simp
  | case3 => simp
  | case4 number other rest some =>
    have long : 0 < rest.length := List.length_pos_iff.mpr some
    simp only [List.length_cons]
    omega

theorem isPiece_numbers (numbers : List String) (some : numbers ≠ [])
    (each : ∀ number ∈ numbers, IsNumber number) (short : numbers.length ≤ 2) :
    IsPiece (".".intercalate numbers).toList := by
  match numbers with
  | [] => exact absurd rfl some
  | [number] =>
    rw [String.intercalate_singleton]
    exact (each number (by simp)).isPiece
  | [number, other] =>
    rw [String.intercalate_cons_cons, String.intercalate_singleton]
    exact (each number (by simp)).isPiece_stop (each other (by simp))
  | _ :: _ :: _ :: _ => simp at short

theorem orthsOf_numbers (numbers : List String) (each : ∀ number ∈ numbers, IsNumber number) :
    orthsOf (".".intercalate numbers) = inPairs numbers := by
  fun_induction inPairs numbers with
  | case1 => rfl
  | case2 number =>
    have whole := isPiece_numbers [number] (by simp) each (by simp)
    rw [orthsOf_of_isPiece _ whole, String.intercalate_singleton]
  | case3 number other =>
    have whole := isPiece_numbers [number, other] (by simp) each (by simp)
    rw [orthsOf_of_isPiece _ whole, String.intercalate_cons_cons, String.intercalate_singleton]
  | case4 number other rest some ih =>
    have later : ∀ number ∈ rest, IsNumber number := fun number listed =>
      each number (by simp [listed])
    have joined : ".".intercalate (number :: other :: rest) =
        number ++ "." ++ other ++ "." ++ ".".intercalate rest := by
      rw [String.intercalate_cons_cons, String.intercalate_cons_of_ne_nil some]
      simp only [String.append_assoc]
    rw [joined, (each number (by simp)).orthsOf_stop (each other (by simp)), ih later]

/-- A number of one or two groups is one token; in a longer one every second full stop stands
alone. -/
theorem tokenize_number (numbers : List String) (some : numbers ≠ [])
    (each : ∀ number ∈ numbers, IsNumber number) :
    orthsOf (".".intercalate numbers) = inPairs numbers ∧
      (tokenize (".".intercalate numbers) =
          [⟨".".intercalate numbers, 0, (".".intercalate numbers).utf8ByteSize, 0⟩] ↔
        numbers.length ≤ 2) := by
  have orths := orthsOf_numbers numbers each
  refine ⟨orths, fun single => ?_, fun short => ?_⟩
  next =>
    rw [← inPairs_length_le_iff, ← orths, orthsOf, single]
    simp
  next => exact tokenize_of_isPiece _ (isPiece_numbers numbers some each short)

theorem tokenize_number_of_thousands :
    (∀ number ∈ ["12", "345"], IsNumber number) ∧
      tokenize "12.345" = [⟨"12.345", 0, 6, 0⟩] := by
  have each : ∀ number ∈ ["12", "345"], IsNumber number := by decide +kernel
  exact ⟨each, (tokenize_number ["12", "345"] (by simp) each).2.mpr (by simp)⟩

/-- A number of three groups falls apart at its second full stop. -/
theorem million_falls_apart :
    (∀ number ∈ ["1", "234", "567"], IsNumber number) ∧
      tokenize (".".intercalate ["1", "234", "567"]) =
        [⟨"1.234", 0, 5, 0⟩, ⟨".", 5, 6, 1⟩, ⟨"567", 6, 9, 2⟩] :=
  ⟨by decide +kernel, by decide +kernel⟩

end Token

end SpanAnnotation
