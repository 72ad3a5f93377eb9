import SpanAnnotation.Proofs.CoveredRuns

/-!
Labels of several categories side by side. A label names its category after the first hyphen, so
that it counts for that category and for no other, and tags that were written for spans of different
categories come back for each of them.
-/

set_option autoImplicit false

namespace SpanAnnotation.Bio

-- One label.

theorem ofLabelStart_eq_some_iff (cs : List Char) (tag : Tag) :
    Tag.ofLabelStart cs = some tag ↔ cs = tag.label.toList := by
  constructor
  next =>
    intro read
    unfold Tag.ofLabelStart at read
    split at read <;> cases read <;> rfl
  next =>
    rintro rfl
    cases tag <;> rfl

theorem eq_of_afterHyphen (cs rest : List Char) (found : afterHyphen cs = some rest) :
    cs = cs.takeWhile (· != '-') ++ '-' :: rest := by
  induction cs with
  | nil => simp [afterHyphen] at found
  | cons c cs ih =>
    simp only [afterHyphen, beq_iff_eq] at found
    split at found
    next hyphen => simpa [hyphen] using found
    next other => simpa [other] using ih found

theorem takeWhile_append_hyphen (start rest : List Char) (free : '-' ∉ start) :
    (start ++ '-' :: rest).takeWhile (· != '-') = start := by
  rw [List.takeWhile_append_of_pos]
  next => simp
  next =>
    intro c present
    simpa using fun same : c = '-' => free (same ▸ present)

theorem afterHyphen_append (start rest : List Char) (free : '-' ∉ start) :
    afterHyphen (start ++ '-' :: rest) = some rest := by
  induction start with
  | nil => simp [afterHyphen]
  | cons c start ih =>
    simp only [List.mem_cons, not_or] at free
    simp [afterHyphen, Ne.symm free.1, ih free.2]

/-- The label of a tag for a category. -/
def labelFor (category : String) (tag : Tag) : String := tag.label ++ "-" ++ category

theorem labelFor_toList (category : String) (tag : Tag) :
    (labelFor category tag).toList = tag.label.toList ++ '-' :: category.toList := by
  simp [labelFor]

theorem hyphen_not_mem_label (tag : Tag) : '-' ∉ tag.label.toList := by
  cases tag <;> decide

theorem tagFor_labelFor (category other : String) (tag : Tag) :
    tagFor category (labelFor other tag) = if other = category then tag else .outside := by
  have free := hyphen_not_mem_label tag
  have read : Tag.ofLabel? (labelFor other tag) = some tag := by
    rw [Tag.ofLabel?, labelFor_toList, takeWhile_append_hyphen _ _ free, ofLabelStart_eq_some_iff]
  simp only [tagFor, labelFor_toList, afterHyphen_append _ _ free, String.ofList_toList, read,
    beq_iff_eq, Option.getD_some]

theorem tagFor_eq_iff (category label : String) (tag : Tag) (inner : tag ≠ .outside) :
    tagFor category label = tag ↔ label = labelFor category tag := by
  constructor
  next =>
    intro read
    unfold tagFor at read
    split at read
    next => exact absurd read.symm inner
    next rest found =>
      split at read
      next same =>
        obtain rfl : String.ofList rest = category := by simpa using same
        have start : Tag.ofLabel? label = some tag := by
          cases known : Tag.ofLabel? label with
          | none => exact absurd (by simpa [known] using read.symm) inner
          | some other => simpa [known] using read
        rw [Tag.ofLabel?, ofLabelStart_eq_some_iff] at start
        rw [← String.toList_inj, labelFor_toList, String.toList_ofList, ← start]
        exact eq_of_afterHyphen label.toList rest found
      next => exact absurd read.symm inner
  next =>
    rintro rfl
    simp [tagFor_labelFor]

-- Lists of labels.

/-- The label of the token begins or continues a span of the category. -/
def Carries (labels : List String) (category : String) (token : Nat) : Prop :=
  labels[token]? = some ("B-" ++ category) ∨ labels[token]? = some ("I-" ++ category)

/-- A label that continues a span opens one where the label before does not belong to the
category. -/
def Opens (labels : List String) (category : String) (token : Nat) : Prop :=
  labels[token]? = some ("B-" ++ category) ∨
    (labels[token]? = some ("I-" ++ category) ∧
      ∀ before, before + 1 = token → ¬ Carries labels category before)

theorem tagsFor_getElem?_iff (labels : List String) (category : String) (token : Nat) (tag : Tag)
    (inner : tag ≠ .outside) :
    (labels.map (tagFor category))[token]? = some tag ↔
      labels[token]? = some (labelFor category tag) := by
  simp [tagFor_eq_iff category _ tag inner]

theorem carries_iff (labels : List String) (category : String) (token : Nat) :
    Carries labels category token ↔
      ∃ tag ≠ Tag.outside, labels[token]? = some (labelFor category tag) := by
  constructor
  next =>
    rintro (begins | continues)
    · exact ⟨.opening, by simp, begins⟩
    · exact ⟨.inside, by simp, continues⟩
  next =>
    rintro ⟨tag, inner, found⟩
    cases tag with
    | opening => exact .inl found
    | inside => exact .inr found
    | outside => exact absurd rfl inner

theorem tagged_tagsFor_iff (labels : List String) (category : String) (token : Nat) :
    Tagged (labels.map (tagFor category)) token ↔ Carries labels category token := by
  rw [carries_iff]
  constructor
  next =>
    rintro ⟨tag, found, inner⟩
    exact ⟨tag, inner, (tagsFor_getElem?_iff labels category token tag inner).mp found⟩
  next =>
    rintro ⟨tag, inner, found⟩
    exact ⟨tag, (tagsFor_getElem?_iff labels category token tag inner).mpr found, inner⟩

theorem startsAt_iff (tags : List Tag) (token : Nat) :
    StartsAt tags token ↔
      tags[token]? = some .opening ∨
        (tags[token]? = some .inside ∧ ∀ before, before + 1 = token → ¬ Tagged tags before) := by
  apply or_congr Iff.rfl
  apply and_congr_right
  intro inside
  cases token with
  | zero => simp
  | succ before =>
    have within : before < tags.length := by
      have bound := (List.getElem?_eq_some_iff.mp inside).1
      omega
    simp [Tagged, within]

theorem startsAt_tagsFor_iff (labels : List String) (category : String) (token : Nat) :
    StartsAt (labels.map (tagFor category)) token ↔ Opens labels category token := by
  simp only [startsAt_iff, tagged_tagsFor_iff]
  rw [tagsFor_getElem?_iff labels category token .opening (by simp),
    tagsFor_getElem?_iff labels category token .inside (by simp)]
  rfl

theorem eq_of_carries (labels : List String) (category other : String) (token : Nat)
    (left : Carries labels category token) (right : Carries labels other token) :
    category = other := by
  obtain ⟨tag, inner, found⟩ := (carries_iff labels category token).mp left
  obtain ⟨next, _, again⟩ := (carries_iff labels other token).mp right
  have same : labelFor category tag = labelFor other next := Option.some.inj (found.symm.trans again)
  have read := tagFor_labelFor category category tag
  rw [if_pos rfl, same, tagFor_labelFor] at read
  by_contra apart
  rw [if_neg (Ne.symm apart)] at read
  exact inner read.symm

-- Writing the labels of several categories.

/-- Spans by category, where no token has spans of two of them. -/
structure Apart (groups : List (String × List (Nat × Nat))) (size : Nat) : Prop where
  categories : groups.Pairwise fun a b => a.1 ≠ b.1
  spans : groups.Pairwise fun a b => ∀ token < size, Covers a.2 token → ¬ Covers b.2 token

def labelAt (groups : List (String × List (Nat × Nat))) (size token : Nat) : String :=
  match groups.find? fun group => Covers group.2 token with
  | none => "O"
  | some (category, spans) =>
      labelFor category ((encodeSpans spans size)[token]?.getD .outside)

/-- The label of each token: its tag in the spans that cover it, with their category. -/
def labelsOf (groups : List (String × List (Nat × Nat))) (size : Nat) : List String :=
  (List.range size).map (labelAt groups size)

variable {groups : List (String × List (Nat × Nat))} {size : Nat}

theorem Apart.eq_of_covers (apart : Apart groups size) {a b : String × List (Nat × Nat)}
    (left : a ∈ groups) (right : b ∈ groups) (token : Nat) (within : token < size)
    (leftCovers : Covers a.2 token) (rightCovers : Covers b.2 token) : a = b := by
  rcases eq_or_related apart.spans left right with same | before | after
  · exact same
  · exact absurd rightCovers (before token within leftCovers)
  · exact absurd leftCovers (after token within rightCovers)

theorem Apart.category_ne (apart : Apart groups size) {a b : String × List (Nat × Nat)}
    (left : a ∈ groups) (right : b ∈ groups) (different : a ≠ b) : a.1 ≠ b.1 := by
  rcases eq_or_related apart.categories left right with same | before | after
  · exact absurd same different
  · exact before
  · exact after.symm

theorem encodeSpans_outside (spans : List (Nat × Nat)) (small : size ≤ maxIndex) (token : Nat)
    (within : token < size) (free : ¬ Covers spans token) :
    (encodeSpans spans size)[token]? = some .outside := by
  have untagged : ¬ Tagged (encodeSpans spans size) token := by
    simp [tagged_encodeSpans_iff spans size small, free]
  simpa [Tagged, within] using untagged

theorem tagFor_labelAt (apart : Apart groups size) (small : size ≤ maxIndex)
    (group : String × List (Nat × Nat)) (listed : group ∈ groups) (token : Nat)
    (within : token < size) :
    some (tagFor group.1 (labelAt groups size token)) = (encodeSpans group.2 size)[token]? := by
  unfold labelAt
  split
  next missing =>
    have free : ¬ Covers group.2 token := by
      simpa using List.find?_eq_none.mp missing group listed
    rw [encodeSpans_outside group.2 small token within free]
    rfl
  next category spans found =>
    have present := List.mem_of_find?_eq_some found
    have covers : Covers spans token := by simpa using List.find?_some found
    rw [tagFor_labelFor]
    by_cases same : (category, spans) = group
    next =>
      subst same
      simp [within]
    next =>
      have free : ¬ Covers group.2 token := fun both =>
        same (apart.eq_of_covers present listed token within covers both)
      have other : category ≠ group.1 := apart.category_ne present listed same
      rw [if_neg other, encodeSpans_outside group.2 small token within free]

theorem tagsFor_labelsOf (apart : Apart groups size) (small : size ≤ maxIndex)
    (group : String × List (Nat × Nat)) (listed : group ∈ groups) :
    (labelsOf groups size).map (tagFor group.1) = encodeSpans group.2 size := by
  apply List.ext_getElem?
  intro token
  by_cases within : token < size
  next =>
    rw [← tagFor_labelAt apart small group listed token within]
    simp [labelsOf, within]
  next =>
    rw [List.getElem?_eq_none (by simpa [labelsOf] using within),
      List.getElem?_eq_none (by simpa using within)]

/-- The spans that are read for a category cover the tokens whose labels belong to it, one starting
at each label that opens one, and never a token of another category. What was written for several
categories that share no token comes back for each of them as the runs of its tokens. -/
theorem decodeLabelsFor_separates_categories (labels : List String) :
    (∀ category token,
      Covers (decodeLabelsFor labels category) token ↔ Carries labels category token) ∧
      (∀ category token, (∃ span ∈ decodeLabelsFor labels category, span.1 = token) ↔
        Opens labels category token) ∧
      (∀ category, (∀ span ∈ decodeLabelsFor labels category,
          span.1 ≤ span.2 ∧ span.2 < labels.length) ∧
        (decodeLabelsFor labels category).Pairwise fun a b => a.2 < b.1) ∧
      (∀ category other token, category ≠ other →
        Covers (decodeLabelsFor labels category) token →
          ¬ Covers (decodeLabelsFor labels other) token) ∧
      ∀ groups size, Apart groups size → size ≤ maxIndex → ∀ group ∈ groups,
        AreRuns (Covers group.2) size (decodeLabelsFor (labelsOf groups size) group.1) := by
  have covers (category : String) (token : Nat) :
      Covers (decodeLabelsFor labels category) token ↔ Carries labels category token := by
    rw [decodeLabelsFor, covers_decode_iff, tagged_tagsFor_iff]
  refine ⟨covers, ?_, ?_, ?_, ?_⟩
  · intro category token
    rw [decodeLabelsFor, starts_decode_iff, startsAt_tagsFor_iff]
  · intro category
    refine ⟨fun span present => ⟨decode_upright _ span present, ?_⟩, decode_ordered _⟩
    simpa using decode_inside _ span present
  · intro category other token different here there
    exact different
      (eq_of_carries labels category other token ((covers _ _).mp here) ((covers _ _).mp there))
  · intro groups size apart small group listed
    rw [decodeLabelsFor, tagsFor_labelsOf apart small group listed]
    exact decode_encodeSpans_areRuns group.2 size small

/-- One category has a hyphen in its name, and one has no name. -/
theorem decodeLabelsFor_separates_hyphenated :
    Apart [("A-B", [(3, 3), (0, 1)]), ("", [(2, 2)])] 5 ∧ 5 ≤ maxIndex ∧
      labelsOf [("A-B", [(3, 3), (0, 1)]), ("", [(2, 2)])] 5 =
        ["B-A-B", "I-A-B", "B-", "B-A-B", "O"] ∧
      AreRuns (Covers [(3, 3), (0, 1)]) 5
        (decodeLabelsFor ["B-A-B", "I-A-B", "B-", "B-A-B", "O"] "A-B") := by
  have apart : Apart [("A-B", [(3, 3), (0, 1)]), ("", [(2, 2)])] 5 := ⟨by decide, by decide⟩
  have small : 5 ≤ maxIndex := by decide
  have written : labelsOf [("A-B", [(3, 3), (0, 1)]), ("", [(2, 2)])] 5 =
      ["B-A-B", "I-A-B", "B-", "B-A-B", "O"] := by decide
  obtain ⟨_, _, _, _, back⟩ := decodeLabelsFor_separates_categories []
  have runs := back _ 5 apart small ("A-B", [(3, 3), (0, 1)]) (by simp)
  rw [written] at runs
  exact ⟨apart, small, written, runs⟩

end SpanAnnotation.Bio
