import Mathlib.Data.Prod.Lex
import SpanAnnotation.Proofs.History

/-!
The views of a document that list its annotations: all of them, those of one sentence, and those
that a selector accepts. All views follow one key, and no two annotations have the same. Hence the
sentences put one after the other are the whole, a selection only leaves out, and which of two
annotations stands first does not depend on the view.
-/

set_option autoImplicit false

namespace SpanAnnotation

namespace Annotation

-- What text order compares, part by part.
def textKey (a : Annotation) : ℕ ×ₗ ℕ ×ₗ ℕ ×ₗ ℕ :=
  toLex (a.sentence, toLex (a.first, toLex (a.last, a.id)))

theorem precedes_iff_textKey_lt (a b : Annotation) :
    a.precedes b = true ↔ a.textKey < b.textKey := by
  simp only [precedes_iff, textKey, Prod.Lex.toLex_lt_toLex]

theorem id_eq_of_textKey_eq {a b : Annotation} (same : a.textKey = b.textKey) : a.id = b.id := by
  simp only [textKey, EmbeddingLike.apply_eq_iff_eq, Prod.mk.injEq] at same
  exact same.2.2.2

-- Lists in text order.

namespace Ordered

variable {list : List Annotation}

theorem nodup (ordered : Ordered list) : list.Nodup := by
  apply List.Pairwise.imp _ ordered
  intro a b before same
  simp [same, precedes_irrefl] at before

theorem eq_of_mem_iff {other : List Annotation} (ordered : Ordered list)
    (otherOrdered : Ordered other) (same : ∀ a, a ∈ list ↔ a ∈ other) : list = other := by
  apply eq_of_ordered ordered otherOrdered
  exact (List.perm_ext_iff_of_nodup ordered.nodup otherOrdered.nodup).mpr same

/-- A sublist in text order is known by its members. -/
theorem eq_filter_iff (ordered : Ordered list) (choice : Annotation → Bool)
    (chosen : List Annotation) :
    chosen = list.filter choice ↔
      chosen.Sublist list ∧ ∀ a ∈ list, a ∈ chosen ↔ choice a = true := by
  constructor
  next =>
    intro same
    simp +contextual [same, List.filter_sublist]
  next =>
    intro ⟨part, members⟩
    have chosenOrdered : Ordered chosen := List.Pairwise.sublist part ordered
    have filterOrdered : Ordered (list.filter choice) := List.Pairwise.filter choice ordered
    apply chosenOrdered.eq_of_mem_iff filterOrdered
    intro a
    rw [List.mem_filter]
    constructor
    next =>
      intro present
      have listed := part.subset present
      exact ⟨listed, (members a listed).mp present⟩
    next =>
      intro ⟨listed, accepted⟩
      exact (members a listed).mpr accepted

theorem pair_sublist_iff (ordered : Ordered list) {a b : Annotation} (left : a ∈ list)
    (right : b ∈ list) : [a, b].Sublist list ↔ a.precedes b = true := by
  constructor
  next => exact List.pairwise_iff_forall_sublist.mp ordered
  next =>
    intro before
    obtain ⟨front, back, rfl⟩ := List.append_of_mem left
    obtain ⟨_, _, frontBefore⟩ := List.pairwise_append.mp ordered
    have notEarlier : b ∉ front := by
      intro early
      have after := frontBefore b early a List.mem_cons_self
      simp [precedes_asymm before] at after
    have different : b ≠ a := by
      intro same
      simp [same, precedes_irrefl] at before
    have later : b ∈ back := by simpa [notEarlier, different] using right
    have behind : [a, b].Sublist (a :: back) := (List.singleton_sublist.mpr later).cons_cons a
    exact behind.trans (List.sublist_append_right front _)

end Ordered

end Annotation

/-- On the annotations of an arena text order is the order of the keys. -/
def Arena.textKeys (arena : Arena) :
    (fun a b : { a // a ∈ arena.entries } => a.1.precedes b.1 = true) ↪r
      (fun one other : ℕ ×ₗ ℕ ×ₗ ℕ ×ₗ ℕ => one < other) where
  toFun a := a.1.textKey
  inj' a b same := by
    have identity : a.1.id = b.1.id := Annotation.id_eq_of_textKey_eq same
    exact Subtype.ext (arena.eq_of_id_eq a.2 b.2 identity)
  map_rel_iff' {a b} := (a.1.precedes_iff_textKey_lt b.1).symm

namespace Document

variable (document : Document)

inductive IsView : List Annotation → Prop where
  | whole : IsView document.annotationsInOrder
  | sentence (place : Nat) : IsView (document.annotationsIn place)
  | selection (selector : MentionSelector) : IsView (selector.select document)

theorem annotationsIn_eq_filter (place : Nat) :
    document.annotationsIn place =
      document.annotationsInOrder.filter fun a => a.sentence == place := by
  have kept : Annotation.Ordered (document.annotationsInOrder.filter fun a => a.sentence == place) :=
    List.Pairwise.filter _ document.annotationsInOrder_ordered
  apply (document.annotationsIn_ordered place).eq_of_mem_iff kept
  simp [mem_annotationsIn, mem_annotationsInOrder]

theorem IsView.sublist {document : Document} {view : List Annotation}
    (shown : document.IsView view) : view.Sublist document.annotationsInOrder := by
  cases shown with
  | whole => exact List.Sublist.refl _
  | sentence place =>
    rw [annotationsIn_eq_filter]
    exact List.filter_sublist
  | selection selector => exact List.filter_sublist

theorem IsView.ordered {document : Document} {view : List Annotation}
    (shown : document.IsView view) : Annotation.Ordered view :=
  List.Pairwise.sublist shown.sublist document.annotationsInOrder_ordered

theorem sentences_ordered (count : Nat) :
    Annotation.Ordered ((List.range count).flatMap document.annotationsIn) := by
  apply List.pairwise_flatMap.mpr
  constructor
  next => exact fun place _ => document.annotationsIn_ordered place
  next =>
    apply List.pairwise_lt_range.imp
    intro place later earlier a here b there
    rw [mem_annotationsIn] at here there
    rw [a.precedes_iff]
    omega

/-- No annotation stands in a sentence beyond the last. -/
theorem annotationsInOrder_eq_flatMap (sound : document.Sound) :
    document.annotationsInOrder =
      (List.range document.sentences.length).flatMap document.annotationsIn := by
  apply document.annotationsInOrder_ordered.eq_of_mem_iff (document.sentences_ordered _)
  intro a
  simp only [mem_annotationsInOrder, List.mem_flatMap, List.mem_range, mem_annotationsIn]
  constructor
  next =>
    intro present
    exact ⟨a.sentence, sound.sentence_lt a present, present, rfl⟩
  next =>
    intro ⟨_, _, present, _⟩
    exact present

structure InTextOrder : Prop where
  total : IsStrictTotalOrder { a // a ∈ document.annotations.entries }
    fun a b => a.1.precedes b.1 = true
  once : ∀ a, document.annotationsInOrder.count a =
    if a ∈ document.annotations.entries then 1 else 0
  increasing : document.annotationsInOrder.Pairwise fun a b => a.precedes b = true
  sentences : document.annotationsInOrder =
    (List.range document.sentences.length).flatMap document.annotationsIn
  -- What a selector selects is the only sublist with these members.
  selected : ∀ (selector : MentionSelector) (chosen : List Annotation),
    chosen = selector.select document ↔
      chosen.Sublist document.annotationsInOrder ∧ ∀ a ∈ document.annotationsInOrder,
        a ∈ chosen ↔ ∃ pattern ∈ selector.patterns, pattern.isMatch a.category = true
  shown : ∀ view, document.IsView view → ∀ a ∈ view, ∀ b ∈ view,
    [a, b].Sublist view ↔ a.precedes b = true

theorem Sound.inTextOrder {document : Document} (sound : document.Sound) :
    document.InTextOrder where
  total := document.annotations.textKeys.isStrictTotalOrder
  once a := by
    have distinct := document.annotationsInOrder_ordered.nodup
    simp only [distinct.count, mem_annotationsInOrder]
  increasing := document.annotationsInOrder_ordered
  sentences := document.annotationsInOrder_eq_flatMap sound
  selected selector chosen := by
    have accepts (a : Annotation) : selector.accepts a.category = true ↔
        ∃ pattern ∈ selector.patterns, pattern.isMatch a.category = true := List.any_eq_true
    simp only [← accepts]
    exact document.annotationsInOrder_ordered.eq_filter_iff _ chosen
  shown _ shown _ left _ right := shown.ordered.pair_sublist_iff left right

/-- All views of a valid document show one strict total order, and so do those of whatever becomes
of the document. -/
theorem views_share_text_order (valid : document.validate = .ok ()) :
    document.InTextOrder ∧
      ∀ operations, document.HasRoom operations →
        ∀ state ∈ document.history operations, state.InTextOrder := by
  have sound := document.validate_eq_ok_iff.mp valid
  refine ⟨sound.inTextOrder, ?_⟩
  intro operations _ state present
  obtain ⟨_, _, evolves⟩ := document.history_evolves sound operations state present
  exact evolves.sound.inTextOrder

-- Only identities tell the twins apart. The second sentence is empty, and the third has no
-- annotations.
def twinSpans : Document :=
  { ofSentences "d" ([["Jan", "Nowak"], [], ["w", "Sączu"], ["Ana"]].map fun orths =>
      ⟨"s", orths.map fun orth => Token.ofOrth orth 0, .empty orths.length⟩) with
    annotations := ⟨[⟨0, 3, 0, 0, "PERSON", none, 0, ""⟩, ⟨1, 0, 0, 1, "PERSON", none, 0, ""⟩,
      ⟨2, 0, 0, 1, "PERSON", none, 0, ""⟩, ⟨3, 0, 0, 0, "PERSON", none, 0, ""⟩], by decide⟩
    nextId := 4 }

def removeTwinAddPlace : List Operation := [.remove 1, .add 2 (.plain 1 1 "PLACE") "hand"]

theorem twinSpans_share_text_order :
    twinSpans.validate = .ok () ∧
      (twinSpans.history removeTwinAddPlace).map (fun state =>
        state.annotationsInOrder.map Annotation.id) = [[3, 1, 2, 0], [3, 2, 0], [3, 2, 4, 0]] ∧
      twinSpans.InTextOrder ∧
      ∀ state ∈ twinSpans.history removeTwinAddPlace, state.InTextOrder := by
  have valid : twinSpans.validate = .ok () := by decide
  have room : twinSpans.HasRoom removeTwinAddPlace := by decide +kernel
  obtain ⟨first, later⟩ := twinSpans.views_share_text_order valid
  exact ⟨valid, by decide +kernel, first, later removeTwinAddPlace room⟩

end Document

end SpanAnnotation
