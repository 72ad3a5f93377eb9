import SpanAnnotation.Proofs.Evolution

/-!
What a chunker adds to a document: its proposals in the order of the sentences, as annotations with
the identities that follow each other from the counter on. A chunker whose proposals are not refused
adds all of them; otherwise some of them, from the first on, are added before the refusal.
-/

set_option autoImplicit false

namespace SpanAnnotation

/-- Annotations made of placed proposals, with identities from the given one on. -/
def numbered (source : String) (next : Nat) : List (Nat × Proposal) → List Annotation
  | [] => []
  | (sentence, proposal) :: rest =>
      .ofProposal next sentence source proposal :: numbered source (next + 1) rest

@[simp] theorem numbered_length (source : String) (next : Nat) (placed : List (Nat × Proposal)) :
    (numbered source next placed).length = placed.length := by
  induction placed generalizing next with
  | nil => rfl
  | cons entry rest ih => simp [numbered, ih]

theorem numbered_ids (source : String) (next : Nat) (placed : List (Nat × Proposal)) :
    (numbered source next placed).map Annotation.id = List.range' next placed.length := by
  induction placed generalizing next with
  | nil => rfl
  | cons entry rest ih => simp [numbered, ih, List.range'_succ, Annotation.ofProposal]

theorem numbered_sentences (source : String) (next : Nat) (placed : List (Nat × Proposal)) :
    (numbered source next placed).map Annotation.sentence = placed.map Prod.fst := by
  induction placed generalizing next with
  | nil => rfl
  | cons entry rest ih => simp [numbered, ih, Annotation.ofProposal]

namespace Document

/-- The document with annotations put in, the counter moved on by their number. -/
def extended (document : Document) (added : List Annotation) : Document :=
  { document with
    annotations := added.foldl Arena.insert document.annotations
    nextId := document.nextId + added.length }

@[simp] theorem extended_nil (document : Document) : document.extended [] = document := rfl

theorem extended_append (document : Document) (first second : List Annotation) :
    (document.extended first).extended second = document.extended (first ++ second) := by
  simp [extended, Nat.add_assoc]

theorem extended_entries (document : Document) (added : List Annotation)
    (increasing : (document.annotations.entries ++ added).Pairwise fun a b => a.id < b.id) :
    (document.extended added).annotations.entries = document.annotations.entries ++ added := by
  induction added generalizing document with
  | nil => simp
  | cons a rest ih =>
    have below : ∀ b ∈ document.annotations.entries, b.id < a.id := fun b present =>
      (List.pairwise_append.mp increasing).2.2 b present a (by simp)
    have single : (document.extended [a]).annotations.entries =
        document.annotations.entries ++ [a] := document.annotations.entries_insert_last a below
    have step := ih (document.extended [a]) (by simpa [single] using increasing)
    rw [extended_append, single, List.append_assoc] at step
    exact step

-- The document takes the proposal as one of its annotations.
def Accepts (document : Document) (source : String) (entry : Nat × Proposal) : Prop :=
  ∃ longer id, document.add entry.1 entry.2 source = .ok (longer, id)

/-- Whether a proposal is taken does not depend on the annotations, and on the identities only in
that one of them has to be left. -/
theorem accepts_iff (document : Document) (source : String) (entry : Nat × Proposal) (id : Nat) :
    document.Accepts source entry ↔
      Annotation.Fits document.sizes (.ofProposal id entry.1 source entry.2) ∧
        document.nextId < maxIndex := by
  simp only [Accepts, add_eq_ok_iff, exists_and_left, exists_eq, and_true]
  refine and_congr_left fun _ => ?_
  constructor
  next => exact fun fits => ⟨fits.inside, fits.upright, fits.head, fits.category⟩
  next => exact fun fits => ⟨fits.inside, fits.upright, fits.head, fits.category⟩

/-- What the document takes later it takes now. -/
theorem accepts_of_later (document later : Document)
    (same : later.sentences = document.sentences) (before : document.nextId ≤ later.nextId)
    (source : String) (entry : Nat × Proposal) (accepted : later.Accepts source entry) :
    document.Accepts source entry := by
  obtain ⟨fits, room⟩ := (later.accepts_iff source entry 0).mp accepted
  rw [sizes, same] at fits
  exact (document.accepts_iff source entry 0).mpr ⟨fits, Nat.lt_of_le_of_lt before room⟩

theorem addPlaced_accepts (document final : Document) (source : String)
    (placed : List (Nat × Proposal)) (ids : List Nat)
    (run : document.addPlaced source placed = (final, ids, .ok ())) :
    ids.length = placed.length ∧ final.sentences = document.sentences ∧
      ∀ entry ∈ placed, document.Accepts source entry := by
  induction placed generalizing document ids with
  | nil =>
    cases run
    exact ⟨rfl, rfl, by simp⟩
  | cons entry rest ih =>
    obtain ⟨longer, id, others, added, later, rfl⟩ :=
      document.addPlaced_cons_succeeded source entry rest final ids run
    have effect := ((document.add_eq_ok_iff longer _ id _ source).mp added).2.2.1
    have step : longer.sentences = document.sentences := by rw [effect]
    have before : document.nextId ≤ longer.nextId := by
      rw [effect]
      exact Nat.le_succ _
    obtain ⟨counted, kept, accepted⟩ := ih longer others later
    refine ⟨by rw [List.length_cons, counted, List.length_cons], kept.trans step, ?_⟩
    refine List.forall_mem_cons.mpr ⟨⟨longer, id, added⟩, fun other present => ?_⟩
    exact document.accepts_of_later longer step before source other (accepted other present)

/-- Additions that all succeed find an identity each. -/
theorem addPlaced_room (document final : Document) (source : String) (placed : List (Nat × Proposal))
    (ids : List Nat) (run : document.addPlaced source placed = (final, ids, .ok ()))
    (counter : document.nextId ≤ maxIndex) : document.nextId + placed.length ≤ maxIndex := by
  induction placed generalizing document ids with
  | nil => exact counter
  | cons entry rest ih =>
    obtain ⟨longer, id, others, added, later, rfl⟩ :=
      document.addPlaced_cons_succeeded source entry rest final ids run
    obtain ⟨_, room, effect, _⟩ := (document.add_eq_ok_iff longer _ id _ source).mp added
    have moved : longer.nextId = document.nextId + 1 := by rw [effect]
    have step := ih longer others later (by rw [moved]; exact room)
    rw [moved] at step
    rw [List.length_cons]
    omega

/-- Additions that end early have used fewer identities than there are proposals. -/
theorem addPlaced_short (document : Document) (source : String) (placed : List (Nat × Proposal))
    (e : Error) (failed : (document.addPlaced source placed).2.2 = .error e) :
    (document.addPlaced source placed).2.1.length < placed.length := by
  obtain ⟨final, ids, whole⟩ | ⟨before, entry, after, partway, ids, other, rfl, run, _, whole⟩ :=
    document.addPlaced_cases source placed
  next => simp [whole] at failed
  next =>
    rw [whole]
    simp [(document.addPlaced_accepts partway source before ids run).1]

theorem add_eq_extended (document longer : Document) (sentence id : Nat) (proposal : Proposal)
    (source : String)
    (added : document.add sentence proposal source = .ok (longer, id)) :
    longer = document.extended [document.proposed sentence proposal source] ∧
      id = document.nextId := by
  obtain ⟨_, _, rfl, rfl⟩ := (document.add_eq_ok_iff longer sentence id proposal source).mp added
  exact ⟨rfl, rfl⟩

theorem addPlaced_succeeded (document final : Document) (source : String)
    (placed : List (Nat × Proposal)) (ids : List Nat)
    (run : document.addPlaced source placed = (final, ids, .ok ())) :
    final = document.extended (numbered source document.nextId placed) ∧
      ids = List.range' document.nextId placed.length := by
  induction placed generalizing document ids with
  | nil =>
    cases run
    exact ⟨rfl, rfl⟩
  | cons entry rest ih =>
    obtain ⟨longer, id, others, added, later, rfl⟩ :=
      document.addPlaced_cons_succeeded source entry rest final ids run
    obtain ⟨step, rfl⟩ :=
      document.add_eq_extended longer entry.1 id entry.2 source added
    have counter : longer.nextId = document.nextId + 1 := by rw [step]; rfl
    obtain ⟨effect, named⟩ := ih longer others later
    rw [effect, named, counter, step, extended_append, List.length_cons, List.range'_succ]
    exact ⟨rfl, rfl⟩

/-- The annotations that a chunker adds when none of its proposals is refused. -/
def chunked (document : Document) (chunker : Chunker) : List Annotation :=
  numbered chunker.name document.nextId (chunker.placed 0 document.sentences)

theorem chunked_ordered (document : Document) (chunker : Chunker) :
    (document.chunked chunker).Pairwise fun a b => a.sentence ≤ b.sentence := by
  rw [← List.pairwise_map (R := fun x y => x ≤ y), chunked, numbered_sentences, List.pairwise_map]
  exact (chunker.placed_ordered 0 document.sentences).1

theorem exists_chunked_iff (document : Document) (chunker : Chunker) (place : Nat) :
    (∃ a ∈ document.chunked chunker, a.sentence = place) ↔
      ∃ s, document.sentences[place]? = some s ∧ chunker.propose s ≠ [] := by
  rw [← List.mem_map, chunked, numbered_sentences, List.mem_map]
  simp only [Prod.exists, chunker.mem_placed, exists_and_right, exists_eq_right]
  constructor
  · rintro ⟨proposal, s, found, proposed⟩
    exact ⟨s, found, List.ne_nil_of_mem proposed⟩
  · rintro ⟨s, found, some⟩
    obtain ⟨proposal, proposed⟩ := List.exists_mem_of_ne_nil _ some
    exact ⟨proposal, s, found, proposed⟩

theorem applyChunker_eq_extended (document final : Document) (chunker : Chunker) (ids : List Nat)
    (success : document.applyChunker chunker = (final, .ok ids)) :
    final = document.extended (document.chunked chunker) ∧
      ids = (document.chunked chunker).map Annotation.id := by
  rw [applyChunker, chunkFrom_eq_addPlaced] at success
  split at success
  next longer added run =>
    cases success
    obtain ⟨effect, named⟩ := document.addPlaced_succeeded final _ _ ids run
    rw [chunked, numbered_ids]
    exact ⟨effect, named⟩
  next => simp at success
  next => simp at success

theorem extended_numbered_entries (document : Document) (sound : document.Sound) (source : String)
    (placed : List (Nat × Proposal)) :
    (document.extended (numbered source document.nextId placed)).annotations.entries =
      document.annotations.entries ++ numbered source document.nextId placed := by
  have ids := numbered_ids source document.nextId placed
  apply extended_entries
  refine List.pairwise_append.mpr ⟨document.annotations.increasing, ?_, ?_⟩
  · rw [← List.pairwise_map, ids]
    exact List.pairwise_lt_range'
  · intro a old b new
    have issued : b.id ∈ List.range' document.nextId placed.length :=
      ids ▸ List.mem_map_of_mem new
    have before := sound.identities a old
    have after := (List.mem_range'_1.mp issued).1
    omega

end Document

end SpanAnnotation
