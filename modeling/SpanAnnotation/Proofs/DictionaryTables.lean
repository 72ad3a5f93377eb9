import SpanAnnotation.Configuration.Load
import SpanAnnotation.Proofs.ChunkerMeaning
import SpanAnnotation.Proofs.Origins

/-!
The dictionaries of a configuration that is read are tables: each category stands once, and in
order.
-/

set_option autoImplicit false

namespace SpanAnnotation

open Wire

namespace Wire

theorem putLast_keys {α : Type} (entries : List (String × α)) (key : String) (value : α) :
    (putLast entries key value).map Prod.fst =
      if key ∈ entries.map Prod.fst then entries.map Prod.fst
      else entries.map Prod.fst ++ [key] := by
  induction entries with
  | nil => rfl
  | cons entry rest ih =>
    by_cases here : entry.1 = key
    next => simp [putLast, here]
    next =>
      have other : key ≠ entry.1 := Ne.symm here
      simp only [putLast, here, beq_iff_eq, if_false, List.map_cons, ih, List.mem_cons, other,
        false_or]
      split <;> rfl

theorem readEntries_nodup {α : Type} (read : Read α) (members : Fields)
    (entries found : List (String × α)) (distinct : (entries.map Prod.fst).Nodup)
    (accepted : readEntries read entries members = .ok found) : (found.map Prod.fst).Nodup := by
  induction members generalizing entries with
  | nil =>
    cases accepted
    exact distinct
  | cons member rest ih =>
    simp only [readEntries, bind_eq_ok_iff] at accepted
    obtain ⟨value, _, accepted⟩ := accepted
    apply ih _ _ accepted
    rw [putLast_keys]
    by_cases known : member.1 ∈ entries.map Prod.fst
    next => rwa [if_pos known]
    next =>
      rw [if_neg known]
      simpa using List.nodup_append_comm.mp (List.nodup_cons.mpr ⟨known, distinct⟩)

theorem readMap_nodup {α : Type} (read : Read α) (v : Value) (found : List (String × α))
    (accepted : readMap read v = .ok found) : (found.map Prod.fst).Nodup := by
  unfold readMap at accepted
  split at accepted
  next members => exact readEntries_nodup read members [] found List.nodup_nil accepted
  next => cases accepted

theorem mem_insertEntry {α : Type} (entry other : String × α) (entries : List (String × α)) :
    other ∈ insertEntry entry entries ↔ other = entry ∨ other ∈ entries := by
  induction entries with
  | nil => simp [insertEntry]
  | cons first rest ih =>
    rw [insertEntry]
    split
    next => simp
    next => rw [List.mem_cons, ih, List.mem_cons, or_left_comm]

theorem insertEntry_increasing {α : Type} (entry : String × α) (entries : List (String × α))
    (increasing : entries.Pairwise fun a b => a.1 < b.1)
    (fresh : ∀ other ∈ entries, other.1 ≠ entry.1) :
    (insertEntry entry entries).Pairwise fun a b => a.1 < b.1 := by
  induction entries with
  | nil => simp [insertEntry]
  | cons first rest ih =>
    rw [List.pairwise_cons] at increasing
    have head := fresh first (by simp)
    rw [insertEntry]
    by_cases less : entry.1 < first.1
    next =>
      rw [if_pos less]
      exact List.pairwise_cons_cons_iff_of_trans.mpr ⟨less, List.pairwise_cons.mpr increasing⟩
    next =>
      have greater : first.1 < entry.1 := lt_of_le_of_ne (not_lt.mp less) head
      have tail := ih increasing.2 fun other present => fresh other (List.mem_cons_of_mem _ present)
      rw [if_neg less]
      refine List.pairwise_cons.mpr ⟨fun other present => ?_, tail⟩
      cases (mem_insertEntry entry other rest).mp present with
      | inl same => rwa [same]
      | inr later => exact increasing.1 other later

theorem mem_sortEntries {α : Type} (other : String × α) (entries : List (String × α)) :
    other ∈ sortEntries entries ↔ other ∈ entries := by
  induction entries with
  | nil => rfl
  | cons first rest ih =>
    have inserted := mem_insertEntry first other (sortEntries rest)
    rw [ih] at inserted
    simpa [sortEntries] using inserted

theorem sortEntries_increasing {α : Type} (entries : List (String × α))
    (distinct : (entries.map Prod.fst).Nodup) :
    (sortEntries entries).Pairwise fun a b => a.1 < b.1 := by
  induction entries with
  | nil => exact .nil
  | cons first rest ih =>
    rw [List.map_cons, List.nodup_cons] at distinct
    apply insertEntry_increasing first _ (ih distinct.2)
    intro other present same
    apply distinct.1
    rw [← same]
    exact List.mem_map_of_mem ((mem_sortEntries other rest).mp present)

end Wire

namespace ChunkerConfig

theorem kindOfValue_increasing (positions : Bool) (v : Value)
    (entries : List (String × List String)) (path : Option String) (caseSensitive : Bool)
    (accepted : kindOfValue positions v = .ok (.dictionary entries path caseSensitive)) :
    entries.Pairwise fun a b => a.1 < b.1 := by
  simp only [kindOfValue, bind_eq_ok_iff] at accepted
  obtain ⟨_, _, kind, _, accepted⟩ := accepted
  split at accepted
  next =>
    simp only [bind_eq_ok_iff] at accepted
    obtain ⟨fields, _, listed, read, _, _, _, _, same⟩ := accepted
    cases same
    apply sortEntries_increasing
    cases Fields.withDefault_eq_ok fields _ _ _ _ read with
    | inl absent => simp [absent]
    | inr given =>
      obtain ⟨v, given⟩ := given
      exact readMap_nodup _ v listed given
  next => simp [bind_eq_ok_iff, pure, Except.pure] at accepted
  next => simp [bind_eq_ok_iff, pure, Except.pure] at accepted
  next => cases accepted

end ChunkerConfig

namespace Configuration

theorem ofValue_tabled (positions : Bool) (v : Value) (config : Configuration)
    (accepted : ofValue positions v = .ok config) : config.Tabled := by
  simp only [ofValue, bind_eq_ok_iff] at accepted
  obtain ⟨fields, _, _, _, chunkers, read, _, _, _, _, _, _, same⟩ := accepted
  cases same
  intro chunker present entries path caseSensitive kind
  obtain ⟨v, given⟩ := exists_of_withDefault _ _ _ _ read chunker present
  simp only [ChunkerConfig.ofValue, bind_eq_ok_iff] at given
  obtain ⟨_, _, _, _, _, kindRead, same⟩ := given
  cases same
  dsimp only at kind
  rw [kind] at kindRead
  exact ChunkerConfig.kindOfValue_increasing positions v entries path caseSensitive kindRead

theorem ofToml_tabled (text : String) (config : Configuration) (read : ofToml text = .ok config) :
    config.Tabled := by
  simp only [ofToml, bind_eq_ok_iff] at read
  obtain ⟨parsed, decoded, _, _, same⟩ := read
  cases same
  unfold Toml.decode at decoded
  split at decoded
  next => cases decoded
  next v _ =>
    split at decoded
    next accepted =>
      cases decoded
      exact ofValue_tabled false v _ accepted
    next => cases decoded

theorem ofEnvironment_tabled (files : Files) (setting : Option String) (config : Configuration)
    (given : ofEnvironment files setting = .ok config) : config.Tabled := by
  unfold ofEnvironment load at given
  split at given
  next =>
    cases given
    simp [Tabled, standard]
  next path =>
    split at given
    next => cases given
    next contents _ => exact ofToml_tabled contents config given

end Configuration

end SpanAnnotation
