import Mathlib.Data.String.Basic
import SpanAnnotation.Proofs.Construction
import SpanAnnotation.Proofs.DictionaryMatches
import SpanAnnotation.Proofs.Identity
import SpanAnnotation.Wire.Configuration

/-!
What a configuration says that its chunkers propose, read from the top down, and what the chunker
proposes that is built from it, part by part. Both are the same, whatever the order in which the
chunkers are declared.
-/

set_option autoImplicit false

namespace SpanAnnotation

namespace Configuration

-- The entries of every dictionary are a map: by category in increasing order, each category once.
-- Those of a configuration that is read always are.
def Tabled (config : Configuration) : Prop :=
  ∀ chunker ∈ config.chunkers, ∀ entries path caseSensitive,
    chunker.kind = .dictionary entries path caseSensitive → entries.Pairwise fun a b => a.1 < b.1

def byCategory (entries : List (String × List String)) : List (String × List String) :=
  entries.mergeSort fun a b => a.1 ≤ b.1

theorem byCategory_eq (entries : List (String × List String))
    (increasing : entries.Pairwise fun a b => a.1 < b.1) : byCategory entries = entries :=
  List.mergeSort_of_pairwise (increasing.imp fun less => by simpa using less.le)

/-- The proposals of a chunker for a sentence, as its declaration says. -/
inductive Means (config : Configuration) (sentence : Sentence) :
    String → List Proposal → Prop where
  | dictionary {name : String} {entries : List (String × List String)} {caseSensitive : Bool}
      (declared : ⟨name, .dictionary entries none caseSensitive⟩ ∈ config.chunkers) :
      Means config sentence name (phraseMatches caseSensitive (byCategory entries) sentence)
  -- Of proposals that occur again the first ones stay.
  | union {name : String} {members : List String} (proposed : String → List Proposal)
      (declared : ⟨name, .union members⟩ ∈ config.chunkers)
      (each : ∀ member ∈ members, Means config sentence member (proposed member)) :
      Means config sentence name (members.flatMap proposed).eraseDups
  | fix {name base : String} {fixes : List Fix} {proposals : List Proposal}
      (declared : ⟨name, .fix base fixes⟩ ∈ config.chunkers)
      (below : Means config sentence base proposals) :
      Means config sentence name
        ((proposals.filter fun proposal =>
            !proposal.isInverted && fixes.all fun fix => fix.keeps sentence proposal) ++
          proposals.filter Proposal.isInverted)

variable (config : Configuration) (files : Files)

section Unique

variable {config} (distinct : (config.chunkers.map ChunkerConfig.name).Nodup) {sentence : Sentence}

include distinct

theorem kind_eq_of_declared {name : String} {kind other : ChunkerKind}
    (declared : ⟨name, kind⟩ ∈ config.chunkers) (again : ⟨name, other⟩ ∈ config.chunkers) :
    other = kind :=
  (ChunkerConfig.mk.inj (List.inj_on_of_nodup_map distinct again declared rfl)).2

theorem Means.unique {name : String} {proposals others : List Proposal}
    (means : config.Means sentence name proposals) (again : config.Means sentence name others) :
    proposals = others := by
  induction means generalizing others with
  | dictionary declared =>
    cases again with
    | dictionary other =>
      cases kind_eq_of_declared distinct declared other
      rfl
    | union _ other _ => cases kind_eq_of_declared distinct declared other
    | fix other _ => cases kind_eq_of_declared distinct declared other
  | @union name members proposed declared each ih =>
    cases again with
    | dictionary other => cases kind_eq_of_declared distinct declared other
    | union proposed' other eachOther =>
      cases kind_eq_of_declared distinct declared other
      rw [List.flatMap_congr fun member listed => ih member listed (eachOther member listed)]
    | fix other _ => cases kind_eq_of_declared distinct declared other
  | fix declared _ ih =>
    cases again with
    | dictionary other => cases kind_eq_of_declared distinct declared other
    | union _ other _ => cases kind_eq_of_declared distinct declared other
    | fix other below =>
      cases kind_eq_of_declared distinct declared other
      rw [ih below]

end Unique

-- What is built.

/-- The chunker has the name and proposes what the name means. -/
structure Realises (name : String) (chunker : Chunker) : Prop where
  named : chunker.name = name
  meaning : ∀ sentence, config.Means sentence name (chunker.propose sentence)

variable {config}

theorem dictionary_realises (tabled : config.Tabled) (name : String)
    (entries : List (String × List String)) (caseSensitive : Bool) (dictionary : Dictionary)
    (declared : ⟨name, .dictionary entries none caseSensitive⟩ ∈ config.chunkers)
    (read : config.buildDictionary files name entries none caseSensitive = .ok dictionary) :
    config.Realises name (.ofDictionary dictionary) := by
  obtain ⟨started, start, rfl, _⟩ :=
    (config.buildDictionary_eq_ok_iff files name entries none caseSensitive dictionary).mp read
  cases start
  constructor
  next => rw [Dictionary.addEntries_eq]; rfl
  next =>
    intro sentence
    have sorted := byCategory_eq entries (tabled _ declared entries none caseSensitive rfl)
    have means : config.Means sentence name _ := .dictionary declared
    rw [sorted, ← Dictionary.propose_eq_phraseMatches name] at means
    exact means

theorem union_realises (distinct : (config.chunkers.map ChunkerConfig.name).Nodup)
    (name : String) (members : List String) (below : List Chunker)
    (declared : ⟨name, .union members⟩ ∈ config.chunkers)
    (each : List.Forall₂ config.Realises members below) :
    config.Realises name (.union name below) := by
  refine ⟨rfl, fun sentence => ?_⟩
  -- Of two parts under one name the uniqueness of meanings says that they propose the same.
  let proposed (member : String) : List Proposal := Classical.epsilon (config.Means sentence member)
  have meaning (member : String) (part : Chunker) (realises : config.Realises member part) :
      config.Means sentence member (proposed member) ∧
        proposed member = part.propose sentence := by
    have means := realises.meaning sentence
    have chosen := Classical.epsilon_spec ⟨_, means⟩
    exact ⟨chosen, Means.unique distinct chosen means⟩
  have together : below.flatMap (fun part => part.propose sentence) = members.flatMap proposed ∧
      ∀ member ∈ members, config.Means sentence member (proposed member) := by
    clear declared
    induction each with
    | nil => simp
    | @cons member part _ _ first _ ih =>
      obtain ⟨means, same⟩ := meaning member part first
      rw [List.flatMap_cons, List.flatMap_cons, ih.1, same]
      exact ⟨rfl, List.forall_mem_cons.mpr ⟨means, ih.2⟩⟩
  rw [Chunker.union_propose, together.1]
  exact .union proposed declared together.2

theorem corrected_realises (name base : String) (fixes : List Fix) (below : Chunker)
    (declared : ⟨name, .fix base fixes⟩ ∈ config.chunkers) (realises : config.Realises base below) :
    config.Realises name (.corrected name below (fixes.map Fix.stage)) := by
  refine ⟨rfl, fun sentence => ?_⟩
  have means := Means.fix declared (realises.meaning sentence)
  have passed : Chunker.runStages (fixes.map Fix.stage) sentence
      ((below.propose sentence).filter fun proposal => !proposal.isInverted) =
        (below.propose sentence).filter fun proposal =>
          !proposal.isInverted && fixes.all fun fix => fix.keeps sentence proposal := by
    rw [Chunker.runStages_fixes, List.filter_filter]
    simp only [Bool.and_comm]
  rw [Chunker.corrected]
  dsimp only
  rwa [passed]

-- The order of the declarations.

theorem find?_eq_some_iff (distinct : (config.chunkers.map ChunkerConfig.name).Nodup)
    (name : String) (chunker : ChunkerConfig) :
    config.find? name = some chunker ↔ chunker ∈ config.chunkers ∧ chunker.name = name :=
  find?_key_eq_some_iff ChunkerConfig.name config.chunkers distinct name chunker

theorem find?_shuffled (distinct : (config.chunkers.map ChunkerConfig.name).Nodup)
    (shuffled : List ChunkerConfig) (perm : shuffled.Perm config.chunkers) :
    ({ config with chunkers := shuffled } : Configuration).find? = config.find? := by
  have again : (shuffled.map ChunkerConfig.name).Nodup := (perm.map _).nodup_iff.mpr distinct
  funext name
  apply Option.ext
  intro chunker
  rw [find?_eq_some_iff distinct, find?_eq_some_iff again, perm.mem_iff]

theorem visit_congr (other : Configuration) (same : other.find? = config.find?) (fuel : Nat) :
    other.visit fuel = config.visit fuel := by
  induction fuel with
  | zero => rfl
  | succ fuel ih =>
    funext waiting order name
    rw [visit, visit, same, ih]

theorem buildChunker_shuffled (distinct : (config.chunkers.map ChunkerConfig.name).Nodup)
    (chosen : config.chunker ≠ none) (shuffled : List ChunkerConfig)
    (perm : shuffled.Perm config.chunkers) :
    ({ config with chunkers := shuffled } : Configuration).buildChunker files =
      config.buildChunker files := by
  have found := find?_shuffled distinct shuffled perm
  have order (name : String) :
      ({ config with chunkers := shuffled } : Configuration).dependencyOrder name =
        config.dependencyOrder name := by
    rw [dependencyOrder, dependencyOrder, visit_congr _ found, perm.length_eq]
  have one : ({ config with chunkers := shuffled } : Configuration).buildOne files =
      config.buildOne files := by
    funext built name
    rw [buildOne, buildOne, found]
    rfl
  have target : ({ config with chunkers := shuffled } : Configuration).target? = config.target? := by
    obtain ⟨name, given⟩ := Option.ne_none_iff_exists'.mp chosen
    simp [target?, given]
  rw [buildChunker, buildChunker, target]
  simp only [order, one]

-- The chunker of a configuration.

theorem buildChunker_realises (tabled : config.Tabled)
    (distinct : (config.chunkers.map ChunkerConfig.name).Nodup)
    (inline : ∀ chunker ∈ config.chunkers, ∀ entries path caseSensitive,
      chunker.kind = .dictionary entries path caseSensitive → path = none)
    (chunker : Chunker) (success : config.buildChunker files = .ok (some chunker)) :
    ∃ target, config.target? = some target ∧ config.Realises target chunker := by
  have declared {name : String} {kind : ChunkerKind}
      (found : config.find? name = some ⟨name, kind⟩) : ⟨name, kind⟩ ∈ config.chunkers :=
    (config.mem_chunkers_of_find? name _ found).1
  apply config.buildChunker_hands_on files (P := config.Realises) _ _ _ chunker success
  next =>
    intro name entries path caseSensitive dictionary found read
    obtain rfl := inline _ (declared found) entries path caseSensitive rfl
    exact dictionary_realises files tabled name entries caseSensitive dictionary (declared found) read
  next =>
    intro name members below found each
    exact union_realises distinct name members below (declared found) each
  next =>
    intro name base fixes below found realises
    exact corrected_realises name base fixes below (declared found) realises

theorem target?_eq_none_iff (declared : ∀ name, config.chunker = some name →
    ∃ chunker, config.find? name = some chunker) : config.target? = none ↔ config.chunkers = [] := by
  unfold target?
  cases chosen : config.chunker with
  | none => simp
  | some name =>
    obtain ⟨chunker, found⟩ := declared name chosen
    have some := List.ne_nil_of_mem (config.mem_chunkers_of_find? name chunker found).1
    simp [some]

theorem buildChunker_some (readable : config.ReadsDictionaries files) (target : String)
    (named : config.target? = some target)
    (orders : ∃ order, config.dependencyOrder target = .ok order) :
    ∃ chunker, config.buildChunker files = .ok (some chunker) := by
  obtain ⟨order, found⟩ := orders
  obtain ⟨ordered, listed⟩ := config.dependencyOrder_ordered target order found
  obtain ⟨built, made, provides⟩ := config.buildAll_succeeds files readable order ordered
  obtain ⟨chunker, there⟩ := provides target listed
  refine ⟨chunker, ?_⟩
  simp [buildChunker, named, found, made, there, bind, Except.bind, pure, Except.pure]

/-- The chunker that is built proposes what the declarations say, inside the sentences and with
declared categories; there is none only where no chunkers are declared. -/
theorem buildChunker_proposes_meaning (valid : config.validate = .ok ()) (tabled : config.Tabled)
    (inline : ∀ chunker ∈ config.chunkers, ∀ entries path caseSensitive,
      chunker.kind = .dictionary entries path caseSensitive → path = none) :
    (config.buildChunker files = .ok none ↔ config.chunkers = []) ∧
    (config.chunkers ≠ [] → ∃ target chunker, config.target? = some target ∧
      config.buildChunker files = .ok (some chunker) ∧ chunker.name = target ∧
      ∀ sentence,
        (∀ proposals, config.Means sentence target proposals ↔
          proposals = chunker.propose sentence) ∧
        ∀ proposal ∈ chunker.propose sentence, proposal.first ≤ proposal.last ∧
          proposal.last < sentence.size ∧ proposal.category ∈ config.categories) ∧
    (config.chunker ≠ none → ∀ shuffled, shuffled.Perm config.chunkers →
      ({ config with chunkers := shuffled } : Configuration).buildChunker files =
        config.buildChunker files) := by
  have accepted := config.validate_eq_ok_iff.mp valid
  have none_iff := target?_eq_none_iff accepted.target
  have builds (target : String) (named : config.target? = some target) :=
    buildChunker_some files (accepted.readsInline files inline) target named
      (accepted.targetOrder target named)
  refine ⟨?_, ?_, buildChunker_shuffled files accepted.names⟩
  next =>
    rw [← none_iff]
    constructor
    next =>
      intro absent
      cases named : config.target? with
      | none => rfl
      | some target =>
        obtain ⟨chunker, built⟩ := builds target named
        rw [built] at absent
        cases absent
    next =>
      intro unnamed
      simp only [buildChunker, unnamed]
  next =>
    intro some
    obtain ⟨target, named⟩ := Option.ne_none_iff_exists'.mp (mt none_iff.mp some)
    obtain ⟨chunker, built⟩ := builds target named
    obtain ⟨other, again, realises⟩ :=
      buildChunker_realises files tabled accepted.names inline chunker built
    obtain rfl := Option.some.inj (named.symm.trans again)
    refine ⟨target, chunker, named, built, realises.named, fun sentence => ⟨?_, ?_⟩⟩
    next =>
      intro proposals
      constructor
      · exact fun means => Means.unique accepted.names means (realises.meaning sentence)
      · exact fun same => same ▸ realises.meaning sentence
    next =>
      intro proposal proposed
      obtain ⟨within, category⟩ :=
        config.buildChunker_keepsTo files chunker built sentence proposal proposed
      exact ⟨within.upright, within.inside, category⟩

/-- Two dictionaries share a name; the union has one of them twice, and the fix leaves only places. -/
def placesOfTowns : Configuration where
  categories := ["PERSON", "PLACE"]
  chunkers :=
    [⟨"places", .fix "all" [.categoryFilter ["PLACE"]]⟩, ⟨"all", .union ["towns", "names", "towns"]⟩,
      ⟨"names", .dictionary [("PERSON", ["Jan"])] none true⟩,
      ⟨"towns", .dictionary [("PERSON", ["Jan"]), ("PLACE", ["Lublin", "Nowy Targ"])] none false⟩]
  chunker := some "places"
  mergePriority := none
  coreference := none

theorem placesOfTowns_proposes : ∃ chunker,
    placesOfTowns.buildChunker (fun _ => none) = .ok (some chunker) ∧ chunker.name = "places" ∧
      placesOfTowns.Means (.ofOrths "s1" ["Jan", "w", "nowy", "targ"]) "places"
        (chunker.propose (.ofOrths "s1" ["Jan", "w", "nowy", "targ"])) := by
  have valid : placesOfTowns.validate = .ok () := by decide +kernel
  have order : "PERSON" < "PLACE" := by decide +kernel
  have tabled : placesOfTowns.Tabled := by simpa [Tabled, placesOfTowns] using order
  obtain ⟨target, chunker, named, built, name, meaning⟩ :=
    (buildChunker_proposes_meaning (fun _ => none) valid tabled (by simp [placesOfTowns])).2.1
      (by decide)
  obtain rfl := Option.some.inj named
  exact ⟨chunker, built, name, ((meaning _).1 _).mpr rfl⟩

end Configuration

end SpanAnnotation
