import SpanAnnotation.Proofs.Proposals

/-!
Laws of composed chunkers. A union inside a union can be written out. A correction of a correction is
one correction with the stages of both, when the inner stages make up no inverted spans; those that
the base proposes pass by all stages. Stages that only filter can be moved, and corrections by such
stages can be moved into a union.
-/

set_option autoImplicit false

namespace SpanAnnotation.Chunker

-- First occurrences.

theorem distinctFrom_nodup (seen proposals : List Proposal) :
    (distinctFrom seen proposals).Nodup := by
  induction proposals generalizing seen with
  | nil => exact List.nodup_nil
  | cons first rest ih =>
    rw [distinctFrom]
    split
    next => exact ih seen
    next =>
      refine List.nodup_cons.mpr ⟨?_, ih (first :: seen)⟩
      simp [mem_distinctFrom]

theorem distinctFrom_of_nodup (seen proposals : List Proposal) (once : proposals.Nodup)
    (unseen : proposals.Disjoint seen) : distinctFrom seen proposals = proposals := by
  induction proposals generalizing seen with
  | nil => rfl
  | cons first rest ih =>
    obtain ⟨fresh, later⟩ := List.disjoint_cons_left.mp unseen
    obtain ⟨absent, restOnce⟩ := List.nodup_cons.mp once
    have others := ih (first :: seen) restOnce (List.disjoint_cons_right.mpr ⟨absent, later⟩)
    simp [distinctFrom, fresh, others]

-- Of what was seen before, only the members matter.
theorem distinctFrom_congr {seen other : List Proposal}
    (alike : ∀ proposal, proposal ∈ seen ↔ proposal ∈ other) (proposals : List Proposal) :
    distinctFrom seen proposals = distinctFrom other proposals := by
  rw [distinctFrom_eq, distinctFrom_eq]
  simp only [List.contains_eq_mem, alike]

theorem distinctFrom_append (seen first second : List Proposal) :
    distinctFrom seen (first ++ second) =
      distinctFrom seen first ++ distinctFrom (first ++ seen) second := by
  induction first generalizing seen with
  | nil => rfl
  | cons proposal rest ih =>
    rw [List.cons_append, distinctFrom, distinctFrom]
    split
    next known =>
      have present : proposal ∈ seen := List.contains_iff_mem.mp known
      have alike (other : Proposal) : other ∈ rest ++ seen ↔ other ∈ proposal :: rest ++ seen := by
        grind
      rw [ih, distinctFrom_congr alike]
    next =>
      have alike (other : Proposal) :
          other ∈ rest ++ proposal :: seen ↔ other ∈ proposal :: rest ++ seen := by
        grind
      rw [ih, distinctFrom_congr alike]
      rfl

/-- A proposal that is dropped as seen before would add nothing: what is made of it is seen too. -/
theorem distinctFrom_flatMap (change : Proposal → List Proposal)
    (earlier seen proposals : List Proposal)
    (known : ∀ proposal ∈ earlier, change proposal ⊆ seen) :
    distinctFrom seen ((distinctFrom earlier proposals).flatMap change) =
      distinctFrom seen (proposals.flatMap change) := by
  induction proposals generalizing earlier seen with
  | nil => rfl
  | cons proposal rest ih =>
    rw [List.flatMap_cons, distinctFrom_append, distinctFrom]
    split
    next old =>
      have again : change proposal ⊆ seen := known proposal (List.contains_iff_mem.mp old)
      have nothing : distinctFrom seen (change proposal) = [] := by
        apply List.eq_nil_iff_forall_not_mem.mpr
        intro other present
        obtain ⟨made, unseen⟩ := (mem_distinctFrom seen _ other).mp present
        exact unseen (again made)
      have alike (other : Proposal) : other ∈ change proposal ++ seen ↔ other ∈ seen := by
        grind
      rw [nothing, List.nil_append, distinctFrom_congr alike]
      exact ih earlier seen known
    next =>
      rw [List.flatMap_cons, distinctFrom_append]
      congr 1
      apply ih
      grind

theorem distinctFrom_distinctFrom (seen first second : List Proposal) :
    distinctFrom seen (distinctFrom [] first ++ second) = distinctFrom seen (first ++ second) := by
  have same := distinctFrom_flatMap (fun proposal => [proposal]) [] seen first (by simp)
  have alike (other : Proposal) :
      other ∈ distinctFrom [] first ++ seen ↔ other ∈ first ++ seen := by
    simp [mem_distinctFrom]
  rw [List.flatMap_singleton', List.flatMap_singleton'] at same
  rw [distinctFrom_append, distinctFrom_append, same, distinctFrom_congr alike]

-- Unions.

variable (sentence : Sentence)

theorem union_append_union (name inner : String) (before members after : List Chunker) :
    (union name (before ++ union inner members :: after)).propose sentence =
      (union name (before ++ members ++ after)).propose sentence := by
  simp only [union, List.flatMap_append, List.flatMap_cons, List.append_assoc]
  rw [distinctFrom_append, distinctFrom_distinctFrom, ← distinctFrom_append]

theorem union_unions (name : String) (groups : List (String × List Chunker)) :
    (union name (groups.map fun group => union group.1 group.2)).propose sentence =
      (union name (groups.flatMap Prod.snd)).propose sentence := by
  simp only [union, List.flatMap_map, List.flatMap_assoc]
  -- The proposals of a group are written out while those of the groups after it are seen anew.
  have flat (seen : List Proposal) :
      distinctFrom seen (groups.flatMap fun group =>
          distinctFrom [] (group.2.flatMap fun member => member.propose sentence)) =
        distinctFrom seen (groups.flatMap fun group =>
          group.2.flatMap fun member => member.propose sentence) := by
    induction groups generalizing seen with
    | nil => rfl
    | cons group rest ih =>
      rw [List.flatMap_cons, List.flatMap_cons, distinctFrom_distinctFrom, distinctFrom_append,
        distinctFrom_append, ih]
  exact flat []

theorem mem_union_iff (name : String) (members : List Chunker) (proposal : Proposal) :
    proposal ∈ (union name members).propose sentence ↔
      ∃ member ∈ members, proposal ∈ member.propose sentence := by
  simp [union, mem_distinctFrom]

-- Stages.

/-- The stage treats each proposal by itself. -/
def Stage.IsLocal (stage : Stage) : Prop :=
  ∃ change : Proposal → List Proposal, ∀ proposals,
    stage.apply sentence proposals = proposals.flatMap change

/-- The stage looks at each proposal by itself and keeps or drops it. -/
def Stage.IsFilter (stage : Stage) : Prop :=
  ∃ keep : Proposal → Bool, ∀ proposals, stage.apply sentence proposals = proposals.filter keep

section

variable {sentence} {stages : List Stage}

theorem Stage.isFilter_of_fix (fix : Fix) : fix.stage.IsFilter sentence :=
  ⟨fix.keeps sentence, fun _ => rfl⟩

theorem Stage.IsFilter.isLocal {stage : Stage} (only : stage.IsFilter sentence) :
    stage.IsLocal sentence := by
  obtain ⟨keep, filters⟩ := only
  refine ⟨fun proposal => [proposal].filter keep, fun proposals => ?_⟩
  rw [filters, ← List.filter_flatMap, List.flatMap_singleton']

theorem runStages_isLocal (each : ∀ stage ∈ stages, stage.IsLocal sentence) :
    ∃ change : Proposal → List Proposal, ∀ proposals,
      runStages stages sentence proposals = proposals.flatMap change := by
  induction stages with
  | nil => exact ⟨fun proposal => [proposal], fun proposals => (List.flatMap_singleton' _).symm⟩
  | cons stage rest ih =>
    obtain ⟨here, later⟩ := List.forall_mem_cons.mp each
    obtain ⟨change, changes⟩ := here
    obtain ⟨others, run⟩ := ih later
    refine ⟨fun proposal => (change proposal).flatMap others, fun proposals => ?_⟩
    rw [← List.flatMap_assoc, ← changes, ← run]
    rfl

theorem runStages_sublist (each : ∀ stage ∈ stages, stage.IsFilter sentence)
    (proposals : List Proposal) : (runStages stages sentence proposals).Sublist proposals := by
  induction stages generalizing proposals with
  | nil => exact List.Sublist.refl proposals
  | cons stage rest ih =>
    obtain ⟨⟨keep, filters⟩, later⟩ := List.forall_mem_cons.mp each
    have left := ih later (proposals.filter keep)
    rw [← filters] at left
    exact left.trans (filters proposals ▸ List.filter_sublist)

theorem runStages_perm {others : List Stage} (each : ∀ stage ∈ stages, stage.IsFilter sentence)
    (moved : stages.Perm others) (proposals : List Proposal) :
    runStages stages sentence proposals = runStages others sentence proposals := by
  apply moved.foldl_eq'
  intro first firstListed second secondListed kept
  obtain ⟨keep, filters⟩ := each first firstListed
  obtain ⟨keepToo, filtersToo⟩ := each second secondListed
  rw [filters, filtersToo, filters, filtersToo, List.filter_comm]

theorem runStages_append (more : List Stage) (proposals : List Proposal) :
    runStages (stages ++ more) sentence proposals =
      runStages more sentence (runStages stages sentence proposals) :=
  List.foldl_append

end

-- Corrections.

def upright (proposals : List Proposal) : List Proposal :=
  proposals.filter fun proposal => !proposal.isInverted

def inverted (proposals : List Proposal) : List Proposal :=
  proposals.filter Proposal.isInverted

theorem upright_append (proposals more : List Proposal) :
    upright (proposals ++ more) = upright proposals ++ upright more := by
  simp [upright]

theorem inverted_append (proposals more : List Proposal) :
    inverted (proposals ++ more) = inverted proposals ++ inverted more := by
  simp [inverted]

theorem upright_inverted (proposals : List Proposal) : upright (inverted proposals) = [] := by
  simp [upright, inverted]

theorem inverted_inverted (proposals : List Proposal) :
    inverted (inverted proposals) = inverted proposals := by
  simp [inverted]

theorem upright_upright (proposals : List Proposal) :
    upright (upright proposals) = upright proposals := by
  simp [upright]

theorem upright_eq_self_iff (proposals : List Proposal) :
    upright proposals = proposals ↔ ∀ proposal ∈ proposals, proposal.isInverted = false := by
  simp [upright]

theorem inverted_eq_nil_iff (proposals : List Proposal) :
    inverted proposals = [] ↔ ∀ proposal ∈ proposals, proposal.isInverted = false := by
  simp [inverted]

/-- What the stages leave of the upright proposals of the base. -/
def leftOf (base : Chunker) (stages : List Stage) (sentence : Sentence) : List Proposal :=
  runStages stages sentence (upright (base.propose sentence))

variable (base : Chunker) (stages : List Stage)

theorem corrected_propose (name : String) :
    (corrected name base stages).propose sentence =
      leftOf base stages sentence ++ inverted (base.propose sentence) := rfl

theorem corrected_corrected (name inner : String) (more : List Stage) :
    (corrected name (corrected inner base stages) more).propose sentence =
      runStages more sentence (upright (leftOf base stages sentence)) ++
        inverted (leftOf base stages sentence) ++ inverted (base.propose sentence) := by
  simp only [corrected_propose, leftOf, upright_append, inverted_append, upright_inverted,
    inverted_inverted, List.append_nil, List.append_assoc]

def dropInverted : Stage := ⟨"drop-inverted", fun _ => upright⟩

/-- With stages of any kind outside, it is the inner stages on which it depends. -/
theorem corrections_join_iff :
    (∀ (name inner : String) (more : List Stage),
      (corrected name (corrected inner base stages) more).propose sentence =
        (corrected name base (stages ++ more)).propose sentence) ↔
      ∀ proposal ∈ leftOf base stages sentence, proposal.isInverted = false := by
  simp only [corrected_corrected, corrected_propose _ _ (stages ++ _), leftOf, runStages_append,
    List.append_left_inj]
  generalize runStages stages sentence (upright (base.propose sentence)) = left
  constructor
  next =>
    intro join
    have same : upright (upright left) ++ inverted left = upright left := join "" "" [dropInverted]
    rw [upright_upright, List.append_right_eq_self] at same
    exact (inverted_eq_nil_iff left).mp same
  next =>
    intro wellFormed name inner more
    rw [(upright_eq_self_iff left).mpr wellFormed, (inverted_eq_nil_iff left).mpr wellFormed,
      List.append_nil]

theorem corrected_perm (name : String) (before others after : List Stage)
    (each : ∀ stage ∈ stages, stage.IsFilter sentence) (moved : stages.Perm others) :
    (corrected name base (before ++ stages ++ after)).propose sentence =
      (corrected name base (before ++ others ++ after)).propose sentence := by
  simp only [corrected_propose, leftOf, runStages_append, runStages_perm each moved]

theorem count_corrected (name : String) (proposal : Proposal)
    (malformed : proposal.isInverted = true) :
    ((corrected name base stages).propose sentence).count proposal =
      (leftOf base stages sentence).count proposal + (base.propose sentence).count proposal := by
  rw [corrected_propose, List.count_append, inverted, List.count_filter malformed]

theorem leftOf_sublist (each : ∀ stage ∈ stages, stage.IsFilter sentence) :
    (leftOf base stages sentence).Sublist (upright (base.propose sentence)) :=
  runStages_sublist each _

theorem leftOf_isUpright (each : ∀ stage ∈ stages, stage.IsFilter sentence) :
    ∀ proposal ∈ leftOf base stages sentence, proposal.isInverted = false := by
  intro proposal present
  have kept := (leftOf_sublist sentence base stages each).subset present
  simpa using (List.mem_filter.mp kept).2

theorem corrected_of_upright (name : String)
    (wellFormed : ∀ proposal ∈ base.propose sentence, proposal.isInverted = false) :
    (corrected name base stages).propose sentence =
      runStages stages sentence (base.propose sentence) := by
  rw [corrected_propose, leftOf, (upright_eq_self_iff _).mpr wellFormed,
    (inverted_eq_nil_iff _).mpr wellFormed, List.append_nil]

variable (name inner : String) (part : Chunker → String) (members : List Chunker)

theorem union_isUpright
    (wellFormed : ∀ member ∈ members, ∀ proposal ∈ member.propose sentence,
      proposal.isInverted = false) :
    ∀ proposal ∈ (union inner members).propose sentence, proposal.isInverted = false := by
  intro proposal proposed
  obtain ⟨member, listed, found⟩ := (mem_union_iff sentence inner members proposal).mp proposed
  exact wellFormed member listed proposal found

theorem union_corrected
    (wellFormed : ∀ member ∈ members, ∀ proposal ∈ member.propose sentence,
      proposal.isInverted = false)
    (each : ∀ stage ∈ stages, stage.IsLocal sentence) :
    (union name (members.map fun member => corrected (part member) member stages)).propose
        sentence =
      distinctFrom [] ((corrected name (union inner members) stages).propose sentence) := by
  obtain ⟨change, run⟩ := runStages_isLocal each
  have apart : (members.flatMap fun member =>
        (corrected (part member) member stages).propose sentence) =
      (members.flatMap fun member => member.propose sentence).flatMap change := by
    rw [List.flatMap_assoc]
    apply List.flatMap_congr
    intro member listed
    rw [corrected_of_upright sentence member stages _ (wellFormed member listed), run]
  have whole := union_isUpright sentence inner members wellFormed
  rw [corrected_of_upright sentence _ stages name whole, run]
  simp only [union, List.flatMap_map, apart]
  exact (distinctFrom_flatMap change [] [] _ (by simp)).symm

theorem corrected_union
    (wellFormed : ∀ member ∈ members, ∀ proposal ∈ member.propose sentence,
      proposal.isInverted = false)
    (each : ∀ stage ∈ stages, stage.IsFilter sentence) :
    (corrected name (union inner members) stages).propose sentence =
      (union name (members.map fun member => corrected (part member) member stages)).propose
        sentence := by
  have once : ((corrected name (union inner members) stages).propose sentence).Nodup := by
    have whole := union_isUpright sentence inner members wellFormed
    rw [corrected_of_upright sentence _ stages name whole]
    exact (distinctFrom_nodup [] _).sublist (runStages_sublist each _)
  have alone (stage : Stage) (listed : stage ∈ stages) := (each stage listed).isLocal
  rw [union_corrected sentence stages name inner part members wellFormed alone]
  exact (distinctFrom_of_nodup [] _ once (List.disjoint_nil_right _)).symm

/-- Unions can be written out and have each proposal once. A correction shows what its stages left
and then the inverted spans of its base; one around another joins it when the inner stages left no
inverted span. Stages that filter, such as those of the library, leave none, can be moved, and go
into a union that has none; stages that treat each proposal by itself go into it too, up to
repetitions. -/
theorem compositions_obey_laws (sentence : Sentence) :
    (∀ (name inner : String) (before members after : List Chunker),
      (union name (before ++ union inner members :: after)).propose sentence =
        (union name (before ++ members ++ after)).propose sentence) ∧
    (∀ (name : String) (groups : List (String × List Chunker)),
      (union name (groups.map fun group => union group.1 group.2)).propose sentence =
        (union name (groups.flatMap Prod.snd)).propose sentence) ∧
    (∀ (name : String) (members : List Chunker),
      ((union name members).propose sentence).Nodup ∧
        ∀ proposal, proposal ∈ (union name members).propose sentence ↔
          ∃ member ∈ members, proposal ∈ member.propose sentence) ∧
    (∀ (base : Chunker) (stages : List Stage),
      (∀ (name inner : String) (more : List Stage),
        (corrected name (corrected inner base stages) more).propose sentence =
          runStages more sentence (upright (leftOf base stages sentence)) ++
            inverted (leftOf base stages sentence) ++ inverted (base.propose sentence)) ∧
      ((∀ (name inner : String) (more : List Stage),
        (corrected name (corrected inner base stages) more).propose sentence =
          (corrected name base (stages ++ more)).propose sentence) ↔
        ∀ proposal ∈ leftOf base stages sentence, proposal.isInverted = false)) ∧
    (∀ (name : String) (base : Chunker) (before stages others after : List Stage),
      (∀ stage ∈ stages, stage.IsFilter sentence) → stages.Perm others →
        (corrected name base (before ++ stages ++ after)).propose sentence =
          (corrected name base (before ++ others ++ after)).propose sentence) ∧
    (∀ (name : String) (base : Chunker) (stages : List Stage),
      (corrected name base stages).propose sentence =
        leftOf base stages sentence ++ inverted (base.propose sentence) ∧
      ∀ proposal : Proposal, proposal.isInverted = true →
        ((corrected name base stages).propose sentence).count proposal =
          (leftOf base stages sentence).count proposal +
            (base.propose sentence).count proposal) ∧
    (∀ (name inner : String) (part : Chunker → String) (members : List Chunker)
        (stages : List Stage),
      (∀ member ∈ members, ∀ proposal ∈ member.propose sentence, proposal.isInverted = false) →
        ((∀ stage ∈ stages, stage.IsFilter sentence) →
          (corrected name (union inner members) stages).propose sentence =
            (union name (members.map fun member =>
              corrected (part member) member stages)).propose sentence) ∧
        ((∀ stage ∈ stages, stage.IsLocal sentence) →
          (union name (members.map fun member =>
              corrected (part member) member stages)).propose sentence =
            ((corrected name (union inner members) stages).propose sentence).eraseDups)) ∧
    (∀ fix : Fix, fix.stage.IsFilter sentence) ∧
    ∀ (base : Chunker) (stages : List Stage), (∀ stage ∈ stages, stage.IsFilter sentence) →
      (leftOf base stages sentence).Sublist (upright (base.propose sentence)) ∧
        ∀ proposal ∈ leftOf base stages sentence, proposal.isInverted = false := by
  refine ⟨union_append_union sentence, union_unions sentence, fun name members => ?_,
    fun base stages => ?_, fun name base before stages others after => ?_,
    fun name base stages => ?_, fun name inner part members stages wellFormed => ?_,
    Stage.isFilter_of_fix, fun base stages each => ?_⟩
  next => exact ⟨distinctFrom_nodup [] _, mem_union_iff sentence name members⟩
  next =>
    exact ⟨corrected_corrected sentence base stages, corrections_join_iff sentence base stages⟩
  next => exact corrected_perm sentence base stages name before others after
  next =>
    exact ⟨corrected_propose sentence base stages name, count_corrected sentence base stages name⟩
  next =>
    constructor
    next => exact corrected_union sentence stages name inner part members wellFormed
    next =>
      intro each
      rw [← distinctFrom_nil]
      exact union_corrected sentence stages name inner part members wellFormed each
  next =>
    exact ⟨leftOf_sublist sentence base stages each, leftOf_isUpright sentence base stages each⟩

def people : Chunker := ⟨"people", fun _ => [.plain 0 1 "PERSON", .plain 0 0 "PERSON"]⟩

def peopleAndPlaces : Chunker :=
  ⟨"all", fun _ => [.plain 3 3 "PLACE", .plain 0 1 "PERSON", .plain 2 2 "VERB"]⟩

-- Its second proposal ends before it begins, and comes twice.
def unsteady : Chunker :=
  ⟨"unsteady", fun _ => [.plain 0 1 "PERSON", .plain 3 1 "PERSON", .plain 3 1 "PERSON"]⟩

def janKowalski : Sentence := Sentence.ofOrths "s1" ["Jan", "Kowalski", "zna", "Lublin"]

def addsInverted : Stage := ⟨"adds-inverted", fun _ proposals => proposals ++ [.plain 3 1 "PLACE"]⟩

def firstOnly : Stage := ⟨"first-only", fun _ proposals => proposals.take 1⟩

-- Each proposal, and its first token alone.
def firstTokens : Stage :=
  ⟨"first-tokens", fun _ proposals => proposals.flatMap fun proposal =>
    [proposal, { proposal with last := proposal.first }]⟩

theorem janKowalski_corrections :
    (corrected "f" (corrected "i" people [firstTokens]) [firstOnly]).propose janKowalski =
      (corrected "f" people [firstTokens, firstOnly]).propose janKowalski ∧
    (corrected "f" (union "u" [people, peopleAndPlaces])
        [firstOnly, Fix.stage (.minLength 2), Fix.stage (.categoryFilter ["PERSON"])]).propose
          janKowalski =
      (corrected "f" (union "u" [people, peopleAndPlaces])
        [firstOnly, Fix.stage (.categoryFilter ["PERSON"]), Fix.stage (.minLength 2)]).propose
          janKowalski ∧
    (corrected "f" (union "u" [people, peopleAndPlaces]) [Fix.stage (.minLength 2)]).propose
        janKowalski =
      (union "f" [corrected "people" people [Fix.stage (.minLength 2)],
        corrected "all" peopleAndPlaces [Fix.stage (.minLength 2)]]).propose janKowalski ∧
    (union "f" [corrected "people" people [firstTokens],
        corrected "all" peopleAndPlaces [firstTokens]]).propose janKowalski =
      ((corrected "f" (union "u" [people, peopleAndPlaces]) [firstTokens]).propose
        janKowalski).eraseDups ∧
    ((corrected "f" unsteady [Fix.stage (.minLength 2)]).propose janKowalski).count
      (.plain 3 1 "PERSON") = 2 := by
  obtain ⟨_, _, _, joined, moved, bypassed, distributed, filters, leaves⟩ :=
    compositions_obey_laws janKowalski
  have fixes : ∀ stage ∈ [Fix.stage (.minLength 2), Fix.stage (.categoryFilter ["PERSON"])],
      stage.IsFilter janKowalski := by
    simp [filters]
  have wellFormed : ∀ member ∈ [people, peopleAndPlaces],
      ∀ proposal ∈ member.propose janKowalski, proposal.isInverted = false := by decide
  have both := distributed "f" "u" Chunker.name [people, peopleAndPlaces]
  refine ⟨?_, ?_, ?_, ?_, ?_⟩
  next => exact (joined people [firstTokens]).2.mpr (by decide) "f" "i" [firstOnly]
  next => exact moved "f" _ [firstOnly] _ _ [] fixes (.swap _ _ [])
  next => exact (both _ wellFormed).1 (by simp [filters])
  next => exact (both _ wellFormed).2 (by simpa using ⟨_, fun _ => rfl⟩)
  next =>
    have steady := (leaves unsteady [Fix.stage (.minLength 2)] (by simp [filters])).2
    have absent : Proposal.plain 3 1 "PERSON" ∉
        leftOf unsteady [Fix.stage (.minLength 2)] janKowalski :=
      fun present => absurd (steady _ present) (by decide)
    have often := (bypassed "f" unsteady [Fix.stage (.minLength 2)]).2 (.plain 3 1 "PERSON")
    rw [often (by decide), List.count_eq_zero_of_not_mem absent]
    decide

/-- A stage that makes up an inverted span keeps corrections apart. A span that is proposed twice
comes out twice. Around a stage that looks at all proposals filters cannot be moved, and it cannot go
into a union. -/
theorem stages_break_laws :
    (corrected "f" (corrected "i" people [addsInverted])
        [Fix.stage (.categoryFilter ["PERSON"])]).propose janKowalski ≠
      (corrected "f" people [addsInverted, Fix.stage (.categoryFilter ["PERSON"])]).propose
        janKowalski ∧
    ((corrected "f" unsteady []).propose janKowalski).count (.plain 3 1 "PERSON") = 2 ∧
    (corrected "f" peopleAndPlaces
        [Fix.stage (.categoryFilter ["PERSON"]), firstOnly, Fix.stage (.minLength 1)]).propose
          janKowalski ≠
      (corrected "f" peopleAndPlaces
        [Fix.stage (.minLength 1), firstOnly, Fix.stage (.categoryFilter ["PERSON"])]).propose
          janKowalski ∧
    (corrected "f" (union "u" [people, peopleAndPlaces]) [firstOnly]).propose janKowalski ≠
      (union "f" [corrected "people" people [firstOnly],
        corrected "all" peopleAndPlaces [firstOnly]]).propose janKowalski := by
  decide

end SpanAnnotation.Chunker
