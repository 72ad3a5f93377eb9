import SpanAnnotation.Configuration.Build
import SpanAnnotation.Proofs.Outcome

/-!
How the chunkers of a configuration are put together. An order of dependencies names a chunker after
all those that it is made of, so that building along it never misses a part. What holds of every
dictionary, and of unions and corrections as soon as it holds of their parts, holds of the chunker
that is built.
-/

set_option autoImplicit false

namespace SpanAnnotation.Configuration

variable (config : Configuration)

theorem checkCategory_eq_ok_iff (place : CategoryUse) (category : String) :
    config.checkCategory place category = .ok () ↔ category ∈ config.categories := by
  simp [checkCategory, refuse]

theorem mem_chunkers_of_find? (name : String) (chunker : ChunkerConfig)
    (found : config.find? name = some chunker) : chunker ∈ config.chunkers ∧ chunker.name = name :=
  ⟨List.mem_of_find?_eq_some found, by simpa using List.find?_some found⟩

-- Orders of dependencies.

/-- Every chunker of the order is declared, and those that it depends on stand before it. -/
inductive Ordered : List String → Prop where
  | nil : Ordered []
  | snoc {order : List String} {name : String} {chunker : ChunkerConfig} (before : Ordered order)
      (found : config.find? name = some chunker)
      (parts : ∀ part ∈ chunker.dependencies, part ∈ order) : Ordered (order ++ [name])

theorem foldlM_ordered (visit : List String → String → Except Error (List String))
    (each : ∀ order done name, config.Ordered order → visit order name = .ok done →
      config.Ordered done ∧ order <+: done ∧ name ∈ done)
    (names order done : List String) (ordered : config.Ordered order)
    (success : names.foldlM visit order = .ok done) :
    config.Ordered done ∧ order <+: done ∧ ∀ name ∈ names, name ∈ done := by
  induction names generalizing order with
  | nil =>
    obtain rfl : order = done := by simpa [pure, Except.pure] using success
    exact ⟨ordered, List.prefix_rfl, by simp⟩
  | cons name rest ih =>
    simp only [List.foldlM_cons, bind_eq_ok_iff] at success
    obtain ⟨next, visited, rest⟩ := success
    obtain ⟨nextOrdered, first, named⟩ := each order next name ordered visited
    obtain ⟨doneOrdered, more, others⟩ := ih next nextOrdered rest
    refine ⟨doneOrdered, first.trans more, List.forall_mem_cons.mpr ⟨?_, others⟩⟩
    exact more.subset named

theorem visit_ordered (fuel : Nat) (waiting order done : List String) (name : String)
    (ordered : config.Ordered order) (success : config.visit fuel waiting order name = .ok done) :
    config.Ordered done ∧ order <+: done ∧ name ∈ done := by
  induction fuel generalizing waiting order done name with
  | zero => simp [visit, refuse] at success
  | succ fuel ih =>
    rw [visit] at success
    split at success
    · simp [refuse] at success
    split at success
    · simp [refuse] at success
    next chunker found =>
      split at success
      next known =>
        obtain rfl := Except.ok.inj success
        exact ⟨ordered, List.prefix_rfl, by simpa using known⟩
      next =>
        simp only [bind_eq_ok_iff] at success
        obtain ⟨before, visited, joined⟩ := success
        obtain rfl := Except.ok.inj joined
        obtain ⟨beforeOrdered, longer, parts⟩ := config.foldlM_ordered _
          (fun earlier later part earlierOrdered visited =>
            ih (waiting ++ [name]) earlier later part earlierOrdered visited)
          chunker.dependencies order before ordered visited
        exact ⟨beforeOrdered.snoc found parts, longer.trans (List.prefix_append _ _), by simp⟩

theorem dependencyOrder_ordered (name : String) (order : List String)
    (success : config.dependencyOrder name = .ok order) : config.Ordered order ∧ name ∈ order := by
  obtain ⟨ordered, _, named⟩ := config.visit_ordered _ [] [] order name .nil success
  exact ⟨ordered, named⟩

-- Building along an order.

variable (files : Files)

def Provides (built : Built) (order : List String) : Prop :=
  ∀ name ∈ order, ∃ chunker, built.lookup name = some chunker

theorem builtChunker_eq_ok_iff (built : Built) (name : String) (chunker : Chunker) :
    builtChunker built name = .ok chunker ↔ built.lookup name = some chunker := by
  unfold builtChunker
  cases built.lookup name <;> simp [refuse]

/-- What is made of one entry of the configuration, given the parts. -/
def make (built : Built) (name : String) : ChunkerKind → Except Error Chunker
  | .dictionary entries path caseSensitive =>
      Chunker.ofDictionary <$> config.buildDictionary files name entries path caseSensitive
  | .union members => Chunker.union name <$> members.mapM (builtChunker built)
  | .fix base fixes =>
      (fun below => Chunker.corrected name below (fixes.map Fix.stage)) <$> builtChunker built base

theorem buildOne_of_find? (built : Built) (name : String) (chunker : ChunkerConfig)
    (found : config.find? name = some chunker) :
    config.buildOne files built name =
      (fun made => (name, made) :: built) <$> config.make files built name chunker.kind := by
  simp only [buildOne, found]
  cases chunker.kind with
  | dictionary entries path caseSensitive =>
    simp only [make]
    cases config.buildDictionary files name entries path caseSensitive <;> rfl
  | union members =>
    simp only [make]
    cases members.mapM (builtChunker built) <;> rfl
  | fix base fixes =>
    simp only [make]
    cases builtChunker built base <;> rfl

def ReadsDictionaries : Prop :=
  ∀ chunker ∈ config.chunkers, ∀ entries path caseSensitive,
    chunker.kind = .dictionary entries path caseSensitive →
      ∃ dictionary, config.buildDictionary files chunker.name entries path caseSensitive =
        .ok dictionary

theorem make_succeeds (readable : config.ReadsDictionaries files) (built : Built)
    (chunker : ChunkerConfig) (declared : chunker ∈ config.chunkers)
    (parts : Provides built chunker.dependencies) :
    ∃ made, config.make files built chunker.name chunker.kind = .ok made := by
  unfold Provides ChunkerConfig.dependencies at parts
  cases kind : chunker.kind with
  | dictionary entries path caseSensitive =>
    obtain ⟨dictionary, made⟩ := readable chunker declared entries path caseSensitive kind
    exact ⟨_, (map_eq_ok_iff _ _ _).mpr ⟨dictionary, made, rfl⟩⟩
  | union members =>
    simp only [kind] at parts
    obtain ⟨below, made⟩ := (mapM_succeeds_iff (builtChunker built) members).mpr fun member listed =>
      (parts member listed).imp fun part => (builtChunker_eq_ok_iff built member part).mpr
    exact ⟨_, (map_eq_ok_iff _ _ _).mpr ⟨below, made, rfl⟩⟩
  | fix base fixes =>
    simp only [kind, List.forall_mem_singleton] at parts
    obtain ⟨below, there⟩ := parts
    have made := (builtChunker_eq_ok_iff built base below).mpr there
    exact ⟨_, (map_eq_ok_iff _ _ _).mpr ⟨below, made, rfl⟩⟩

theorem buildOne_succeeds (readable : config.ReadsDictionaries files) (built : Built)
    (name : String) (chunker : ChunkerConfig) (found : config.find? name = some chunker)
    (parts : Provides built chunker.dependencies) :
    ∃ made, config.buildOne files built name = .ok ((name, made) :: built) := by
  obtain ⟨declared, rfl⟩ := config.mem_chunkers_of_find? name chunker found
  obtain ⟨made, making⟩ := config.make_succeeds files readable built chunker declared parts
  exact ⟨made, by rw [config.buildOne_of_find? files built _ chunker found, making]; rfl⟩

theorem Provides.cons {built : Built} {order : List String} (provides : Provides built order)
    (name : String) (made : Chunker) : Provides ((name, made) :: built) (order ++ [name]) := by
  intro other listed
  rw [List.lookup_cons]
  by_cases same : other = name
  · exact ⟨made, by simp [same]⟩
  · have earlier : other ∈ order := by simpa [same] using listed
    obtain ⟨chunker, there⟩ := provides other earlier
    exact ⟨chunker, by simpa [same, beq_false_of_ne same] using there⟩

theorem buildAll_succeeds (readable : config.ReadsDictionaries files) (order : List String)
    (ordered : config.Ordered order) :
    ∃ built, order.foldlM (config.buildOne files) [] = .ok built ∧ Provides built order := by
  induction ordered with
  | nil => exact ⟨[], rfl, by simp [Provides]⟩
  | @snoc order name chunker _ found parts ih =>
    obtain ⟨built, earlier, provides⟩ := ih
    obtain ⟨made, last⟩ := config.buildOne_succeeds files readable built name chunker found
      fun part needed => provides part (parts part needed)
    refine ⟨(name, made) :: built, ?_, provides.cons name made⟩
    simp [earlier, last, bind, Except.bind, pure, Except.pure]

theorem buildChunker_succeeds (readable : config.ReadsDictionaries files)
    (orders : ∀ target, config.target? = some target →
      ∃ order, config.dependencyOrder target = .ok order) :
    ∃ chunker, config.buildChunker files = .ok chunker := by
  unfold buildChunker
  cases named : config.target? with
  | none => exact ⟨none, rfl⟩
  | some target =>
    obtain ⟨order, found⟩ := orders target named
    obtain ⟨ordered, _⟩ := config.dependencyOrder_ordered target order found
    obtain ⟨built, made, _⟩ := config.buildAll_succeeds files readable order ordered
    exact ⟨built.lookup target, by simp [found, made, bind, Except.bind, pure, Except.pure]⟩

-- What chunkers have from their parts.

section HandedOn

variable {P : String → Chunker → Prop}
  (dictionaries : ∀ name entries path caseSensitive dictionary,
    config.find? name = some ⟨name, .dictionary entries path caseSensitive⟩ →
      config.buildDictionary files name entries path caseSensitive = .ok dictionary →
        P name (.ofDictionary dictionary))
  (unions : ∀ name members below, config.find? name = some ⟨name, .union members⟩ →
    List.Forall₂ P members below → P name (.union name below))
  (corrections : ∀ name base fixes below, config.find? name = some ⟨name, .fix base fixes⟩ →
    P base below → P name (.corrected name below (fixes.map Fix.stage)))

include dictionaries unions corrections

theorem make_hands_on (built : Built) (name : String) (kind : ChunkerKind) (made : Chunker)
    (found : config.find? name = some ⟨name, kind⟩)
    (all : ∀ part chunker, built.lookup part = some chunker → P part chunker)
    (success : config.make files built name kind = .ok made) : P name made := by
  cases kind with
  | dictionary entries path caseSensitive =>
    obtain ⟨dictionary, read, rfl⟩ := (map_eq_ok_iff _ _ _).mp success
    exact dictionaries name entries path caseSensitive dictionary found read
  | union members =>
    obtain ⟨below, mapped, rfl⟩ := (map_eq_ok_iff _ _ _).mp success
    refine unions name members below found ((forall₂_of_mapM _ members below mapped).imp ?_)
    exact fun member part there => all member part ((builtChunker_eq_ok_iff built member part).mp there)
  | fix base fixes =>
    obtain ⟨below, there, rfl⟩ := (map_eq_ok_iff _ _ _).mp success
    exact corrections name base fixes below found
      (all base below ((builtChunker_eq_ok_iff built base below).mp there))

theorem buildOne_hands_on (built longer : Built) (name : String)
    (all : ∀ part chunker, built.lookup part = some chunker → P part chunker)
    (success : config.buildOne files built name = .ok longer) :
    ∀ part chunker, longer.lookup part = some chunker → P part chunker := by
  cases found : config.find? name with
  | none =>
    obtain rfl : built = longer := by simpa [buildOne, found] using success
    exact all
  | some declared =>
    rw [config.buildOne_of_find? files built name declared found] at success
    obtain ⟨made, making, rfl⟩ := (map_eq_ok_iff _ _ _).mp success
    obtain ⟨_, rfl⟩ := config.mem_chunkers_of_find? name declared found
    intro part chunker there
    rw [List.lookup_cons] at there
    by_cases same : part = declared.name
    next =>
      obtain rfl : made = chunker := by simpa [same] using there
      rw [same]
      exact config.make_hands_on files dictionaries unions corrections built declared.name
        declared.kind made found all making
    next => exact all part chunker (by simpa [beq_false_of_ne same] using there)

theorem buildAll_hands_on (order : List String) (start built : Built)
    (all : ∀ part chunker, start.lookup part = some chunker → P part chunker)
    (success : order.foldlM (config.buildOne files) start = .ok built) :
    ∀ part chunker, built.lookup part = some chunker → P part chunker := by
  induction order generalizing start with
  | nil =>
    obtain rfl : start = built := by simpa [pure, Except.pure] using success
    exact all
  | cons name rest ih =>
    simp only [List.foldlM_cons, bind_eq_ok_iff] at success
    obtain ⟨next, first, rest⟩ := success
    exact ih next (config.buildOne_hands_on files dictionaries unions corrections start next name
      all first) rest

theorem buildChunker_hands_on (chunker : Chunker)
    (success : config.buildChunker files = .ok (some chunker)) :
    ∃ target, config.target? = some target ∧ P target chunker := by
  unfold buildChunker at success
  cases named : config.target? with
  | none => simp [named] at success
  | some target =>
    simp only [named, bind_eq_ok_iff] at success
    obtain ⟨order, _, built, making, there⟩ := success
    exact ⟨target, rfl, config.buildAll_hands_on files dictionaries unions corrections order []
      built (by simp) making target chunker (Except.ok.inj there)⟩

end HandedOn

end SpanAnnotation.Configuration
