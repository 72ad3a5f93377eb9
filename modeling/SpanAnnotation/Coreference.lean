import SpanAnnotation.Classifier
import SpanAnnotation.Pattern

/-!
Coreference from left to right. Each mention is compared with the clusters found so far; of those
that the classifier accepts the one with the nearest earlier mention wins, and of equally near ones
the oldest. A mention that joins none opens a cluster. Relations are added only after the last
mention, so that a pass that runs out of time adds none.
-/

set_option autoImplicit false

namespace SpanAnnotation

/-- Selects the annotations that take part, by their categories. -/
structure MentionSelector where
  patterns : List Pattern
  deriving Repr

namespace MentionSelector

/-- Each pattern has to match a category as a whole. -/
def ofPatterns (texts : List String) : Except Error MentionSelector :=
  if texts.isEmpty then .error (.config .noPatterns)
  else do return ⟨← texts.mapM Pattern.compileWhole⟩

def accepts (selector : MentionSelector) (category : String) : Bool :=
  selector.patterns.any fun pattern => pattern.isMatch category

/-- The mentions of a document in text order. -/
def select (selector : MentionSelector) (document : Document) : List Annotation :=
  document.annotationsInOrder.filter fun a => selector.accepts a.category

end MentionSelector

/-- A mention that joined a cluster, with the head of the cluster, its place in the order of
creation, and the distance to the nearest earlier mention. -/
structure Link where
  mention : Nat
  head : Nat
  cluster : Nat
  distance : Nat
  deriving DecidableEq, Repr

def Link.relation (link : Link) : Relation := Relation.coreference link.mention link.head

structure ResolutionReport where
  mentions : Nat
  links : List Link
  unresolved : Nat
  -- Mentions for which the classifier failed or gave the wrong number of labels.
  recoveredErrors : Nat
  clusters : List Cluster
  elapsedMs : Nat
  deriving DecidableEq, Repr

/-- What the clock shows at the n-th reading, in nanoseconds. -/
abbrev Clock := Nat → Nat

def nanosPerMs : Nat := 1000000

/-- The time between the first reading and a later one. -/
def Clock.since (clock : Clock) (reading : Nat) : Nat := clock reading - clock 0

def Clock.msSince (clock : Clock) (reading : Nat) : Nat := clock.since reading / nanosPerMs

structure Resolver where
  selector : MentionSelector
  features : FeatureSet
  classifier : Classifier
  -- In nanoseconds.
  limit : Option Nat
  input : features.input = .clusterMention

namespace Resolver

/-- The features have to take a mention and a cluster. -/
def ofParts (selector : MentionSelector) (features : FeatureSet) (classifier : Classifier) :
    Except Error Resolver :=
  if input : features.input = .clusterMention then
    .ok ⟨selector, features, classifier, none, input⟩
  else .error (.config (.resolverInput features.input))

def withLimit (resolver : Resolver) (limit : Nat) : Resolver :=
  { resolver with limit := some limit }

-- An accepted cluster with the distance of its nearest earlier mention.
structure Candidate where
  cluster : Nat
  distance : Nat
  deriving DecidableEq, Repr

/-- The first of the nearest candidates. -/
def nearest? : List Candidate → Option Candidate
  | [] => none
  | candidate :: rest =>
      match nearest? rest with
      | none => some candidate
      | some best => if candidate.distance ≤ best.distance then some candidate else some best

/-- The accepted clusters that have an earlier mention; clusters are numbered from `index` on. -/
def candidatesFrom (document : Document) (mention : Annotation) (index : Nat) :
    List Cluster → List Int → List Candidate
  | cluster :: clusters, label :: labels =>
      let rest := candidatesFrom document mention (index + 1) clusters labels
      if isAccepted label then
        match cluster.closestPreceding? document mention with
        | some closest => ⟨index, document.distance closest mention⟩ :: rest
        | none => rest
      else rest
  | _, _ => []

def candidates (document : Document) (mention : Annotation) (clusters : List Cluster)
    (labels : List Int) : List Candidate :=
  candidatesFrom document mention 0 clusters labels

-- What a pass has found so far, and the batches that the classifier was asked about, the latest
-- first.
structure Pass where
  clusters : List Cluster
  links : List Link
  unresolved : Nat
  recovered : Nat
  asked : List (List FeatureVector)
  deriving BEq, Repr

namespace Pass

def initial : Pass := ⟨[], [], 0, 0, []⟩

/-- The mention opens a cluster of its own. -/
def openCluster (pass : Pass) (mention : Nat) : Pass :=
  { pass with
    clusters := pass.clusters ++ [Cluster.single mention]
    unresolved := pass.unresolved + 1 }

def recover (pass : Pass) : Pass := { pass with recovered := pass.recovered + 1 }

def link? (pass : Pass) (mention : Nat) (candidate : Candidate) : Option Link :=
  (pass.clusters[candidate.cluster]?).map fun cluster =>
    ⟨mention, cluster.head, candidate.cluster, candidate.distance⟩

/-- The mention joins the cluster of a link. -/
def join (pass : Pass) (link : Link) : Pass :=
  { pass with
    clusters := pass.clusters.modify link.cluster fun cluster => cluster.push link.mention
    links := pass.links ++ [link] }

end Pass

/-- Asks the classifier about a mention and each cluster; the pass remembers the question. Without
a label for each cluster there is no choice, which counts as a recovered error. -/
def choose (resolver : Resolver) (document : Document) (mention : Annotation) (pass : Pass) :
    Except Error (Pass × Option Candidate) :=
  if pass.clusters.isEmpty then .ok (pass, none)
  else do
    let vectors ← resolver.features.extractAll document
      (pass.clusters.map fun cluster => .clusterMention mention cluster)
    let answered := { pass with asked := vectors :: pass.asked }
    match resolver.classifier pass.asked vectors with
    | .error _ => return (answered.recover, none)
    | .ok labels =>
        if labels.length = vectors.length then
          return (answered, nearest? (candidates document mention pass.clusters labels))
        else return (answered.recover, none)

/-- Decides on one mention, with the link if it joins a cluster. -/
def visit (resolver : Resolver) (document : Document) (mention : Annotation) (pass : Pass) :
    Except Error (Pass × Option Link) := do
  let (answered, choice) ← resolver.choose document mention pass
  match choice.bind (answered.link? mention.id) with
  | some link => return (answered.join link, some link)
  | none => return (answered.openCluster mention.id, none)

/-- Fails when the time is up at a reading of the clock. -/
def checkTime (resolver : Resolver) (clock : Clock) (reading : Nat) : Except Error Unit :=
  match resolver.limit with
  | none => .ok ()
  | some limit =>
      if limit ≤ clock.since reading then
        .error (.timeout (clock.msSince reading) (limit / nanosPerMs))
      else .ok ()

/-- Visits mentions in turn, reading the clock before each; every link is shown to the observer
when it is made. -/
def visitAll {σ : Type} (resolver : Resolver) (document : Document) (clock : Clock)
    (onLink : σ → Link → σ) (reading : Nat) (seen : σ) (pass : Pass) :
    List Annotation → σ × Except Error Pass
  | [] => (seen, .ok pass)
  | mention :: rest =>
      match resolver.checkTime clock reading with
      | .error e => (seen, .error e)
      | .ok () =>
          match resolver.visit document mention pass with
          | .error e => (seen, .error e)
          | .ok (next, link) =>
              resolver.visitAll document clock onLink (reading + 1)
                ((link.map (onLink seen)).getD seen) next rest

def reportOf (mentions : List Annotation) (pass : Pass) (elapsedMs : Nat) : ResolutionReport :=
  { mentions := mentions.length
    links := pass.links
    unresolved := pass.unresolved
    recoveredErrors := pass.recovered
    clusters := pass.clusters
    elapsedMs := elapsedMs }

/-- Resolves a document while an observer sees each link. The clock is read at the start, before
each mention and at the end. -/
def resolveWith {σ : Type} (resolver : Resolver) (document : Document) (clock : Clock)
    (onLink : σ → Link → σ) (start : σ) : Document × σ × Except Error ResolutionReport :=
  match document.validate with
  | .error e => (document, start, .error e)
  | .ok () =>
      let mentions := resolver.selector.select document
      match resolver.visitAll document clock onLink 1 start .initial mentions with
      | (seen, .error e) => (document, seen, .error e)
      | (seen, .ok pass) =>
          match document.addRelations (pass.links.map Link.relation) with
          | (partway, .error e) => (partway, seen, .error e)
          | (resolved, .ok ()) =>
              (resolved, seen, .ok (reportOf mentions pass (clock.msSince (mentions.length + 1))))

def resolve (resolver : Resolver) (document : Document) (clock : Clock) :
    Document × Except Error ResolutionReport :=
  let (final, _, outcome) := resolver.resolveWith document clock (fun seen _ => seen) ()
  (final, outcome)

theorem nearest?_eq_none_iff (list : List Candidate) : nearest? list = none ↔ list = [] := by
  cases list with
  | nil => simp [nearest?]
  | cons candidate rest =>
    simp only [nearest?]
    cases nearest? rest with
    | none => simp
    | some best => by_cases near : candidate.distance ≤ best.distance <;> simp [near]

end Resolver

end SpanAnnotation
