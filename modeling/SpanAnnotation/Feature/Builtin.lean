import SpanAnnotation.Feature.Registry
import SpanAnnotation.Text.Lowercase

/-!
The features that come with the library. They read the attributes `base`, `case` and `number` of
tokens; where these are absent a feature is undefined.
-/

set_option autoImplicit false

namespace SpanAnnotation.Builtin

def otherValue : String := "OTHER"

def cases : List String := ["nom", "gen", "dat", "acc", "inst", "loc", "voc", otherValue]

def numbers : List String := ["sg", "pl", otherValue]

def coordinateConjunctions : List String :=
  ["a", "aczkolwiek", "albo", "ale", "ani", "bądź", "czy", "czyli", "dlatego", "i", "jednak",
   "lecz", "lub", "mianowicie", "natomiast", "ni", "oraz", "przeto", "tedy", "toteż", "tudzież",
   "więc", "zatem", "zaś"]

def relativePronoun : String := "który"

-- How many tokens before a mention are searched for a conjunction.
def lookback : Nat := 2

def headAttribute? (document : Document) (a : Annotation) (name : String) : Option String := do
  let sentence ← document.sentence? a.sentence
  sentence.attribute? a.headToken name

def sameBase (x y : String) : Bool := Text.lowercase x == Text.lowercase y

-- Letters of the Latin alphabet without marks are the only ones whose case is ignored.
def sameIgnoringCase (x y : String) : Bool := x.toList.map Char.toLower == y.toList.map Char.toLower

/-- A member of a closed list, or the value for everything else. -/
def closedValue (text : String) (values : List String) : FeatureValue :=
  let small := Text.lowercase text
  .enumerated (if values.contains small then small else otherValue)

-- Of one annotation.

def annotationLength : Feature :=
  ⟨"annotation_length", .int, .single fun _ a => some (.int a.size)⟩

def categoryValues (categories : List String) : List String :=
  (categories.filter fun c => c != otherValue) ++ [otherValue]

def annotationCategory (categories : List String) : Feature :=
  let values := categoryValues categories
  ⟨"annotation_category", .enumeration values otherValue, .single fun _ a =>
    some (.enumerated (if values.contains a.category then a.category else otherValue))⟩

/-- The token of the last relative pronoun before a position. -/
def lastPronoun? (sentence : Sentence) (before : Nat) : Option Nat :=
  (List.range before).reverse.find? fun token =>
    ((sentence.attribute? token "base").map fun base =>
      Text.lowercase base == relativePronoun).getD false

def precedingPronounCase : Feature :=
  ⟨"annotation_preceding_relative_pronoun_case", ValueKind.enumerationOf cases,
    .single fun document a => do
      let sentence ← document.sentence? a.sentence
      match lastPronoun? sentence a.first with
      | none => some (.enumerated otherValue)
      | some token =>
          some (closedValue ((sentence.attribute? token "case").getD otherValue) cases)⟩

def headNumber : Feature :=
  ⟨"annotation_head_number", ValueKind.enumerationOf numbers, .single fun document a =>
    (headAttribute? document a "number").map fun number => closedValue number numbers⟩

-- Of two annotations.

def pairFirstLength : Feature :=
  ⟨"pair_first_length", .int, .pair fun _ a _ => some (.int a.size)⟩

def pairSameCategory : Feature :=
  ⟨"pair_same_category", .bool, .pair fun _ a b => some (.bool (a.category == b.category))⟩

def pairTokenDistance : Feature :=
  ⟨"pair_token_distance", .int, .pair fun document a b => some (.int (document.distance a b))⟩

def pairSameBase : Feature :=
  ⟨"pair_same_base", .bool, .pair fun document a b => do
    let x ← headAttribute? document a "base"
    let y ← headAttribute? document b "base"
    return .bool (sameBase x y)⟩

-- Of a mention and a cluster.

/-- The share of the cluster's mentions whose number is that of the mention. -/
def numberMatch : Feature :=
  ⟨"clustermention_number_match", .float, .clusterMention fun document mention cluster =>
    match headAttribute? document mention "number" with
    | none => some (.float 0.0)
    | some number =>
        let members := cluster.members document
        let agreeing := members.filter fun other =>
          (headAttribute? document other "number").any fun n => sameIgnoringCase n number
        if members.isEmpty then none
        else some (.float (agreeing.length.toFloat / members.length.toFloat))⟩

def closestDistance : Feature :=
  ⟨"clustermention_closest_preceding_distance", .int,
    .clusterMention fun document mention cluster => do
      let closest ← cluster.closestPreceding? document mention
      return .int (document.distance closest mention)⟩

/-- A coordinate conjunction stands shortly before the closest mention. -/
def closestAfterConjunction : Feature :=
  ⟨"clustermention_closest_preceding_preceded_by_coord_conj", .bool,
    .clusterMention fun document mention cluster =>
      match cluster.closestPreceding? document mention with
      | none => some (.bool false)
      | some closest => do
          let sentence ← document.sentence? closest.sentence
          let start := closest.first - lookback
          let found := (List.range' start (closest.first - start)).any fun token =>
            ((sentence.attribute? token "base").map coordinateConjunctions.contains).getD false
          return .bool found⟩

def closestNumber : Feature :=
  ⟨"clustermention_closest_preceding_number", ValueKind.enumerationOf numbers,
    .clusterMention fun document mention cluster => do
      let closest ← cluster.closestPreceding? document mention
      let number ← headAttribute? document closest "number"
      return closedValue number numbers⟩

def clusterSize : Feature :=
  ⟨"clustermention_cluster_size", .int, .clusterMention fun _ _ cluster =>
    some (.int cluster.mentions.length)⟩

def headBaseMatch : Feature :=
  ⟨"clustermention_head_base_match", .bool, .clusterMention fun document mention cluster => do
    let head ← document.find? cluster.head
    let x ← headAttribute? document mention "base"
    let y ← headAttribute? document head "base"
    return .bool (sameBase x y)⟩

def features (categories : List String) : List Feature :=
  [annotationLength, annotationCategory categories, precedingPronounCase, headNumber,
   pairFirstLength, pairSameCategory, pairTokenDistance, pairSameBase,
   numberMatch, closestDistance, closestAfterConjunction, closestNumber, clusterSize,
   headBaseMatch]

end SpanAnnotation.Builtin

namespace SpanAnnotation

/-- The registry of the built-in features; the categories close the enumeration of
`annotation_category`. -/
def FeatureRegistry.builtin (categories : List String) : FeatureRegistry :=
  FeatureRegistry.empty.registerAll (Builtin.features categories)

end SpanAnnotation
