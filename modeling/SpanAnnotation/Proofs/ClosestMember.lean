import SpanAnnotation.Cluster
import SpanAnnotation.Proofs.TokenDistance

/-!
The mention of a cluster that is taken to be closest to a later one. It is the last of those that
stand before in the text, and none of them is nearer but one that begins before it and ends after
it.
-/

set_option autoImplicit false

namespace SpanAnnotation

def Annotation.Encloses (outer inner : Annotation) : Prop :=
  outer.sentence = inner.sentence ∧ outer.first < inner.first ∧ inner.last < outer.last

theorem Document.encloses_iff (document : Document) (early late : Annotation)
    (earlyFits : early.Fits document.sizes) (lateFits : late.Fits document.sizes)
    (ordered : late.precedes early = false) :
    early.Encloses late ↔
      document.position late.sentence late.last < document.position early.sentence early.last := by
  have upright := earlyFits.upright
  have lateUpright := lateFits.upright
  rw [Bool.eq_false_iff, ne_eq, late.precedes_iff early] at ordered
  by_cases same : early.sentence = late.sentence
  next =>
    simp only [same, Annotation.Encloses, position, true_and]
    omega
  next =>
    have ends := document.last_lt_of_earlier early late earlyFits lateFits (by omega)
    simp only [same, Annotation.Encloses, position, false_and, false_iff] at ends ⊢
    omega

/-- Of two spans before a third, the one that starts earlier is nearer when it encloses the other
and that one does not reach the third. -/
theorem Document.distance_lt_iff (document : Document) (early late mention : Annotation)
    (earlyFits : early.Fits document.sizes) (lateFits : late.Fits document.sizes)
    (fits : mention.Fits document.sizes) (earlyBefore : early.precedes mention = true)
    (lateBefore : late.precedes mention = true) (ordered : late.precedes early = false) :
    document.distance early mention < document.distance late mention ↔
      early.Encloses late ∧ late.overlaps mention = false := by
  have nested := document.encloses_iff early late earlyFits lateFits ordered
  have apart := document.overlaps_eq_false_iff late mention lateFits fits lateBefore
  rw [document.distance_of_precedes early mention earlyFits fits earlyBefore,
    document.distance_of_precedes late mention lateFits fits lateBefore, nested, apart]
  omega

namespace Cluster

variable (cluster : Cluster) (document : Document)

theorem mem_members_iff (a : Annotation) :
    a ∈ cluster.members document ↔
      a.id ∈ cluster.mentions ∧ a ∈ document.annotations.entries := by
  simp only [members, List.mem_filterMap, Document.find?, Arena.find?_eq_some_iff]
  constructor
  next =>
    rintro ⟨id, mentioned, present, rfl⟩
    exact ⟨mentioned, present⟩
  next =>
    rintro ⟨mentioned, present⟩
    exact ⟨a.id, mentioned, present, rfl⟩

variable (mention : Annotation)

theorem closestPreceding?_eq_none_iff :
    cluster.closestPreceding? document mention = none ↔
      ∀ a ∈ cluster.members document, a.precedes mention = false := by
  simp [closestPreceding?, Annotation.latest?_eq_none_iff]

theorem closestPreceding?_isLatest (closest : Annotation)
    (found : cluster.closestPreceding? document mention = some closest) :
    (closest ∈ cluster.members document ∧ closest.precedes mention = true) ∧
      ∀ other ∈ cluster.members document, other.precedes mention = true →
        closest.precedes other = false := by
  have listed := Annotation.mem_of_latest? _ closest found
  have latest := Annotation.not_precedes_of_latest? _ closest found
  refine ⟨List.mem_filter.mp listed, ?_⟩
  intro other member earlier
  exact latest other (List.mem_filter.mpr ⟨member, earlier⟩)

theorem fits_of_mem_members (valid : document.validate = .ok ()) :
    ∀ a ∈ cluster.members document, a.Fits document.sizes := by
  intro a member
  rw [mem_members_iff] at member
  exact (document.validate_eq_ok_iff.mp valid).spans a member.2

/-- Nothing is found exactly when no member stands before the mention. The member that is found is
the nearest of those that do, but for members around it that end after it. -/
theorem closest_nearest_unless_enclosed (valid : document.validate = .ok ())
    (fits : mention.Fits document.sizes) :
    (cluster.closestPreceding? document mention = none ↔
      ∀ a ∈ cluster.members document, a.precedes mention = false) ∧
    ∀ closest, cluster.closestPreceding? document mention = some closest →
      closest ∈ cluster.members document ∧ closest.precedes mention = true ∧
        ∀ other ∈ cluster.members document, other.precedes mention = true →
          (document.distance other mention < document.distance closest mention ↔
            other.Encloses closest ∧ closest.overlaps mention = false) := by
  refine ⟨cluster.closestPreceding?_eq_none_iff document mention, ?_⟩
  intro closest found
  have memberFits := cluster.fits_of_mem_members document valid
  obtain ⟨⟨member, before⟩, latest⟩ :=
    cluster.closestPreceding?_isLatest document mention closest found
  refine ⟨member, before, ?_⟩
  intro other listed earlier
  exact document.distance_lt_iff other closest mention (memberFits other listed)
    (memberFits closest member) fits earlier before (latest other listed earlier)

def aunt : Annotation := ⟨0, 0, 0, 5, "PERSON", none, 0, ""⟩

def ana : Annotation := ⟨1, 0, 3, 3, "PERSON", none, 0, ""⟩

def she : Annotation := ⟨2, 0, 7, 7, "PERSON", none, 0, ""⟩

def auntOfAna : Document :=
  { Document.ofSentences "d"
      [⟨"s1", ["a", "tia", "de", "Ana", "em", "Braga", "viu", "ela"].map fun orth =>
        Token.ofOrth orth 0, .empty 8⟩] with
    annotations := ⟨[aunt, ana, she], by decide⟩
    nextId := 3 }

theorem aunt_nearer_than_ana :
    (Cluster.mk 0 [0, 1]).closestPreceding? auntOfAna she = some ana ∧
      auntOfAna.distance aunt she < auntOfAna.distance ana she := by
  have valid : auntOfAna.validate = .ok () := by decide
  have fits : she.Fits auntOfAna.sizes :=
    (auntOfAna.validate_eq_ok_iff.mp valid).spans she (by decide)
  have found : (Cluster.mk 0 [0, 1]).closestPreceding? auntOfAna she = some ana := by decide
  have nearest := (closest_nearest_unless_enclosed ⟨0, [0, 1]⟩ auntOfAna she valid
    fits).2 ana found
  exact ⟨found, (nearest.2.2 aunt (by decide) (by decide)).mpr
    ⟨⟨rfl, by decide, by decide⟩, by decide⟩⟩

theorem closest_not_nearest :
    ¬ ∀ (cluster : Cluster) (document : Document) (mention closest : Annotation),
      document.validate = .ok () → mention ∈ document.annotations.entries →
        cluster.closestPreceding? document mention = some closest →
          ∀ other ∈ cluster.members document, other.precedes mention = true →
            document.distance closest mention ≤ document.distance other mention := by
  intro nearest
  have further := nearest ⟨0, [0, 1]⟩ auntOfAna she ana (by decide) (by decide) (by decide) aunt
    (by decide) (by decide)
  exact absurd further (by decide)

end Cluster

end SpanAnnotation
