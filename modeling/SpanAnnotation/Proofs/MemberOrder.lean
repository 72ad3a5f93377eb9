import Mathlib.Data.List.Forall2
import Mathlib.Data.List.Perm.Basic
import SpanAnnotation.Proofs.DictionaryTables

/-!
Values whose objects list their members in any order. Records are read by the names of their
members, so that the order does not matter to them; maps keep the order in which they are read,
unless they are sorted. What comes back from a value comes back from all values that are like it.
-/

set_option autoImplicit false

namespace SpanAnnotation.Wire

/-- The same list, or if the order is not kept one with the same elements. -/
def Listed {α : Type} (ordered : Bool) (list other : List α) : Prop :=
  if ordered then list = other else list.Perm other

section

variable {α : Type} {ordered : Bool} {list other : List α}

theorem Listed.refl (ordered : Bool) (list : List α) : Listed ordered list list := by
  cases ordered
  · exact List.Perm.refl list
  · rfl

theorem Listed.perm (listed : Listed ordered list other) : list.Perm other := by
  cases ordered with
  | false => exact listed
  | true => exact List.Perm.of_eq listed

end

mutual

/-- The same value, but for the order in which objects list their members. -/
def Value.Alike (ordered : Bool) : Value → Value → Prop
  | .array items, w => ∃ others, w = .array others ∧ Value.allAlike ordered items others
  | .object members, w =>
      ∃ others order, w = .object others ∧ Listed ordered order others ∧
        Value.membersAlike ordered members order
  | v, w => w = v

def Value.allAlike (ordered : Bool) : List Value → List Value → Prop
  | [], others => others = []
  | v :: rest, others =>
      ∃ w later, others = w :: later ∧ v.Alike ordered w ∧ Value.allAlike ordered rest later

def Value.membersAlike (ordered : Bool) : Fields → Fields → Prop
  | [], others => others = []
  | (key, v) :: rest, others =>
      ∃ w later, others = (key, w) :: later ∧ v.Alike ordered w ∧
        Value.membersAlike ordered rest later

end

mutual

theorem Value.Alike.refl (ordered : Bool) (v : Value) : v.Alike ordered v := by
  cases v with
  | array items => exact ⟨items, rfl, Value.allAlike_refl ordered items⟩
  | object members =>
    exact ⟨members, members, rfl, .refl ordered members, Value.membersAlike_refl ordered members⟩
  | _ => rfl

theorem Value.allAlike_refl (ordered : Bool) (items : List Value) :
    Value.allAlike ordered items items := by
  cases items with
  | nil => rfl
  | cons v rest => exact ⟨v, rest, rfl, .refl ordered v, Value.allAlike_refl ordered rest⟩

theorem Value.membersAlike_refl (ordered : Bool) (members : Fields) :
    Value.membersAlike ordered members members := by
  cases members with
  | nil => rfl
  | cons member rest =>
    obtain ⟨key, v⟩ := member
    exact ⟨v, rest, rfl, .refl ordered v, Value.membersAlike_refl ordered rest⟩

end

/-- A member and another one of that name with a value like its own. -/
def SameMember (ordered : Bool) (a b : String × Value) : Prop :=
  a.1 = b.1 ∧ a.2.Alike ordered b.2

theorem Value.membersAlike_iff (ordered : Bool) (members others : Fields) :
    Value.membersAlike ordered members others ↔
      List.Forall₂ (SameMember ordered) members others := by
  induction members generalizing others with
  | nil => rw [Value.membersAlike, List.forall₂_nil_left_iff]
  | cons member rest ih =>
    obtain ⟨key, v⟩ := member
    simp only [Value.membersAlike, List.forall₂_cons_left_iff, ih]
    constructor
    · rintro ⟨w, later, rfl, alike, others⟩
      exact ⟨(key, w), later, ⟨rfl, alike⟩, others, rfl⟩
    · rintro ⟨⟨_, w⟩, later, ⟨rfl, alike⟩, others, rfl⟩
      exact ⟨w, later, rfl, alike, others⟩

-- Parts that are unreadable stay so.

theorem Value.allReadable_iff (items : List Value) :
    Value.allReadable items = true ↔ ∀ v ∈ items, v.readable = true := by
  induction items with
  | nil => simp [Value.allReadable]
  | cons v rest ih => simp [Value.allReadable, ih]

theorem Value.membersReadable_iff (members : Fields) :
    Value.membersReadable members = true ↔ ∀ member ∈ members, member.2.readable = true := by
  induction members with
  | nil => simp [Value.membersReadable]
  | cons member rest ih => simp [Value.membersReadable, ih]

mutual

theorem Value.Alike.readable {ordered : Bool} {v w : Value} (alike : v.Alike ordered w)
    (readable : v.readable = true) : w.readable = true := by
  cases v with
  | array items =>
    obtain ⟨others, rfl, each⟩ := alike
    exact Value.allAlike.readable each readable
  | object members =>
    obtain ⟨others, order, rfl, listed, each⟩ := alike
    have all := (Value.membersReadable_iff order).mp (Value.membersAlike.readable each readable)
    exact (Value.membersReadable_iff others).mpr fun member there =>
      all member (listed.perm.mem_iff.mpr there)
  | _ => exact alike ▸ readable

theorem Value.allAlike.readable {ordered : Bool} {items others : List Value}
    (alike : Value.allAlike ordered items others) (readable : Value.allReadable items = true) :
    Value.allReadable others = true := by
  cases items with
  | nil =>
    obtain rfl := alike
    rfl
  | cons v rest =>
    obtain ⟨w, later, rfl, first, each⟩ := alike
    rw [Value.allReadable, Bool.and_eq_true] at readable ⊢
    exact ⟨first.readable readable.1, Value.allAlike.readable each readable.2⟩

theorem Value.membersAlike.readable {ordered : Bool} {members others : Fields}
    (alike : Value.membersAlike ordered members others)
    (readable : Value.membersReadable members = true) :
    Value.membersReadable others = true := by
  cases members with
  | nil =>
    obtain rfl := alike
    rfl
  | cons member rest =>
    obtain ⟨key, v⟩ := member
    obtain ⟨w, later, rfl, first, each⟩ := alike
    rw [Value.membersReadable, Bool.and_eq_true] at readable ⊢
    exact ⟨first.readable readable.1, Value.membersAlike.readable each readable.2⟩

end

-- Records.

theorem exists_of_forall₂ {α β : Type} {R : α → β → Prop} {list : List α} {other : List β}
    (each : List.Forall₂ R list other) (a : α) (there : a ∈ list) : ∃ b ∈ other, R a b := by
  induction each with
  | nil => cases there
  | @cons a' b rest later first _ ih =>
    rcases List.mem_cons.mp there with rfl | there
    · exact ⟨b, List.mem_cons_self, first⟩
    · obtain ⟨b, present, holds⟩ := ih there
      exact ⟨b, List.mem_cons_of_mem _ present, holds⟩

theorem lookup_of_mem {fields : Fields} (distinct : (fields.map Prod.fst).Nodup) {name : String}
    {v : Value} (there : (name, v) ∈ fields) : fields.lookup name = some v := by
  induction fields with
  | nil => cases there
  | cons field rest ih =>
    obtain ⟨key, w⟩ := field
    rw [List.map_cons, List.nodup_cons] at distinct
    rcases List.mem_cons.mp there with same | there
    · cases same
      simp
    · have other : (name == key) = false := beq_eq_false_iff_ne.mpr fun same =>
        distinct.1 (List.mem_map.mpr ⟨(name, v), there, same⟩)
      rw [List.lookup_cons, other]
      exact ih distinct.2 there

theorem occurrences_eq_count (fields : Fields) (name : String) :
    occurrences fields name = (fields.map Prod.fst).count name := by
  rw [occurrences, List.count, List.countP_map, List.countP_eq_length_filter]
  rfl

theorem record_of_distinct {fields : Fields} (distinct : (fields.map Prod.fst).Nodup)
    (names : List String) : objectRecord names (.object fields) = .ok fields := by
  have single (name : String) : occurrences fields name ≤ 1 := by
    rw [occurrences_eq_count]
    exact List.nodup_iff_count_le_one.mp distinct name
  simp [objectRecord, single]

/-- The members of a record, each under a name of its own, and the same members in another order. -/
structure Rearranged (ordered : Bool) (members others : Fields) : Prop where
  distinct : (members.map Prod.fst).Nodup
  order : ∃ order, List.Forall₂ (SameMember ordered) members order ∧ Listed ordered order others

theorem Value.Alike.rearranged {ordered : Bool} {members : Fields} {v : Value}
    (alike : (Value.object members).Alike ordered v) (distinct : (members.map Prod.fst).Nodup) :
    ∃ others, v = .object others ∧ Rearranged ordered members others := by
  obtain ⟨others, order, rfl, listed, each⟩ := alike
  have whole := (Value.membersAlike_iff ordered members order).mp each
  exact ⟨others, rfl, distinct, order, whole, listed⟩

/-- Whatever is like what was written is read as what it was written from. -/
def Restores {α : Type} (ordered : Bool) (read : Read α) (write : α → Value) (a : α) : Prop :=
  ∀ v, (write a).Alike ordered v → read v = .ok a

namespace Rearranged

variable {ordered : Bool} {members others : Fields} (same : Rearranged ordered members others)

include same

theorem keys : (others.map Prod.fst).Perm (members.map Prod.fst) := by
  obtain ⟨order, each, listed⟩ := same.order
  have named : List.Forall₂ (· = ·) (members.map Prod.fst) (order.map Prod.fst) := by
    rw [List.forall₂_map_left_iff, List.forall₂_map_right_iff]
    exact each.imp fun _ _ member => member.1
  rw [List.forall₂_eq_eq_eq] at named
  rw [named]
  exact (listed.perm.map Prod.fst).symm

theorem record (names : List String) : objectRecord names (.object others) = .ok others :=
  record_of_distinct (same.keys.nodup_iff.mpr same.distinct) names

theorem finds (name : String) (v : Value) (there : (name, v) ∈ members) :
    ∃ w, others.lookup name = some w ∧ v.Alike ordered w := by
  obtain ⟨order, each, listed⟩ := same.order
  obtain ⟨⟨_, w⟩, found, rfl, alike⟩ := exists_of_forall₂ each _ there
  have distinct := same.keys.nodup_iff.mpr same.distinct
  exact ⟨w, lookup_of_mem distinct (listed.perm.mem_iff.mp found), alike⟩

theorem required {α : Type} {read : Read α} {write : α → Value} {a : α} (name : String)
    (there : (name, write a) ∈ members) (restores : Restores ordered read write a) :
    others.required name read = .ok a := by
  obtain ⟨w, found, alike⟩ := same.finds _ _ there
  rw [Fields.required, found]
  exact restores w alike

theorem withDefault {α : Type} {read : Read α} {write : α → Value} {a : α} (name : String)
    (default : α) (there : (name, write a) ∈ members) (restores : Restores ordered read write a) :
    others.withDefault name read default = .ok a := by
  obtain ⟨w, found, alike⟩ := same.finds _ _ there
  rw [Fields.withDefault, found]
  exact restores w alike

theorem optional {α : Type} {read : Read α} {write : α → Value} {a : Option α} (name : String)
    (there : (name, ofOption write a) ∈ members)
    (restores : Restores ordered (readOption read) (ofOption write) a) :
    others.optional name read = .ok a := by
  obtain ⟨w, found, alike⟩ := same.finds _ _ there
  rw [Fields.optional, found]
  exact restores w alike

theorem wholeRecord (readable : (Value.object members).readable = true) (names : List String) :
    wholeRecord names (.object others) = .ok others := by
  obtain ⟨order, each, listed⟩ := same.order
  have alike : (Value.object members).Alike ordered (.object others) :=
    ⟨others, order, rfl, listed, (Value.membersAlike_iff ordered members order).mpr each⟩
  rw [Wire.wholeRecord, if_pos (alike.readable readable)]
  exact same.record names

theorem tagged {read : Read String} {write : String → Value} {kind : String} (name : String)
    (readable : (Value.object members).readable = true) (there : (name, write kind) ∈ members)
    (restores : Restores ordered read write kind) :
    tagged name read (.object others) = .ok (kind, .object others) := by
  simp [Wire.tagged, same.wholeRecord readable, same.required name there restores, bind, Except.bind,
    pure, Except.pure]

end Rearranged

-- Numbers, texts, lists and maps.

section

variable {α : Type} {ordered : Bool} {read : Read α} {write : α → Value}

theorem restores_nat {n : Nat} (small : n < natLimit) : Restores ordered readNat ofNat n := by
  rintro _ rfl
  exact readNat_ofNat n small

theorem restores_text (s : String) : Restores ordered readText .text s := by
  rintro _ rfl
  rfl

theorem restores_bool (b : Bool) : Restores ordered readBool .bool b := by
  rintro _ rfl
  rfl

theorem ofFloat_of_finite {x : Float} (finite : x.isFinite = true) : ofFloat x = .float x :=
  if_pos finite

theorem restores_float {x : Float} (finite : x.isFinite = true) :
    Restores ordered readFloat ofFloat x := by
  intro v alike
  rw [ofFloat_of_finite finite] at alike
  obtain rfl := alike
  rfl

theorem restores_list {items : List α} (each : ∀ item ∈ items, Restores ordered read write item) :
    Restores ordered (readList read) (ofList write) items := by
  rintro _ ⟨others, rfl, alike⟩
  induction items generalizing others with
  | nil =>
    obtain rfl := alike
    rfl
  | cons item rest ih =>
    obtain ⟨w, later, rfl, first, alike⟩ := alike
    obtain ⟨head, tail⟩ := List.forall_mem_cons.mp each
    have items := ih tail later alike
    simp only [readList] at items
    simp [readList, readItems, head w first, items, bind, Except.bind, pure, Except.pure]

theorem restores_texts (items : List String) :
    Restores ordered (readList readText) (ofList .text) items :=
  restores_list fun item _ => restores_text item

theorem restores_option {option : Option α}
    (present : ∀ a ∈ option, ¬ (write a).Alike ordered .null)
    (each : ∀ a ∈ option, Restores ordered read write a) :
    Restores ordered (readOption read) (ofOption write) option := by
  cases option with
  | none =>
    rintro _ rfl
    rfl
  | some a =>
    intro v alike
    have back := each a rfl v alike
    rw [readOption]
    · rw [back]
      rfl
    · rintro rfl
      exact present a rfl alike

theorem restores_optionNat {n : Option Nat} (small : ∀ m ∈ n, m < natLimit) :
    Restores ordered (readOption readNat) (ofOption ofNat) n :=
  restores_option (fun _ _ => nofun) fun m there => restores_nat (small m there)

theorem restores_optionText (s : Option String) :
    Restores ordered (readOption readText) (ofOption .text) s :=
  restores_option (fun _ _ => nofun) fun text _ => restores_text text

theorem putLast_new {entries : List (String × α)} {key : String} (new : key ∉ entries.map Prod.fst)
    (a : α) : putLast entries key a = entries ++ [(key, a)] := by
  induction entries with
  | nil => rfl
  | cons entry rest ih =>
    obtain ⟨other, later⟩ := List.ne_and_not_mem_of_not_mem_cons new
    simp [putLast, Ne.symm other, ih later]

/-- A member that is read as an entry of its own name. -/
def ReadsAs (read : Read α) (member : String × Value) (entry : String × α) : Prop :=
  member.1 = entry.1 ∧ read member.2 = .ok entry.2

theorem readEntries_eq {members : Fields} {found : List (String × α)}
    (each : List.Forall₂ (ReadsAs read) members found) (before : List (String × α))
    (distinct : ((before ++ found).map Prod.fst).Nodup) :
    readEntries read before members = .ok (before ++ found) := by
  induction each generalizing before with
  | nil => simp [readEntries]
  | @cons member entry rest later first _ ih =>
    obtain ⟨key, v⟩ := member
    obtain ⟨name, a⟩ := entry
    obtain ⟨rfl, value⟩ := first
    have new : key ∉ before.map Prod.fst := by
      rw [List.map_append, List.map_cons] at distinct
      exact fun there => (List.nodup_append.mp distinct).2.2 _ there _ (by simp) rfl
    have longer := ih (before ++ [(key, a)]) (by simpa using distinct)
    simp only [List.append_assoc, List.singleton_append] at longer
    simp only [readEntries, value, bind, Except.bind, putLast_new new]
    exact longer

theorem readsAs_of_alike {entries : List (String × α)}
    (each : ∀ entry ∈ entries, Restores ordered read write entry.2) (order : Fields)
    (alike : Value.membersAlike ordered (entries.map fun entry => (entry.1, write entry.2)) order) :
    List.Forall₂ (ReadsAs read) order entries := by
  induction entries generalizing order with
  | nil =>
    obtain rfl := alike
    exact .nil
  | cons entry rest ih =>
    obtain ⟨w, later, rfl, first, alike⟩ := alike
    obtain ⟨head, tail⟩ := List.forall_mem_cons.mp each
    exact .cons ⟨rfl, head w first⟩ (ih tail later alike)

/-- A map comes back with its entries in the order in which they are found. -/
theorem readMap_listed {entries : List (String × α)} (distinct : (entries.map Prod.fst).Nodup)
    (each : ∀ entry ∈ entries, Restores ordered read write entry.2) (v : Value)
    (alike : (ofMap write entries).Alike ordered v) :
    ∃ found, Listed ordered found entries ∧ readMap read v = .ok found := by
  obtain ⟨others, order, rfl, listed, alike⟩ := alike
  have whole := readsAs_of_alike each order alike
  obtain ⟨found, values, same⟩ :
      ∃ found, List.Forall₂ (ReadsAs read) others found ∧ Listed ordered found entries := by
    cases ordered with
    | false => exact List.perm_comp_forall₂ (List.Perm.symm listed) whole
    | true =>
      obtain rfl : order = others := listed
      exact ⟨entries, whole, .refl true entries⟩
  refine ⟨found, same, ?_⟩
  have new := (same.perm.map Prod.fst).nodup_iff.mpr distinct
  exact readEntries_eq values [] new

theorem keys_distinct {entries : List (String × α)}
    (increasing : entries.Pairwise fun a b => a.1 < b.1) : (entries.map Prod.fst).Nodup := by
  rw [List.Nodup, List.pairwise_map]
  exact increasing.imp fun less => ne_of_lt less

theorem sortEntries_eq {entries found : List (String × α)} (same : found.Perm entries)
    (increasing : entries.Pairwise fun a b => a.1 < b.1) : sortEntries found = entries := by
  have distinct := (same.map Prod.fst).nodup_iff.mpr (keys_distinct increasing)
  have sorted := sortEntries_increasing found distinct
  have : Std.Irrefl fun a b : String × α => a.1 < b.1 := ⟨fun a => lt_irrefl a.1⟩
  have : Std.Antisymm fun a b : String × α => a.1 < b.1 :=
    ⟨fun a b less greater => absurd greater (lt_asymm less)⟩
  refine sorted.eq_of_mem_iff increasing fun entry => ?_
  rw [mem_sortEntries, same.mem_iff]

/-- A map that is sorted on reading comes back as it was. -/
theorem readMap_sorted {entries : List (String × α)}
    (increasing : entries.Pairwise fun a b => a.1 < b.1)
    (each : ∀ entry ∈ entries, Restores ordered read write entry.2) (v : Value)
    (alike : (ofMap write entries).Alike ordered v) :
    ∃ found, readMap read v = .ok found ∧ sortEntries found = entries := by
  obtain ⟨found, listed, back⟩ := readMap_listed (keys_distinct increasing) each v alike
  exact ⟨found, back, sortEntries_eq listed.perm increasing⟩

end

end SpanAnnotation.Wire
