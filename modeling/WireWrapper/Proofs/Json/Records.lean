import Mathlib.Data.List.Forall2
import WireWrapper.Json.Record

/-!
# Records as they may be written

A record is not bound to the form in which it is written out: its members may come in any order, a
member whose value is the default anyway may be left out, and members that nobody asks for may be
added.  A shape says what the record of one certain value consists of; the readers of members then
find in every form of it what they look for.

* `Json.Member`         a member: its name, the values it may have, and when it may be left out;
* `Json.Given`          members with their values, in the order of the shape, some of them left out;
* `Json.Shape`          the members of a record, whose names are distinct;
* `Shape.Form`          the objects that are such a record;
* `Shape.Form.values`   what a form of a record gives for a member: one of its values, or nothing at
                        all if it may be left out; `required`, `optional` and their variants for
                        members with one value and for lists follow.
-/

namespace WireWrapper
namespace Json

/-! ## plain values and lists -/

theorem orNull?_ofText? (s : Option String) : orNull? text? (ofText? s) = some s := by
  cases s <;> rfl

theorem below?_ofNat {bound n : Nat} (h : n < bound) : below? bound (ofNat n) = some n := by
  have hrange : (0 : Int) ≤ n ∧ (n : Int) < bound := ⟨Int.natCast_nonneg n, Int.ofNat_lt.mpr h⟩
  rw [ofNat, below?, if_pos hrange, Int.toNat_natCast]

section
variable {α β : Type} {xs : List α}

theorem mapM_of_forall₂ {Form : α → β → Prop} {read : β → Option α} {items : List β}
    (hforms : List.Forall₂ Form xs items) (hread : ∀ x ∈ xs, ∀ j, Form x j → read j = some x) :
    items.mapM read = some xs := by
  induction hforms with
  | nil => rfl
  | @cons x j xs items hform _ ih =>
    have hhead : read j = some x := hread x List.mem_cons_self j hform
    have htail : items.mapM read = some xs :=
      ih fun y hy => hread y (List.mem_cons_of_mem _ hy)
    rw [List.mapM_cons, hhead, htail]
    rfl

theorem forall₂_map {Form : α → β → Prop} {write : α → β} (h : ∀ x ∈ xs, Form x (write x)) :
    List.Forall₂ Form xs (xs.map write) :=
  List.forall₂_map_right_iff.mpr (List.forall₂_same.mpr h)

theorem listOf?_ofList {read : Json → Option α} {write : α → Json}
    (h : ∀ x, read (write x) = some x) (xs : List α) :
    listOf? read (ofList write xs) = some xs := by
  have hforms : List.Forall₂ (fun x j => j = write x) xs (xs.map write) :=
    forall₂_map fun _ _ => rfl
  exact mapM_of_forall₂ hforms fun x _ j hj => hj ▸ h x

end

/-! ## members -/

structure Member where
  name : String
  /-- The values that the member may have. -/
  Value : Json → Prop
  /-- When the member may be left out. -/
  Omissible : Prop

namespace Member

def plain (name : String) (value : Json) : Member := ⟨name, (· = value), False⟩

/-- A member with one value that may be left out. -/
def preset (name : String) (value : Json) (Omissible : Prop) : Member :=
  ⟨name, (· = value), Omissible⟩

/-- A member whose values are arrays of certain items. -/
def array (name : String) (Items : List Json → Prop) (Omissible : Prop) : Member :=
  ⟨name, fun v => ∃ items, v = .array items ∧ Items items, Omissible⟩

/-- A member that lists one form of each element. -/
def list {α : Type} (name : String) (Form : α → Json → Prop) (xs : List α) (Omissible : Prop) :
    Member := array name (List.Forall₂ Form xs) Omissible

section
variable (name : String) (value : Json) (Items : List Json → Prop) (Omissible : Prop)

@[simp] theorem plain_name : (plain name value).name = name := rfl

@[simp] theorem preset_name : (preset name value Omissible).name = name := rfl

@[simp] theorem array_name : (array name Items Omissible).name = name := rfl

@[simp] theorem list_name {α : Type} (Form : α → Json → Prop) (xs : List α) :
    (list name Form xs Omissible).name = name := rfl

end

end Member

/-- Members with one of their values each, apart from those that are left out. -/
inductive Given : List Member → List (String × Json) → Prop
  | nil : Given [] []
  | keep {m : Member} {ms : List Member} {v : Json} {given : List (String × Json)} :
      m.Value v → Given ms given → Given (m :: ms) ((m.name, v) :: given)
  | leave {m : Member} {ms : List Member} {given : List (String × Json)} :
      m.Omissible → Given ms given → Given (m :: ms) given

theorem Given.names_subset {ms : List Member} {given : List (String × Json)} (h : Given ms given) :
    given.map (·.1) ⊆ ms.map (·.name) := by
  induction h with
  | nil => exact List.Subset.refl _
  | keep _ _ ih => exact List.cons_subset_cons _ ih
  | leave _ _ ih => exact List.subset_cons_of_subset _ ih

theorem filter_name_eq_nil {members : List (String × Json)} {name : String}
    (h : name ∉ members.map (·.1)) : members.filter (·.1 == name) = [] := by
  rw [List.filter_eq_nil_iff]
  intro entry hentry heq
  exact h (beq_iff_eq.mp heq ▸ List.mem_map_of_mem hentry)

theorem filter_name_eq_self {members : List (String × Json)} {name : String}
    (h : name ∉ members.map (·.1)) : members.filter (·.1 != name) = members := by
  rw [List.filter_eq_self]
  intro entry hentry
  exact bne_iff_ne.mpr fun heq => h (heq ▸ List.mem_map_of_mem hentry)

/-- Of distinct members each has the one value that stands under its name. -/
theorem Given.values {ms : List Member} {given : List (String × Json)} (h : Given ms given)
    (hdistinct : (ms.map (·.name)).Nodup) {m : Member} (hm : m ∈ ms) :
    (∃ v, m.Value v ∧ given.filter (·.1 == m.name) = [(m.name, v)]) ∨
      m.Omissible ∧ given.filter (·.1 == m.name) = [] := by
  induction h with
  | nil => exact absurd hm List.not_mem_nil
  | @keep first ms v given hv hgiven ih =>
    have hfresh : first.name ∉ ms.map (·.name) := (List.nodup_cons.mp hdistinct).1
    rcases List.mem_cons.mp hm with rfl | hm
    · have hnone : given.filter (·.1 == m.name) = [] :=
        filter_name_eq_nil fun hmem => hfresh (hgiven.names_subset hmem)
      left
      exact ⟨v, hv, by rw [List.filter_cons_of_pos (by simp), hnone]⟩
    · have hne : first.name ≠ m.name := fun heq => hfresh (heq ▸ List.mem_map_of_mem hm)
      rw [List.filter_cons_of_neg (by simpa using hne)]
      exact ih (List.nodup_cons.mp hdistinct).2 hm
  | @leave first ms given homit hgiven ih =>
    have hfresh : first.name ∉ ms.map (·.name) := (List.nodup_cons.mp hdistinct).1
    rcases List.mem_cons.mp hm with rfl | hm
    · right
      exact ⟨homit, filter_name_eq_nil fun hmem => hfresh (hgiven.names_subset hmem)⟩
    · exact ih (List.nodup_cons.mp hdistinct).2 hm

theorem Given.without {ms : List Member} {given : List (String × Json)} (h : Given ms given)
    (hdistinct : (ms.map (·.name)).Nodup) {m : Member} (hm : m ∈ ms) (homit : m.Omissible) :
    Given ms (given.filter (·.1 != m.name)) := by
  induction h with
  | nil => exact .nil
  | @keep first ms v given hv hgiven ih =>
    have hfresh : first.name ∉ ms.map (·.name) := (List.nodup_cons.mp hdistinct).1
    rcases List.mem_cons.mp hm with rfl | hm
    · have hsame : given.filter (·.1 != m.name) = given :=
        filter_name_eq_self fun hmem => hfresh (hgiven.names_subset hmem)
      rw [List.filter_cons_of_neg (by simp), hsame]
      exact .leave homit hgiven
    · have hne : first.name ≠ m.name := fun heq => hfresh (heq ▸ List.mem_map_of_mem hm)
      rw [List.filter_cons_of_pos (by simpa using hne)]
      exact .keep hv (ih (List.nodup_cons.mp hdistinct).2 hm)
  | @leave first ms given hfirst hgiven ih =>
    have hfresh : first.name ∉ ms.map (·.name) := (List.nodup_cons.mp hdistinct).1
    rcases List.mem_cons.mp hm with rfl | hm
    · have hsame : given.filter (·.1 != m.name) = given :=
        filter_name_eq_self fun hmem => hfresh (hgiven.names_subset hmem)
      rw [hsame]
      exact .leave homit hgiven
    · exact .leave hfirst (ih (List.nodup_cons.mp hdistinct).2 hm)

theorem required_filter_ne {α : Type} {name other : String} (h : name ≠ other)
    (members : List (String × Json)) (p : Nat) (read : Json → Option α) :
    (object (members.filter (·.1 != other))).required name p read =
      (object members).required name p read := by
  have hsame : ∀ entry ∈ members, (entry.1 == name && entry.1 != other) = (entry.1 == name) := by
    intro entry _
    by_cases heq : entry.1 = name
    · simp [heq, h]
    · simp [heq]
  rw [required, required, valuesOf, valuesOf, List.filter_filter, List.filter_congr hsame]

/-! ## records -/

/-- What a record consists of. -/
structure Shape where
  members : List Member
  distinct : (members.map (·.name)).Nodup

namespace Shape
variable {shape : Shape} {j : Json}

/-- An object with the members of the shape and any number of others, in any order. -/
def Form (shape : Shape) (j : Json) : Prop :=
  ∃ given others members, j = .object members ∧ Given shape.members given ∧
    (∀ other ∈ others, other.1 ∉ shape.members.map (·.name)) ∧ members.Perm (given ++ others)

theorem form_of_given {given : List (String × Json)} (h : Given shape.members given) :
    shape.Form (.object given) :=
  ⟨given, [], given, rfl, h, fun _ hother => absurd hother List.not_mem_nil, by simp⟩

namespace Form

theorem reorder {members ordered : List (String × Json)} (h : shape.Form (.object members))
    (hperm : ordered.Perm members) : shape.Form (.object ordered) := by
  obtain ⟨given, others, _, heq, hgiven, hothers, hsplit⟩ := h
  cases heq
  exact ⟨given, others, ordered, rfl, hgiven, hothers, hperm.trans hsplit⟩

theorem extend {members : List (String × Json)} (h : shape.Form (.object members))
    {other : String × Json} (hother : other.1 ∉ shape.members.map (·.name)) :
    shape.Form (.object (other :: members)) := by
  obtain ⟨given, others, _, heq, hgiven, hothers, hsplit⟩ := h
  cases heq
  refine ⟨given, other :: others, _, rfl, hgiven, ?_, ?_⟩
  · exact List.forall_mem_cons.mpr ⟨hother, hothers⟩
  · exact (hsplit.cons other).trans List.perm_middle.symm

theorem without {members : List (String × Json)} (h : shape.Form (.object members)) {m : Member}
    (hm : m ∈ shape.members) (homit : m.Omissible) :
    shape.Form (.object (members.filter (·.1 != m.name))) := by
  obtain ⟨given, others, _, heq, hgiven, hothers, hsplit⟩ := h
  cases heq
  refine ⟨given.filter (·.1 != m.name), others.filter (·.1 != m.name), _, rfl,
    hgiven.without shape.distinct hm homit, fun other hother => ?_, ?_⟩
  · exact hothers other (List.mem_of_mem_filter hother)
  · rw [← List.filter_append]
    exact hsplit.filter _

theorem exists_object (h : shape.Form j) : ∃ members, j = .object members := by
  obtain ⟨_, _, members, rfl, -⟩ := h
  exact ⟨members, rfl⟩

theorem recordOf? (h : shape.Form j) (width : Nat) : j.recordOf? width = some () := by
  obtain ⟨members, rfl⟩ := h.exists_object
  rfl

/-- Neither the order nor the other members change what stands under a name. -/
theorem values (h : shape.Form j) {m : Member} (hm : m ∈ shape.members) (p : Nat) :
    (∃ v, m.Value v ∧ j.valuesOf m.name p = [v]) ∨ m.Omissible ∧ j.valuesOf m.name p = [] := by
  obtain ⟨given, others, members, rfl, hgiven, hothers, hperm⟩ := h
  have hnone : others.filter (·.1 == m.name) = [] := by
    refine filter_name_eq_nil fun hmem => ?_
    obtain ⟨other, hother, heq⟩ := List.mem_map.mp hmem
    exact hothers other hother (heq ▸ List.mem_map_of_mem hm)
  have hfilter : (members.filter (·.1 == m.name)).Perm (given.filter (·.1 == m.name)) := by
    have h := hperm.filter (·.1 == m.name)
    rwa [List.filter_append, hnone, List.append_nil] at h
  -- one value, or none, has only one order
  rcases hgiven.values shape.distinct hm with ⟨v, hv, hone⟩ | ⟨homit, hzero⟩
  · rw [hone, List.perm_singleton] at hfilter
    exact .inl ⟨v, hv, by rw [valuesOf, hfilter]; rfl⟩
  · rw [hzero, List.perm_nil] at hfilter
    exact .inr ⟨homit, by rw [valuesOf, hfilter]; rfl⟩

theorem values_plain (h : shape.Form j) {name : String} {value : Json}
    (hm : .plain name value ∈ shape.members) (p : Nat) : j.valuesOf name p = [value] := by
  rcases h.values hm p with ⟨_, rfl, hone⟩ | ⟨hfalse, -⟩
  · exact hone
  · exact hfalse.elim

section
variable {α : Type} {read : Json → Option α} {x : α} {name : String} {p : Nat}

/-- A member that is never left out is read, if each of its values is. -/
theorem required (h : shape.Form j) {m : Member} (hm : m ∈ shape.members)
    (hkept : ¬ m.Omissible) (hread : ∀ v, m.Value v → read v = some x) :
    j.required m.name p read = some x := by
  rcases h.values hm p with ⟨v, hv, hone⟩ | ⟨homit, -⟩
  · rw [Json.required, hone]
    exact hread v hv
  · exact absurd homit hkept

theorem optional (h : shape.Form j) {m : Member} (hm : m ∈ shape.members) {fallback : α}
    (hread : ∀ v, m.Value v → read v = some x) (hdefault : m.Omissible → x = fallback) :
    j.optional m.name p fallback read = some x := by
  rcases h.values hm p with ⟨v, hv, hone⟩ | ⟨homit, hzero⟩
  · rw [Json.optional, hone]
    exact hread v hv
  · rw [Json.optional, hzero, hdefault homit]

theorem required_plain (h : shape.Form j) (value : Json)
    (hm : .plain name value ∈ shape.members) (hread : read value = some x) :
    j.required name p read = some x := by
  rw [Json.required, h.values_plain hm]
  exact hread

theorem optional_preset (h : shape.Form j) (value : Json) {Omissible : Prop} {fallback : α}
    (hm : .preset name value Omissible ∈ shape.members) (hread : read value = some x)
    (hdefault : Omissible → x = fallback) : j.optional name p fallback read = some x :=
  h.optional hm (fun _ hv => hv ▸ hread) hdefault

theorem optional_array (h : shape.Form j) {Items : List Json → Prop} {Omissible : Prop}
    {fallback : α} (hm : .array name Items Omissible ∈ shape.members)
    (hread : ∀ items, Items items → read (.array items) = some x)
    (hdefault : Omissible → x = fallback) : j.optional name p fallback read = some x := by
  refine h.optional hm ?_ hdefault
  rintro v ⟨items, rfl, hitems⟩
  exact hread items hitems

section
variable {Form : α → Json → Prop} {xs : List α}

theorem optional_list (h : shape.Form j) (hm : .list name Form xs (xs = []) ∈ shape.members)
    (hread : ∀ x ∈ xs, ∀ j, Form x j → read j = some x) :
    j.optional name p [] (listOf? read) = some xs :=
  h.optional_array hm (fun _ hitems => mapM_of_forall₂ hitems hread) id

theorem required_list (h : shape.Form j) (hm : .list name Form xs False ∈ shape.members)
    (hread : ∀ x ∈ xs, ∀ j, Form x j → read j = some x) :
    j.required name p (listOf? read) = some xs := by
  refine h.required hm id ?_
  rintro v ⟨items, rfl, hitems⟩
  exact mapM_of_forall₂ hitems hread

end

end

end Form
end Shape
end Json
end WireWrapper
