import Mathlib.Data.List.Induction
import WireWrapper.Hierarchy.Json
import WireWrapper.Proofs.Json.Records

/-!
# Hierarchies in all their forms

The types of a hierarchy are no list: their record is an object by type names, whose order says
nothing, and nothing can be added to it but further types.

* `Hierarchy.get?_ofTypes`     the types of a list without repeated names are the known ones;
* `Hierarchy.ofTypes_toList`   the known types give the hierarchy back, in whatever order they come;
* `FieldDecl.shape`, `TypeInfo.shape`, `Hierarchy.shape`   what the records consist of;
* `ofJson?_of_form`            every form is read as the value that it was made for;
* `form_toJson`                the record as it is written out is a form.
-/

namespace WireWrapper

/-! ## fields and types -/

namespace FieldDecl
variable {f : FieldDecl} {j : Json}

def shape (f : FieldDecl) : Json.Shape where
  members := [
    .plain "name" (.text f.name),
    .plain "runtime_type" (.text f.runtimeType),
    .preset "static" (.bool f.isStatic) (f.isStatic = false)]
  distinct := by simp

theorem ofJson?_of_form (h : f.shape.Form j) : ofJson? j = some f := by
  have hname : j.required "name" 0 Json.text? = some f.name :=
    h.required_plain (.text f.name) (by simp [shape]) rfl
  have htype : j.required "runtime_type" 1 Json.text? = some f.runtimeType :=
    h.required_plain (.text f.runtimeType) (by simp [shape]) rfl
  have hstatic : j.optional "static" 2 false Json.bool? = some f.isStatic :=
    h.optional_preset (.bool f.isStatic) (by simp [shape]) rfl id
  rw [ofJson?, h.recordOf? 3, hname, htype, hstatic]
  rfl

theorem form_toJson (f : FieldDecl) : f.shape.Form f.toJson :=
  Json.Shape.form_of_given (.keep rfl (.keep rfl (.keep rfl .nil)))

end FieldDecl

namespace TypeInfo
variable {info : TypeInfo} {j : Json}

def shape (info : TypeInfo) : Json.Shape where
  members := [
    .preset "superclass" (.ofText? info.superclass) (info.superclass = none),
    .list "fields" (fun f : FieldDecl => f.shape.Form) info.fields (info.fields = [])]
  distinct := by simp

theorem ofJson?_of_form (h : info.shape.Form j) : ofJson? j = some info := by
  have hsuperclass : j.optional "superclass" 0 none (Json.orNull? Json.text?)
      = some info.superclass :=
    h.optional_preset (.ofText? info.superclass) (by simp [shape]) (Json.orNull?_ofText? _) id
  have hfields : j.optional "fields" 1 [] (Json.listOf? FieldDecl.ofJson?) = some info.fields :=
    h.optional_list (by simp [shape]) fun _ _ _ hf => FieldDecl.ofJson?_of_form hf
  rw [ofJson?, h.recordOf? 2, hsuperclass, hfields]
  rfl

theorem form_toJson (info : TypeInfo) : info.shape.Form info.toJson :=
  Json.Shape.form_of_given
    (.keep rfl (.keep ⟨_, rfl, Json.forall₂_map fun f _ => f.form_toJson⟩ .nil))

end TypeInfo

namespace Hierarchy

/-! ## a hierarchy and the list of its types -/

theorem ofTypes_concat (types : List (String × TypeInfo)) (type : String × TypeInfo) :
    ofTypes (types ++ [type]) = (ofTypes types).insert type.1 type.2 := by
  rw [ofTypes, List.foldl_append]
  rfl

theorem get?_insert (h : Hierarchy) (name : String) (info : TypeInfo) (other : String) :
    (h.insert name info).get? other = if name = other then some info else h.get? other := by
  rw [insert, get?, get?, Std.ExtTreeMap.getElem?_insert]
  simp only [Std.compare_eq_iff_eq]

/-- No type replaces another one when the names are distinct. -/
theorem get?_ofTypes {types : List (String × TypeInfo)} (hnodup : (types.map (·.1)).Nodup)
    (name : String) (info : TypeInfo) :
    (ofTypes types).get? name = some info ↔ (name, info) ∈ types := by
  -- the later of two types counts, so the list grows at its end
  induction types using List.reverseRecOn with
  | nil =>
    have hnone : (ofTypes []).get? name = none := Std.ExtTreeMap.getElem?_empty
    simp [hnone]
  | append_singleton types last ih =>
    rw [List.map_append, List.nodup_append] at hnodup
    obtain ⟨hinit, -, hapart⟩ := hnodup
    rw [ofTypes_concat, get?_insert, List.mem_append, List.mem_singleton, ← ih hinit]
    split
    case isTrue heq =>
      have hfresh : (ofTypes types).get? name ≠ some info := fun hget =>
        hapart name (List.mem_map_of_mem ((ih hinit).mp hget)) last.1 List.mem_cons_self heq.symm
      subst heq
      simp [hfresh, Prod.ext_iff, eq_comm]
    case isFalse hne =>
      have hother : (name, info) ≠ last := fun heq => hne (heq ▸ rfl)
      simp [hother]

theorem ofTypes_toList {h : Hierarchy} {types : List (String × TypeInfo)}
    (hperm : types.Perm h.types.toList) : ofTypes types = h := by
  have hnodup : (types.map (·.1)).Nodup := by
    have hkeys : h.types.toList.map (·.1) = h.types.keys :=
      Std.ExtTreeMap.map_fst_toList_eq_keys
    rw [(hperm.map (·.1)).nodup_iff, hkeys]
    exact Std.ExtTreeMap.nodup_keys
  have hsame : (ofTypes types).types = h.types := by
    refine Std.ExtTreeMap.ext_getElem? fun name => Option.ext fun info => ?_
    exact (get?_ofTypes hnodup name info).trans
      (hperm.mem_iff.trans Std.ExtTreeMap.mem_toList_iff_getElem?_eq_some)
  exact congrArg mk hsame

/-! ## the record -/

/-- Objects with one record of each type under its name. -/
def TypesForm (h : Hierarchy) (j : Json) : Prop :=
  ∃ types members, j = .object members ∧ types.Perm h.types.toList ∧
    List.Forall₂ (fun (type : String × TypeInfo) (member : String × Json) =>
      member.1 = type.1 ∧ type.2.shape.Form member.2) types members

def shape (h : Hierarchy) : Json.Shape where
  members := [⟨"types", h.TypesForm, h = empty⟩]
  distinct := by simp

theorem typesOfJson?_of_form {h : Hierarchy} {j : Json} (hform : h.TypesForm j) :
    ∃ types, typesOfJson? j = some types ∧ ofTypes types = h := by
  obtain ⟨types, members, rfl, hperm, hforms⟩ := hform
  refine ⟨types, Json.mapM_of_forall₂ hforms ?_, ofTypes_toList hperm⟩
  rintro type - member ⟨hname, hinfo⟩
  show (TypeInfo.ofJson? member.2).map (member.1, ·) = some type
  rw [TypeInfo.ofJson?_of_form hinfo, hname]
  rfl

theorem ofJson?_of_form {h : Hierarchy} {j : Json} (hform : h.shape.Form j) :
    ofJson? j = some h := by
  -- which list of types is read depends on the form, the hierarchy of it does not
  have htypes : ∃ types, j.optional "types" 0 [] typesOfJson? = some types ∧
      ofTypes types = h := by
    rcases hform.values (List.mem_singleton_self _) 0 with ⟨v, hv, hone⟩ | ⟨hempty, hzero⟩
    · rw [Json.optional, hone]
      exact typesOfJson?_of_form hv
    · rw [Json.optional, hzero]
      exact ⟨[], rfl, hempty.symm⟩
  obtain ⟨types, hread, rfl⟩ := htypes
  rw [ofJson?, hform.recordOf? 1, hread]
  rfl

theorem form_toJson (h : Hierarchy) : h.shape.Form h.toJson := by
  refine Json.Shape.form_of_given (.keep ⟨h.types.toList, _, rfl, .refl _, ?_⟩ .nil)
  exact Json.forall₂_map fun type _ => ⟨rfl, type.2.form_toJson⟩

end Hierarchy
end WireWrapper
