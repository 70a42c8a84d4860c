import WireWrapper.Modifier
import WireWrapper.Proofs.Hierarchy.Ancestors

/-!
# Inherited fields and modifiers

What a type does not have itself it has from its superclass: so a nearest declaration and a nearest
modifier are found.  The lookups do not go up step by step, they search one walk; and the walk from
the superclass is another walk, which may pass the type once more where superclasses lead in a
circle.  It passes it last, though, and a type that is asked in vain the first time is asked in vain
again.

* `findSome?_ancestors`   a search along the superclasses, one step at a time;
* `findSome?_takeWhile`   a search that is cut off somewhere;
* `lookups_inherit`       modifiers short of the root, and fields.
-/

namespace WireWrapper
namespace Hierarchy
variable {α : Type} (h : Hierarchy)

/-- **What a search along the superclasses finds** is what it finds in the type itself, else what it
finds along the superclasses of its superclass. -/
theorem findSome?_ancestors (f : String → Option α) (type : String) :
    (h.ancestors type).findSome? f
      = (f type).or ((h.superclass? type).bind fun above => (h.ancestors above).findSome? f) := by
  cases hs : h.superclass? type with
  | none => rw [h.ancestors_of_superclass_none hs, List.findSome?_singleton, Option.bind_none,
      Option.or_none]
  | some above =>
    obtain ⟨rest, htype, habove⟩ := h.ancestors_superclass hs
    rw [htype, List.findSome?_cons, Option.bind_some]
    cases hf : f type with
    | some found => rfl
    | none =>
      rw [Option.none_or]
      rcases habove with hsame | hmore
      · rw [hsame]
      · rw [hmore, List.findSome?_append, List.findSome?_singleton, hf, Option.or_none]

/-- a search that ends at the first type out of bounds, as one that finds such types empty-handed -/
theorem findSome?_takeWhile (inside : String → Bool) (f : String → Option α) (types : List String) :
    (types.takeWhile inside).findSome? f
      = (types.findSome? fun type => if inside type then (f type).map some else some none).join := by
  induction types with
  | nil => rfl
  | cons type types ih =>
    rw [List.takeWhile_cons, List.findSome?_cons]
    cases inside type with
    | false => rfl
    | true =>
      rw [if_pos rfl, if_pos rfl, List.findSome?_cons]
      cases f type with
      | none => exact ih
      | some found => rfl

theorem findSome?_belowRoot (f : String → Option α) (type : String) :
    ((h.ancestors type).takeWhile (· != objectRoot)).findSome? f
      = if type = objectRoot then none
        else (f type).or ((h.superclass? type).bind fun above =>
          ((h.ancestors above).takeWhile (· != objectRoot)).findSome? f) := by
  simp only [findSome?_takeWhile]
  rw [findSome?_ancestors]
  by_cases hroot : type = objectRoot
  · rw [if_pos hroot, if_neg (by simp [hroot])]
    rfl
  · rw [if_neg hroot, if_pos (by simp [hroot])]
    cases f type with
    | some found => rfl
    | none => cases h.superclass? type <;> rfl

/-- **Lookups go from a type to its superclass**, in every hierarchy: a modifier is the type's own, or
inherited, and the root has none; a field is the first one of that name that the type declares, or
inherited. -/
theorem lookups_inherit (c : Catalog) (type : String) :
    (c.resolve? h type
      = if type = objectRoot then none
        else (c.get? type).or ((h.superclass? type).bind fun above => c.resolve? h above)) ∧
    ∀ name, h.findField? type name
      = ((h.declared? type name).map (type, ·)).or
          ((h.superclass? type).bind fun above => h.findField? above name) :=
  ⟨h.findSome?_belowRoot c.get? type, fun name =>
    h.findSome?_ancestors (fun type => (h.declared? type name).map (type, ·)) type⟩

end Hierarchy
end WireWrapper
