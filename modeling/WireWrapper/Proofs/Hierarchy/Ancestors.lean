import Mathlib.Data.List.Basic
import WireWrapper.Hierarchy

/-!
# The walk along superclasses

The superclasses of a hierarchy are data, and may lead in a circle.  A walk stops at a type that it
has met before, so it meets a known type once; and of the types nobody knows it meets two at most:
an array, which leads to the root, and then the root or one more array.  That is what the number of
steps of `ancestors` allows for.

On a circle the walk from a type and the walk from its superclass are cut at different places.  But
all that changes is the last step: the walk from the superclass may come back to the type, and finds
it behind everything that the walk from the type finds.

* `reach`                  how many types a walk can still meet;
* `reach_superclass`       one less with every step to a type that was not met;
* `chain_succ`             more steps than that change nothing;
* `chain_around`           a walk that avoids a type, and the same walk without this restriction;
* `ancestors_superclass`   the walk from a type against the walk from its superclass.
-/

namespace WireWrapper
namespace Hierarchy
variable (h : Hierarchy)

/-! ## enough steps -/

/-- the known types that a walk has not met -/
def unmet (seen : List String) : List String := h.types.keys.filter (· ∉ seen)

/-- how many types a walk can still meet from `name` on: the known ones, and of the others one, or
two if the root is still ahead -/
def reach (seen : List String) (name : String) : Nat :=
  (h.unmet seen).length + if objectRoot ∈ name :: seen then 1 else 2

theorem length_unmet_nil : (h.unmet []).length = h.size := by
  have hall : h.unmet [] = h.types.keys := List.filter_eq_self.mpr fun _ _ => by simp
  rw [hall, Std.ExtTreeMap.length_keys, size]

theorem length_unmet_cons_le (seen : List String) (name : String) :
    (h.unmet (name :: seen)).length ≤ (h.unmet seen).length := by
  refine (List.monotone_filter_right h.types.keys fun type htype => ?_).length_le
  simp only [List.mem_cons, not_or, decide_eq_true_eq] at htype ⊢
  exact htype.2

theorem length_unmet_cons_lt {seen : List String} {name : String} {info : TypeInfo}
    (hget : h.get? name = some info) (hfresh : name ∉ seen) :
    (h.unmet (name :: seen)).length < (h.unmet seen).length := by
  have hkey : name ∈ h.types.keys := by
    rw [Std.ExtTreeMap.mem_keys, Std.ExtTreeMap.mem_iff_isSome_getElem?]
    exact Option.isSome_of_eq_some hget
  have hsplit : h.unmet (name :: seen) = (h.unmet seen).filter (· ≠ name) := by
    rw [unmet, unmet, List.filter_filter]
    refine List.filter_congr fun type _ => ?_
    simp [List.mem_cons, not_or]
  rw [hsplit, List.length_filter_lt_length_iff_exists]
  exact ⟨name, List.mem_filter.mpr ⟨hkey, by simpa using hfresh⟩, by simp⟩

/-- **A step to a type that was not met leaves one type less to meet.**  A known type is struck off
the list; from a type nobody knows the only way up is that from an array to the root. -/
theorem reach_superclass {seen : List String} {name above : String} (hfresh : name ∉ seen)
    (hs : h.superclass? name = some above) (habove : above ∉ name :: seen) :
    h.reach (name :: seen) above < h.reach seen name := by
  rw [superclass?] at hs
  cases hget : h.get? name with
  | some info =>
    have hlt := h.length_unmet_cons_lt hget hfresh
    have hroot : objectRoot ∈ name :: seen → objectRoot ∈ above :: name :: seen :=
      List.mem_cons_of_mem above
    rw [reach, reach]
    split <;> split
    · omega
    · omega
    · next hnew hold => exact absurd (hroot hold) hnew
    · omega
  | none =>
    rw [hget] at hs
    dsimp only at hs
    split at hs
    · obtain rfl := Option.some.inj hs
      have hle := h.length_unmet_cons_le seen name
      rw [reach, reach, if_pos List.mem_cons_self, if_neg habove]
      omega
    · cases hs

theorem chain_of_mem {seen : List String} {name : String} (hmem : name ∈ seen) (fuel : Nat) :
    h.chain fuel seen name = [] := by
  cases fuel with
  | zero => rfl
  | succ fuel => rw [chain, if_pos hmem]

theorem chain_of_not_mem {seen : List String} {name : String} (hfresh : name ∉ seen) (fuel : Nat) :
    h.chain (fuel + 1) seen name
      = name :: match h.superclass? name with
        | some above => h.chain fuel (name :: seen) above
        | none => [] := if_neg hfresh

theorem chain_succ {fuel : Nat} {seen : List String} {name : String}
    (hreach : h.reach seen name ≤ fuel) : h.chain (fuel + 1) seen name = h.chain fuel seen name := by
  induction fuel generalizing seen name with
  | zero =>
    rw [reach] at hreach
    split at hreach <;> omega
  | succ fuel ih =>
    by_cases hmem : name ∈ seen
    · rw [h.chain_of_mem hmem, h.chain_of_mem hmem]
    · rw [h.chain_of_not_mem hmem, h.chain_of_not_mem hmem]
      cases hs : h.superclass? name with
      | none => rfl
      | some above =>
        dsimp only
        by_cases habove : above ∈ name :: seen
        · rw [h.chain_of_mem habove, h.chain_of_mem habove]
        · have hstep := h.reach_superclass hmem hs habove
          rw [ih (by omega)]

theorem reach_nil_le (start : String) : h.reach [] start ≤ h.size + 2 := by
  rw [reach, length_unmet_nil]
  split <;> omega

theorem ancestors_eq_chain_succ (type : String) :
    h.ancestors type = h.chain (h.size + 3) [] type := (h.chain_succ (h.reach_nil_le type)).symm

/-! ## a type and its superclass -/

theorem ancestors_of_superclass_none {type : String} (hs : h.superclass? type = none) :
    h.ancestors type = [type] := by
  rw [ancestors, h.chain_of_not_mem List.not_mem_nil, hs]

theorem ancestors_of_superclass {type above : String} (hs : h.superclass? type = some above) :
    h.ancestors type = type :: h.chain (h.size + 2) [type] above := by
  rw [ancestors_eq_chain_succ, h.chain_of_not_mem List.not_mem_nil, hs]

/-- a walk that has met the superclass of `type`, or starts there, and the same walk with `type` out
of bounds -/
theorem chain_around {type above : String} (hs : h.superclass? type = some above) (fuel : Nat)
    {seen : List String} {name : String} (hmet : above ∈ name :: seen) :
    h.chain fuel seen name = h.chain fuel (seen ++ [type]) name ∨
      h.chain fuel seen name = h.chain fuel (seen ++ [type]) name ++ [type] := by
  induction fuel generalizing seen name with
  | zero => exact .inl rfl
  | succ fuel ih =>
    by_cases hmem : name ∈ seen
    · left
      rw [h.chain_of_mem hmem, h.chain_of_mem (List.mem_append_left [type] hmem)]
    by_cases htype : name = type
    · right
      -- the walk ends here: the next step leads to a type that was met
      subst htype
      rw [h.chain_of_mem (List.mem_append_right seen List.mem_cons_self), h.chain_of_not_mem hmem, hs]
      dsimp only
      rw [h.chain_of_mem hmet]
      rfl
    · have hbound : name ∉ seen ++ [type] := by simp [hmem, htype]
      rw [h.chain_of_not_mem hmem, h.chain_of_not_mem hbound]
      cases h.superclass? name with
      | none => exact .inl rfl
      | some next =>
        rcases ih (List.mem_cons_of_mem next hmet) with hsame | hmore
        · exact .inl (congrArg (name :: ·) hsame)
        · exact .inr (congrArg (name :: ·) hmore)

/-- **The walk from a type is the type and the walk from its superclass**, except that the latter may
end with the type, if the superclasses lead back to it. -/
theorem ancestors_superclass {type above : String} (hs : h.superclass? type = some above) :
    ∃ rest, h.ancestors type = type :: rest ∧
      (h.ancestors above = rest ∨ h.ancestors above = rest ++ [type]) :=
  ⟨_, h.ancestors_of_superclass hs, h.chain_around hs (h.size + 2) List.mem_cons_self⟩

end Hierarchy
end WireWrapper
