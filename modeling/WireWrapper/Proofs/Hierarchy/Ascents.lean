import Mathlib.Data.List.Chain
import Mathlib.Data.List.Nodup
import WireWrapper.Proofs.Hierarchy.Ancestors

/-!
# The longest ascent

An ascent goes from a type to its superclass, from there to the next, and meets no type twice.  From a
given type there is one way up only, so the ascents are the beginnings of the longest one, and that
is the walk along the superclasses.  A hierarchy whose superclasses lead in a circle is no exception,
for an ascent ends before it closes the circle.

The walk is given a number of steps.  `Walk` is the same walk without a limit: it comes to its end
where no superclass is known or where a type was met before, and it always does, as each step leaves
one type less to meet.

* `Walk`                     a walk to its end, whatever the number of steps;
* `walk_chain`               so many steps as there are types to meet are enough for it;
* `Walk.length_le`           and no walk is longer;
* `IsAscent`, `IsFullAscent`   types one above the other, and such that there is no way on;
* `Walk.isFullAscent`        a walk is such, seen from its start;
* `Walk.ascent_prefix`       and goes at least as far as any ascent from there;
* `ancestors_longest`        the walk from a type, with all its ascents.
-/

namespace WireWrapper
namespace Hierarchy
variable (h : Hierarchy)

/-! ## walks without a limit -/

/-- the types that a walk meets from `name` on when it has met those in `seen` -/
inductive Walk : (seen : List String) → (name : String) → List String → Prop
  | again {seen : List String} {name : String} (hmet : name ∈ seen) : Walk seen name []
  | top {seen : List String} {name : String} (hfresh : name ∉ seen)
      (htop : h.superclass? name = none) : Walk seen name [name]
  | up {seen : List String} {name above : String} {rest : List String} (hfresh : name ∉ seen)
      (hup : h.superclass? name = some above) (hrest : Walk (name :: seen) above rest) :
      Walk seen name (name :: rest)

theorem reach_pos (seen : List String) (name : String) : 0 < h.reach seen name := by
  rw [reach]
  split <;> omega

/-- **So many steps as there are types to meet** bring a walk to its end. -/
theorem walk_chain {fuel : Nat} {seen : List String} {name : String}
    (hreach : h.reach seen name ≤ fuel) : h.Walk seen name (h.chain fuel seen name) := by
  induction fuel generalizing seen name with
  | zero =>
    have hpos := h.reach_pos seen name
    omega
  | succ fuel ih =>
    by_cases hmet : name ∈ seen
    · rw [h.chain_of_mem hmet]
      exact .again hmet
    rw [h.chain_of_not_mem hmet]
    cases hs : h.superclass? name with
    | none => exact .top hmet hs
    | some above =>
      refine .up hmet hs ?_
      dsimp only
      by_cases habove : above ∈ name :: seen
      · rw [h.chain_of_mem habove]
        exact .again habove
      · have hstep := h.reach_superclass hmet hs habove
        exact ih (by omega)

namespace Walk
variable {h} {seen types : List String} {name : String} (hwalk : h.Walk seen name types)
include hwalk

theorem unique {types' : List String} (hwalk' : h.Walk seen name types') : types = types' := by
  induction hwalk generalizing types' with
  | again hmet =>
    cases hwalk' with
    | again => rfl
    | top hfresh => exact absurd hmet hfresh
    | up hfresh => exact absurd hmet hfresh
  | top hfresh htop =>
    cases hwalk' with
    | again hmet => exact absurd hmet hfresh
    | top => rfl
    | up _ hup => rw [htop] at hup; cases hup
  | up hfresh hup _ ih =>
    cases hwalk' with
    | again hmet => exact absurd hmet hfresh
    | top _ htop => rw [htop] at hup; cases hup
    | up _ hup' hrest' =>
      obtain rfl := Option.some.inj (hup.symm.trans hup')
      rw [ih hrest']

theorem length_le : types.length ≤ h.reach seen name := by
  induction hwalk with
  | again => exact Nat.zero_le _
  | top => exact h.reach_pos _ _
  | @up seen name above rest hfresh hup hrest ih =>
    rw [List.length_cons]
    by_cases hmet : above ∈ name :: seen
    · rw [hrest.unique (.again hmet)]
      exact h.reach_pos _ _
    · have hstep := h.reach_superclass hfresh hup hmet
      omega

theorem not_mem_seen : ∀ type ∈ types, type ∉ seen := by
  induction hwalk with
  | again => exact nofun
  | top hfresh => exact List.forall_mem_singleton.mpr hfresh
  | up hfresh _ _ ih =>
    exact List.forall_mem_cons.mpr ⟨hfresh, fun type htype hseen =>
      ih type htype (List.mem_cons_of_mem _ hseen)⟩

theorem eq_of_mem_head? : ∀ type ∈ types.head?, type = name := by
  cases hwalk with
  | again => exact nofun
  | top => exact fun type htype => (Option.some.inj htype).symm
  | up => exact fun type htype => (Option.some.inj htype).symm

theorem head?_eq (hfresh : name ∉ seen) : types.head? = some name := by
  cases hwalk with
  | again hmet => exact absurd hmet hfresh
  | top => rfl
  | up => rfl

theorem isChain : types.IsChain fun type above => h.superclass? type = some above := by
  induction hwalk with
  | again => exact List.isChain_nil
  | top => exact List.isChain_singleton _
  | up _ hup hrest ih =>
    refine List.isChain_cons.mpr ⟨fun above habove => ?_, ih⟩
    rw [hrest.eq_of_mem_head? above habove]
    exact hup

theorem nodup : types.Nodup := by
  induction hwalk with
  | again => exact List.nodup_nil
  | top => exact List.nodup_singleton _
  | up _ _ hrest ih =>
    exact List.nodup_cons.mpr ⟨fun hmem => hrest.not_mem_seen _ hmem List.mem_cons_self, ih⟩

/-- a walk ends where the way up leads to no type, or to one that was met -/
theorem superclass_last : ∀ last ∈ types.getLast?, ∀ above, h.superclass? last = some above →
    above ∈ types ∨ above ∈ seen := by
  induction hwalk with
  | again => exact nofun
  | top _ htop =>
    intro last hlast above hs
    rw [← Option.some.inj hlast, List.getLast_singleton, htop] at hs
    cases hs
  | @up seen name next rest _ hup hrest ih =>
    intro last hlast above hs
    cases rest with
    | nil =>
      -- nothing came behind `name`, so its superclass was met
      rw [← Option.some.inj hlast, List.getLast_singleton, hup] at hs
      obtain rfl := Option.some.inj hs
      cases hrest with
      | again hmet =>
        rcases List.mem_cons.mp hmet with rfl | hseen
        · exact .inl List.mem_cons_self
        · exact .inr hseen
    | cons type rest =>
      rw [List.getLast?_cons_cons] at hlast
      rcases ih last hlast above hs with hrest | hmet
      · exact .inl (List.mem_cons_of_mem _ hrest)
      · rcases List.mem_cons.mp hmet with rfl | hseen
        · exact .inl List.mem_cons_self
        · exact .inr hseen

end Walk

/-! ## ascents -/

/-- types from `start` upwards, each the superclass of the one before, and none of them twice -/
structure IsAscent (start : String) (types : List String) : Prop where
  starts : types.head? = some start
  steps : types.IsChain fun type above => h.superclass? type = some above
  nodup : types.Nodup

/-- an ascent that does not go on: its last type has no superclass, or one that is in it already -/
structure IsFullAscent (start : String) (types : List String) : Prop extends
    h.IsAscent start types where
  ends : ∀ last ∈ types.getLast?, ∀ above, h.superclass? last = some above → above ∈ types

section
variable {h} {start : String} {types : List String}

theorem Walk.isFullAscent (hwalk : h.Walk [] start types) : h.IsFullAscent start types where
  starts := hwalk.head?_eq List.not_mem_nil
  steps := hwalk.isChain
  nodup := hwalk.nodup
  ends last hlast above hs := (hwalk.superclass_last last hlast above hs).resolve_right
    List.not_mem_nil

/-- **A walk goes at least as far as any ascent** from the same type, if this does not meet a type the
walk has met: there is one way up only. -/
theorem Walk.ascent_prefix {seen ascent : List String} (hwalk : h.Walk seen start types)
    (hascent : h.IsAscent start ascent) (hfresh : ∀ type ∈ ascent, type ∉ seen) :
    ascent <+: types := by
  induction hwalk generalizing ascent with
  | again hmet =>
    exact absurd hmet (hfresh _ (List.mem_of_mem_head? hascent.starts))
  | top _ htop =>
    obtain ⟨rest, rfl⟩ := List.head?_eq_some_iff.mp hascent.starts
    cases rest with
    | nil => exact List.prefix_rfl
    | cons above rest =>
      have hup := (List.isChain_cons_cons.mp hascent.steps).1
      rw [htop] at hup
      cases hup
  | @up seen name above types _ hup _ ih =>
    obtain ⟨rest, rfl⟩ := List.head?_eq_some_iff.mp hascent.starts
    refine (List.prefix_cons_inj name).mpr ?_
    cases rest with
    | nil => exact List.nil_prefix
    | cons next rest =>
      obtain ⟨hnext, hsteps⟩ := List.isChain_cons_cons.mp hascent.steps
      obtain rfl := Option.some.inj (hup.symm.trans hnext)
      obtain ⟨hname, hnodup⟩ := List.nodup_cons.mp hascent.nodup
      refine ih ⟨rfl, hsteps, hnodup⟩ fun type htype hmet => ?_
      rcases List.mem_cons.mp hmet with rfl | hseen
      · exact hname htype
      · exact hfresh type (List.mem_cons_of_mem _ htype) hseen

theorem IsAscent.of_prefix {ascent : List String} (h' : h.IsAscent start types)
    (hfront : ascent <+: types) (hne : ascent ≠ []) : h.IsAscent start ascent where
  starts := by
    obtain ⟨rest, rfl⟩ := hfront
    rw [← h'.starts, List.head?_append_of_ne_nil _ hne]
  steps := h'.steps.prefix hfront
  nodup := h'.nodup.sublist hfront.sublist

theorem IsFullAscent.eq_of_prefix {ascent : List String} (h' : h.IsFullAscent start ascent)
    (hlong : h.IsAscent start types) (hfront : ascent <+: types) : ascent = types := by
  obtain ⟨rest, rfl⟩ := hfront
  cases rest with
  | nil => rw [List.append_nil]
  | cons next rest =>
    exfalso
    obtain ⟨last, hlast⟩ : ∃ last, ascent.getLast? = some last := by
      rw [← Option.isSome_iff_exists, List.getLast?_isSome]
      rintro rfl
      cases h'.starts
    -- the next type of a longer ascent would come twice
    have hup := (List.isChain_append.mp hlong.steps).2.2 last hlast next rfl
    have hagain := h'.ends last hlast next hup
    exact (List.disjoint_of_nodup_append hlong.nodup) hagain List.mem_cons_self

end

/-- **The walk along the superclasses is the longest ascent.**  A walk without a limit comes to an end
there, and more steps change nothing; the types it meets are the one full ascent from the start, and
the ascents from there are what it begins with.  It meets at most two types that are not known. -/
theorem ancestors_longest (start : String) :
    (∀ types, h.Walk [] start types ↔ types = h.ancestors start) ∧
      (∀ more, h.chain (h.size + 2 + more) [] start = h.ancestors start) ∧
      h.IsFullAscent start (h.ancestors start) ∧
      (∀ types, h.IsFullAscent start types ↔ types = h.ancestors start) ∧
      (∀ types, h.IsAscent start types ↔ types ≠ [] ∧ types <+: h.ancestors start) ∧
      (h.ancestors start).length ≤ h.size + 2 := by
  have hwalk : h.Walk [] start (h.ancestors start) := h.walk_chain (h.reach_nil_le start)
  have hfull := hwalk.isFullAscent
  have hfront : ∀ types, h.IsAscent start types → types <+: h.ancestors start :=
    fun types htypes => hwalk.ascent_prefix htypes fun _ _ => List.not_mem_nil
  refine ⟨fun types => ⟨fun h' => h'.unique hwalk, ?_⟩, fun more => ?_, hfull,
    fun types => ⟨fun h' => ?_, ?_⟩, fun types => ⟨fun h' => ⟨?_, hfront types h'⟩, ?_⟩, ?_⟩
  · rintro rfl
    exact hwalk
  · have hreach := h.reach_nil_le start
    exact (h.walk_chain (by omega)).unique hwalk
  · exact h'.eq_of_prefix hfull.toIsAscent (hfront types h'.toIsAscent)
  · rintro rfl
    exact hfull
  · rintro rfl
    cases h'.starts
  · rintro ⟨hne, hbegin⟩
    exact hfull.toIsAscent.of_prefix hbegin hne
  · exact Nat.le_trans hwalk.length_le (h.reach_nil_le start)

-- two known types, and one unknown array on either side of them: the bound is met
example : (ofTypes [("java.lang.Object", ⟨some "Slot", []⟩), ("Slot", ⟨some "Item[]", []⟩)]).ancestors
    "Slot[]" = ["Slot[]", "java.lang.Object", "Slot", "Item[]"] := by decide

end Hierarchy
end WireWrapper
