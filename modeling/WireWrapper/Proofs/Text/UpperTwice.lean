import WireWrapper.Proofs.Text.Rendered
import WireWrapper.Proofs.Text.UpperImages

/-!
# Upper case twice

A text in upper case is its own upper case: no image has an image other than itself, be it one of
several that a character becomes.  Single images are known to be such; the code points of the
sequences are looked up one by one.  No image is blank either, unless it is that of a blank.  So a
text without blanks at its ends has none there in upper case.

* `Own`                            a character that is its own upper case;
* `own_of_mem_upperChar`           all images are;
* `solid_upperChar`                and they are not blank where the character is not;
* `own_of_mem_upper`               hence all characters of a text in upper case;
* `upper_eq_self`                  and upper case leaves a text of such characters alone;
* `SolidEnds`, `upper_solidEnds`   texts without blanks at their ends;
* `trim_solidEnds`, `SolidEnds.trim_eq`   trimming makes them, and leaves them alone.
-/

namespace WireWrapper
namespace Text

/-! ## images -/

/-- a character that is its own upper case -/
def Own (c : Char) : Prop := upperChar c = [c]

instance (c : Char) : Decidable (Own c) := decEq (upperChar c) [c]

/-- no code point of a sequence has an image, and none is blank -/
def expansionIsOwn (entry : Nat × List Nat) : Bool :=
  entry.2.all fun n =>
    Nat.ble n 0xD7FF && Block.misses upperRuns n n 0 && Block.avoids upperExpansions n n
      && !inRanges blankRanges n

theorem expansions_own : upperExpansions.all expansionIsOwn = true := by decide +kernel

theorem own_of_expansion {entry : Nat × List Nat} (hentry : entry ∈ upperExpansions) {n : Nat}
    (hn : n ∈ entry.2) : Own (Char.ofNat n) ∧ isBlank (Char.ofNat n) = false := by
  have hchecked := List.all_eq_true.mp (List.all_eq_true.mp expansions_own _ hentry) n hn
  simp only [Bool.and_eq_true, Nat.ble_eq, Bool.not_eq_true'] at hchecked
  obtain ⟨⟨⟨hvalid, hmisses⟩, havoids⟩, hblank⟩ := hchecked
  have hcode : (Char.ofNat n).toNat = n := toNat_ofNat (by omega)
  -- a single code point is a block of one, whatever the step
  have hblock : n + 0 * 0 ≤ n := Nat.le_refl n
  have hrun : runImage upperRuns (n + 0 * 0) = none := Block.runImage_of_misses hblock hmisses
  rw [Nat.zero_mul, Nat.add_zero] at hrun
  constructor
  · rw [Own, upperChar, hcode, hrun,
      Block.expansion_of_avoids (Nat.le_refl n) (Nat.le_refl n) havoids]
  · rw [isBlank, hcode]
    exact hblank

/-- **An image is its own upper case.** -/
theorem own_of_mem_upperChar {c d : Char} (h : d ∈ upperChar c) : Own d := by
  rcases upperChar_cases c with ⟨image, himage, hsettled⟩ | ⟨ns, himage, hentry⟩ | hself
  · rw [himage, List.mem_singleton] at h
    rw [h]
    exact hsettled.2
  · rw [himage] at h
    obtain ⟨n, hn, rfl⟩ := List.mem_map.mp h
    exact (own_of_expansion hentry hn).1
  · rw [hself, List.mem_singleton] at h
    rw [h]
    exact hself

theorem not_blank_of_letter {c : Char} (hc : isAlphanumeric c = true) : isBlank c = false := by
  have hletters : ∀ {c : Char}, isBlank c = true → isAlphanumeric c = false :=
    forall_blank (P := fun c => isAlphanumeric c = false) (by decide +kernel)
  rw [Bool.eq_false_iff]
  intro hblank
  rw [hletters hblank] at hc
  cases hc

theorem solid_upperChar {c : Char} (hc : isBlank c = false) : IsSolid (upperChar c) := by
  intro d hd
  rcases upperChar_cases c with ⟨image, himage, hsettled⟩ | ⟨ns, himage, hentry⟩ | hself
  · rw [himage, List.mem_singleton] at hd
    rw [hd]
    exact not_blank_of_letter hsettled.1
  · rw [himage] at hd
    obtain ⟨n, hn, rfl⟩ := List.mem_map.mp hd
    exact (own_of_expansion hentry hn).2
  · rw [hself, List.mem_singleton] at hd
    rw [hd]
    exact hc

/-! ## texts -/

theorem upper_eq_self {cs : List Char} (h : ∀ c ∈ cs, Own c) : upper cs = cs := by
  induction cs with
  | nil => rfl
  | cons c cs ih =>
    obtain ⟨hc, hcs⟩ := List.forall_mem_cons.mp h
    rw [upper, List.flatMap_cons, hc]
    exact congrArg (c :: ·) (ih hcs)

theorem own_of_mem_upper {cs : List Char} {d : Char} (h : d ∈ upper cs) : Own d := by
  obtain ⟨c, -, hd⟩ := List.mem_flatMap.mp h
  exact own_of_mem_upperChar hd

/-! ## ends -/

/-- no blank at either end -/
structure SolidEnds (cs : List Char) : Prop where
  head : ∀ c ∈ cs.head?, isBlank c = false
  last : ∀ c ∈ cs.getLast?, isBlank c = false

namespace SolidEnds
variable {cs : List Char}

theorem map (h : SolidEnds cs) {f : Char → Char}
    (hf : ∀ c, isBlank c = false → isBlank (f c) = false) : SolidEnds (cs.map f) := by
  constructor
  · intro d hd
    rw [List.head?_map] at hd
    obtain ⟨c, hc, rfl⟩ := Option.map_eq_some_iff.mp hd
    exact hf c (h.head c hc)
  · intro d hd
    rw [List.getLast?_map] at hd
    obtain ⟨c, hc, rfl⟩ := Option.map_eq_some_iff.mp hd
    exact hf c (h.last c hc)

end SolidEnds

/-- the first character in upper case begins the text in upper case, and the last one ends it -/
theorem upper_solidEnds {cs : List Char} (h : SolidEnds cs) : SolidEnds (upper cs) := by
  constructor
  · intro d hd
    cases cs with
    | nil => cases hd
    | cons c cs =>
      obtain ⟨e, es, himage⟩ := List.exists_cons_of_ne_nil (upperChar_ne_nil c)
      rw [upper, List.flatMap_cons, himage] at hd
      obtain rfl : e = d := Option.some.inj hd
      exact solid_upperChar (h.head c rfl) e (himage ▸ List.mem_cons_self)
  · intro d hd
    rcases List.eq_nil_or_concat' cs with rfl | ⟨front, c, rfl⟩
    · cases hd
    · have hlast : d ∈ (upperChar c).getLast? := by
        rwa [upper, List.flatMap_append, List.flatMap_singleton, List.getLast?_append,
          Option.or_of_isSome (List.getLast?_isSome.mpr (upperChar_ne_nil c))] at hd
      exact solid_upperChar (h.last c (by simp)) d (List.mem_of_getLast? hlast)

theorem head?_trim {cs : List Char} {c : Char} (h : c ∈ (trim cs).head?) : isBlank c = false := by
  obtain ⟨rest, hrest⟩ := List.head?_eq_some_iff.mp h
  obtain ⟨back, hback⟩ : trim cs <+: trimStart cs := by
    rw [← List.reverse_suffix, trim, trimEnd, List.reverse_reverse]
    exact List.dropWhile_suffix _
  rw [hrest, trimStart] at hback
  have hhead := List.head?_dropWhile_not isBlank cs
  rw [← hback] at hhead
  exact hhead

theorem trim_solidEnds (cs : List Char) : SolidEnds (trim cs) :=
  ⟨fun _ => head?_trim, fun _ => getLast?_trim⟩

theorem SolidEnds.trim_eq {cs : List Char} (h : SolidEnds cs) : trim cs = cs := by
  cases cs with
  | nil => rfl
  | cons c cs => exact trim_append_solid (h.head c rfl) (fun d => h.last d) []

end Text
end WireWrapper
