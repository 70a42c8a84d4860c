import Mathlib.Data.List.Basic
import WireWrapper.Text.Blank
import WireWrapper.Text.Case

/-!
# Images of case mapping

The tables map letters to letters.  So whatever a character becomes, no mark of punctuation, no blank
and no digit comes in by it, and it does not disappear.

* `runImage_eq_some`, `expansion_mem`   an image comes from an entry of its table;
* `mem_upperChar`, `mem_lowerChar`    what an image consists of: letters, or the character itself;
* `forall_blank`                      what is to be checked for all blanks;
* `lowerChar_blank`, `lower_solid`    no blank has an image, and none is one;
* `mem_lower`                         what a text in lower case consists of;
* `upperChar_ne_nil`, `lowerChar_ne_nil`   it consists of something.
-/

namespace WireWrapper
namespace Text

/-! ## tables -/

theorem runImage_eq_some {runs : List (Nat × Nat × Nat × Nat)} {n image : Nat}
    (h : runImage runs n = some image) :
    ∃ run ∈ runs, run.1 ≤ n ∧ n ≤ run.2.1 ∧ (n - run.1) % run.2.2.1 = 0 ∧
      run.2.2.2 + (n - run.1) = image := by
  induction runs with
  | nil => cases h
  | cons run runs ih =>
    obtain ⟨first, last, step, start⟩ := run
    rw [runImage] at h
    split at h
    · cases h
    · next hfirst =>
      split at h
      · next hlast =>
        split at h
        · next hstep =>
          exact ⟨_, List.mem_cons_self, Nat.le_of_not_lt hfirst, hlast, hstep, Option.some.inj h⟩
        · cases h
      · obtain ⟨run, hrun, himage⟩ := ih h
        exact ⟨run, List.mem_cons_of_mem _ hrun, himage⟩

theorem runImage_mem {runs : List (Nat × Nat × Nat × Nat)} {n image : Nat}
    (h : runImage runs n = some image) :
    ∃ run ∈ runs, run.2.2.2 ≤ image ∧ image ≤ run.2.2.2 + (run.2.1 - run.1) := by
  obtain ⟨run, hrun, hfirst, hlast, -, himage⟩ := runImage_eq_some h
  exact ⟨run, hrun, by omega, by omega⟩

theorem expansion_mem {table : List (Nat × List Nat)} {n : Nat} {image : List Nat}
    (h : expansion table n = some image) : (n, image) ∈ table := by
  induction table with
  | nil => cases h
  | cons entry table ih =>
    rw [expansion] at h
    split at h
    · cases h
    · split at h
      · next heq =>
        obtain rfl := Option.some.inj h
        rw [heq]
        exact List.mem_cons_self
      · exact List.mem_cons_of_mem _ (ih h)

theorem toNat_ofNat_eq_or (n : Nat) : (Char.ofNat n).toNat = 0 ∨ (Char.ofNat n).toNat = n := by
  unfold Char.ofNat
  by_cases hvalid : n.isValidChar
  · rw [dif_pos hvalid]
    exact .inr rfl
  · rw [dif_neg hvalid]
    exact .inl rfl

theorem toNat_ofNat {n : Nat} (h : n < 0xD800 ∨ 0xDFFF < n ∧ n < 0x110000) :
    (Char.ofNat n).toNat = n := by
  have hvalid : n.isValidChar := h
  rw [Char.ofNat, dif_pos hvalid]
  rfl

theorem le_toNat_ofNat {bound n : Nat} (h : bound ≤ n) :
    (Char.ofNat n).toNat = 0 ∨ bound ≤ (Char.ofNat n).toNat := by
  have hcode := toNat_ofNat_eq_or n
  omega

/-! ## characters -/

/-- the upper case of a character is this character, or past all marks of punctuation in use here -/
theorem mem_upperChar {c d : Char} (h : d ∈ upperChar c) :
    d = c ∨ d.toNat = 0 ∨ 'A'.toNat ≤ d.toNat := by
  have hletters : (∀ run ∈ upperRuns, 'A'.toNat ≤ run.2.2.2) ∧
      ∀ entry ∈ upperExpansions, ∀ n ∈ entry.2, 'A'.toNat ≤ n := by decide +kernel
  rw [upperChar] at h
  split at h
  · next n hn =>
    obtain ⟨run, hrun, hle, -⟩ := runImage_mem hn
    rw [List.mem_singleton.mp h]
    exact .inr (le_toNat_ofNat (Nat.le_trans (hletters.1 run hrun) hle))
  · split at h
    · next ns hns =>
      obtain ⟨n, hn, rfl⟩ := List.mem_map.mp h
      exact .inr (le_toNat_ofNat (hletters.2 _ (expansion_mem hns) n hn))
    · exact .inl (List.mem_singleton.mp h)

theorem mem_lowerChar {c d : Char} (h : d ∈ lowerChar c) :
    d = c ∨ d.toNat = 0 ∨ 'a'.toNat ≤ d.toNat := by
  have hletters : ∀ run ∈ lowerRuns, 'a'.toNat ≤ run.2.2.2 := by decide +kernel
  rw [lowerChar] at h
  split at h
  · next n hn =>
    obtain ⟨run, hrun, hle, -⟩ := runImage_mem hn
    rw [List.mem_singleton.mp h]
    exact .inr (le_toNat_ofNat (Nat.le_trans (hletters run hrun) hle))
  · split at h
    · rcases List.mem_pair.mp h with rfl | rfl
      · exact .inr (.inr (by decide))
      · exact .inr (.inr (by decide))
    · exact .inl (List.mem_singleton.mp h)

theorem mem_lowerAfter {before cs : List Char} {d : Char} (h : d ∈ lowerAfter before cs) :
    ('Σ' ∈ cs ∧ (d = 'ς' ∨ d = 'σ')) ∨ ∃ c ∈ cs, d ∈ lowerChar c := by
  induction cs generalizing before with
  | nil => cases h
  | cons c cs ih =>
    rw [lowerAfter] at h
    split at h
    · next hsigma =>
      rcases List.mem_cons.mp h with h | h
      · refine .inl ⟨hsigma ▸ List.mem_cons_self, ?_⟩
        rw [h, lowerSigma]
        split
        · exact .inl rfl
        · exact .inr rfl
      · refine (ih h).imp (And.imp_left (List.mem_cons_of_mem c)) ?_
        rintro ⟨b, hb, hd⟩
        exact ⟨b, List.mem_cons_of_mem c hb, hd⟩
    · rcases List.mem_append.mp h with h | h
      · exact .inr ⟨c, List.mem_cons_self, h⟩
      · refine (ih h).imp (And.imp_left (List.mem_cons_of_mem c)) ?_
        rintro ⟨b, hb, hd⟩
        exact ⟨b, List.mem_cons_of_mem c hb, hd⟩

/-- a text in lower case consists of its characters in lower case, unless there is a sigma in it -/
theorem mem_lower {cs : List Char} {d : Char} (h : d ∈ lower cs) :
    ('Σ' ∈ cs ∧ (d = 'ς' ∨ d = 'σ')) ∨ ∃ c ∈ cs, d ∈ lowerChar c := mem_lowerAfter h

theorem mem_upperChar_eq {c d : Char} (h : d ∈ upperChar c) (hpos : 0 < d.toNat)
    (hlt : d.toNat < 'A'.toNat) : d = c := by
  rcases mem_upperChar h with h | h | h
  · exact h
  · omega
  · omega

theorem mem_lowerChar_eq {c d : Char} (h : d ∈ lowerChar c) (hpos : 0 < d.toNat)
    (hlt : d.toNat < 'a'.toNat) : d = c := by
  rcases mem_lowerChar h with h | h | h
  · exact h
  · omega
  · omega

/-! ## blanks -/

theorem exists_of_inRanges {ranges : List (Nat × Nat)} {n : Nat}
    (h : inRanges ranges n = true) : ∃ range ∈ ranges, range.1 ≤ n ∧ n ≤ range.2 := by
  induction ranges with
  | nil => cases h
  | cons range ranges ih =>
    obtain ⟨lo, hi⟩ := range
    rw [inRanges] at h
    split at h
    · cases h
    · next hlo =>
      split at h
      · next hhi => exact ⟨_, List.mem_cons_self, Nat.le_of_not_lt hlo, hhi⟩
      · obtain ⟨range, hrange, hn⟩ := ih h
        exact ⟨range, List.mem_cons_of_mem _ hrange, hn⟩

/-- the blanks are few: what holds of each code point in their ranges holds of all of them -/
theorem forall_blank {P : Char → Prop}
    (h : ∀ range ∈ blankRanges, ∀ n ∈ List.range' range.1 (range.2 + 1 - range.1), P (Char.ofNat n))
    {c : Char} (hc : isBlank c = true) : P c := by
  obtain ⟨range, hrange, hlo, hhi⟩ := exists_of_inRanges hc
  have hown := h range hrange c.toNat (List.mem_range'_1.mpr ⟨hlo, by omega⟩)
  rwa [Char.ofNat_toNat] at hown

/-- a blank has no case -/
theorem lowerChar_blank {c : Char} (hc : isBlank c = true) : lowerChar c = [c] :=
  forall_blank (P := fun c => lowerChar c = [c]) (by decide) hc

theorem eq_of_mem_lowerChar_blank {c d : Char} (h : d ∈ lowerChar c) (hd : isBlank d = true) :
    d = c := by
  have hapart : ∀ run ∈ lowerRuns, ∀ range ∈ blankRanges, 0 < range.1 ∧
      (run.2.2.2 + (run.2.1 - run.1) < range.1 ∨ range.2 < run.2.2.2) := by decide +kernel
  rw [lowerChar] at h
  split at h
  · next n hn =>
    obtain ⟨run, hrun, hlo, hhi⟩ := runImage_mem hn
    obtain ⟨range, hrange, hge, hle⟩ := exists_of_inRanges hd
    have hfar := hapart run hrun range hrange
    have hcode := toNat_ofNat_eq_or n
    rw [List.mem_singleton.mp h] at hge hle
    omega
  · split at h
    · rcases List.mem_pair.mp h with rfl | rfl
      · exact absurd hd (by decide)
      · exact absurd hd (by decide)
    · exact List.mem_singleton.mp h

theorem lower_solid {cs : List Char} (h : ∀ c ∈ cs, isBlank c = false) :
    ∀ d ∈ lower cs, isBlank d = false := by
  intro d hd
  rcases mem_lower hd with ⟨-, rfl | rfl⟩ | ⟨c, hc, hdc⟩
  · decide
  · decide
  · by_contra hd
    have hblank : isBlank d = true := eq_true_of_ne_false hd
    rw [eq_of_mem_lowerChar_blank hdc hblank, h c hc] at hblank
    cases hblank

/-! ## nothing disappears -/

theorem upperChar_ne_nil (c : Char) : upperChar c ≠ [] := by
  rw [upperChar]
  split
  · exact List.cons_ne_nil _ _
  · split
    · next ns hns =>
      have hall : ∀ entry ∈ upperExpansions, entry.2 ≠ [] := by decide +kernel
      exact mt List.map_eq_nil_iff.mp (hall _ (expansion_mem hns))
    · exact List.cons_ne_nil _ _

theorem lowerChar_ne_nil (c : Char) : lowerChar c ≠ [] := by
  rw [lowerChar]
  split
  · exact List.cons_ne_nil _ _
  · split <;> exact List.cons_ne_nil _ _

end Text
end WireWrapper
