import Mathlib.Data.List.Basic
import WireWrapper.Text.Alphanumeric
import WireWrapper.Proofs.Text.CaseImages

/-!
# What an upper case begins with

The first character of an upper case is a letter that is its own upper case.  What follows it, where
one character becomes several, is a letter too or one of eight combining marks, and these marks come
from twenty-six letters only.

The images of a run lie in an interval, in equal steps.  Such a block is checked against a table in one
walk, however many code points are in it: against the alphanumeric ranges by its two ends, against the
runs by its remainder.

* `Block`, `Block.Holds`     code points in equal steps, and those among them;
* `Settled`                  a letter that is its own upper case;
* `Block.settled_of_checked`   what the walks over the tables find out;
* `combiningMarks`, `markedLetters`   the marks, and the letters they come from;
* `exists_settled_head`      the upper case of a letter begins with a settled one;
* `mem_tail_upperChar`       and goes on with letters and marks;
* `alphanumeric_of_mem_tail`, `exists_mark_of_marked`   with marks behind marked letters only.
-/

namespace WireWrapper
namespace Text

/-! ## blocks of code points -/

/-- code points from `first` to `last` in equal steps; with steps of zero only the first -/
structure Block where
  first : Nat
  last : Nat
  step : Nat

namespace Block

def Holds (b : Block) (n : Nat) : Prop := n ≤ b.last ∧ ∃ k, n = b.first + b.step * k

-- the walks are made of `bif` and `Nat.ble`, which the kernel computes at once

/-- the ranges hold the whole block; what reaches past a range is looked for in the later ones -/
def within : List (Nat × Nat) → (first last step : Nat) → Bool
  | [], _, _, _ => false
  | range :: rest, first, last, step =>
    bif Nat.ble range.1 first then
      bif Nat.ble first range.2 then
        Nat.ble last range.2 ||
          within rest (first + step * ((range.2 - first) / step + 1)) last step
      else within rest first last step
    else false

/-- no run maps a code point of the block -/
def misses : List (Nat × Nat × Nat × Nat) → (first last step : Nat) → Bool
  | [], _, _, _ => true
  | run :: rest, first, last, step =>
    bif Nat.ble first run.2.1 then
      bif Nat.ble run.1 last then
        Nat.beq (step % run.2.2.1) 0 && !Nat.beq (first % run.2.2.1) (run.1 % run.2.2.1)
          && misses rest first last step
      else true
    else misses rest first last step

/-- no code point from the first to the last has an expansion -/
def avoids (table : List (Nat × List Nat)) (first last : Nat) : Bool :=
  table.all fun entry => !(Nat.ble first entry.1 && Nat.ble entry.1 last)

/-- all code points of a block are letters, and none has an image -/
def checked (b : Block) : Bool :=
  within alphanumericRanges b.first b.last b.step && misses upperRuns b.first b.last b.step
    && avoids upperExpansions b.first b.last

/-- the images of a run -/
def ofRun (run : Nat × Nat × Nat × Nat) : Block :=
  ⟨run.2.2.2, run.2.2.2 + (run.2.1 - run.1), if run.1 = run.2.1 then 0 else run.2.2.1⟩

theorem exists_steps_behind {first step k hi : Nat} (hfirst : first ≤ hi)
    (hhi : hi < first + step * k) :
    ∃ j, first + step * k = first + step * ((hi - first) / step + 1) + step * j := by
  have hk : (hi - first) / step < k := Nat.div_lt_of_lt_mul (by omega)
  refine ⟨k - ((hi - first) / step + 1), ?_⟩
  rw [Nat.add_assoc, ← Nat.mul_add, Nat.add_sub_cancel' hk]

theorem add_mul_mod_of_mod_eq_zero {step stride : Nat} (hstep : step % stride = 0)
    (first k : Nat) : (first + step * k) % stride = first % stride := by
  obtain ⟨m, rfl⟩ := Nat.dvd_of_mod_eq_zero hstep
  rw [Nat.mul_assoc, Nat.add_mul_mod_self_left]

theorem inRanges_of_within {ranges : List (Nat × Nat)} {first last step k : Nat}
    (hlast : first + step * k ≤ last) (h : within ranges first last step = true) :
    inRanges ranges (first + step * k) = true := by
  induction ranges generalizing first k with
  | nil => cases h
  | cons range rest ih =>
    simp only [within, Bool.cond_eq_ite, Nat.ble_eq] at h
    rw [inRanges]
    split at h
    · next hlo =>
      rw [if_neg (by omega)]
      split at h
      · next hhi =>
        rw [Bool.or_eq_true, Nat.ble_eq] at h
        by_cases hin : first + step * k ≤ range.2
        · rw [if_pos hin]
        rw [if_neg hin]
        obtain ⟨j, hj⟩ := exists_steps_behind hhi (Nat.lt_of_not_le hin)
        rw [hj] at hlast ⊢
        exact ih hlast (h.resolve_left (by omega))
      · next hhi =>
        rw [if_neg (by omega)]
        exact ih hlast h
    · cases h

theorem runImage_of_misses {runs : List (Nat × Nat × Nat × Nat)} {first last step k : Nat}
    (hlast : first + step * k ≤ last) (h : misses runs first last step = true) :
    runImage runs (first + step * k) = none := by
  induction runs with
  | nil => rfl
  | cons run rest ih =>
    obtain ⟨lo, hi, stride, image⟩ := run
    simp only [misses, Bool.cond_eq_ite, Nat.ble_eq] at h
    rw [runImage]
    by_cases hlo : first + step * k < lo
    · rw [if_pos hlo]
    rw [if_neg hlo]
    split at h
    · rw [if_pos (by omega)] at h
      simp only [Bool.and_eq_true, Nat.beq_eq, Bool.not_eq_true'] at h
      obtain ⟨⟨hstep, hmod⟩, hrest⟩ := h
      split
      · rw [if_neg]
        intro hzero
        -- the block and the run leave different remainders, all along
        obtain ⟨j, hj⟩ := Nat.dvd_of_mod_eq_zero hzero
        have hsum : first + step * k = lo + stride * j := by omega
        have hsame : first % stride = lo % stride := by
          rw [← add_mul_mod_of_mod_eq_zero hstep first k, hsum, Nat.add_mul_mod_self_left]
        exact Nat.ne_of_beq_eq_false hmod hsame
      · exact ih hrest
    · rw [if_neg (by omega)]
      exact ih h

theorem expansion_of_avoids {table : List (Nat × List Nat)} {first last n : Nat}
    (hfirst : first ≤ n) (hlast : n ≤ last) (h : avoids table first last = true) :
    expansion table n = none := by
  cases himage : expansion table n with
  | none => rfl
  | some image =>
    have hentry := List.all_eq_true.mp h _ (expansion_mem himage)
    simp only [Bool.not_eq_true', Bool.and_eq_false_iff] at hentry
    rcases hentry with hentry | hentry
    · exact absurd (Nat.ble_eq.mpr hfirst) (by simp [hentry])
    · exact absurd (Nat.ble_eq.mpr hlast) (by simp [hentry])

theorem exists_ofRun_of_runImage {runs : List (Nat × Nat × Nat × Nat)} {n image : Nat}
    (h : runImage runs n = some image) : ∃ run ∈ runs, (ofRun run).Holds image := by
  obtain ⟨⟨lo, hi, stride, start⟩, hrun, hlo, hhi, hzero, rfl⟩ := runImage_eq_some h
  dsimp only at hlo hhi hzero
  refine ⟨_, hrun, ?_, ?_⟩
  · show start + (n - lo) ≤ start + (hi - lo)
    omega
  · obtain ⟨k, hk⟩ := Nat.dvd_of_mod_eq_zero hzero
    show ∃ k, start + (n - lo) = start + (if lo = hi then 0 else stride) * k
    split
    · exact ⟨0, by omega⟩
    · exact ⟨k, congrArg (start + ·) hk⟩

end Block

/-! ## settled letters -/

theorem toNat_ofNat_of_inRanges {n : Nat} (h : inRanges alphanumericRanges n = true) :
    (Char.ofNat n).toNat = n := by
  have hvalid : (alphanumericRanges.all fun range =>
      Nat.ble range.2 0xD7FF || Nat.ble 0xE000 range.1 && Nat.ble range.2 0x10FFFF) = true := by
    decide +kernel
  obtain ⟨range, hrange, hlo, hhi⟩ := exists_of_inRanges h
  have hbounds := List.all_eq_true.mp hvalid range hrange
  simp only [Bool.or_eq_true, Bool.and_eq_true, Nat.ble_eq] at hbounds
  exact toNat_ofNat (by omega)

/-- a letter that is its own upper case -/
def Settled (c : Char) : Prop := isAlphanumeric c = true ∧ upperChar c = [c]

theorem Block.settled_of_checked {b : Block} (h : b.checked = true) {n : Nat} (hn : b.Holds n) :
    Settled (Char.ofNat n) := by
  obtain ⟨hlast, k, rfl⟩ := hn
  simp only [Block.checked, Bool.and_eq_true] at h
  obtain ⟨⟨hwithin, hmisses⟩, havoids⟩ := h
  have hletter := inRanges_of_within hlast hwithin
  have hcode := toNat_ofNat_of_inRanges hletter
  constructor
  · rw [isAlphanumeric, hcode]
    exact hletter
  · rw [upperChar, hcode, runImage_of_misses hlast hmisses,
      expansion_of_avoids (Nat.le_add_right ..) hlast havoids]

/-! ## images -/

/-- what stands behind a letter in the upper case of another, and is no letter itself -/
def combiningMarks : List Char :=
  ['\u0300', '\u0301', '\u0308', '\u030A', '\u030C', '\u0313', '\u0331', '\u0342']

/-- the letters whose upper case is a letter with marks -/
def markedLetters : List Char :=
  ['\u01F0', '\u0390', '\u03B0', '\u1E96', '\u1E97', '\u1E98', '\u1E99', '\u1F50', '\u1F52',
    '\u1F54', '\u1F56', '\u1FB6', '\u1FB7', '\u1FC6', '\u1FC7', '\u1FD2', '\u1FD3', '\u1FD6',
    '\u1FD7', '\u1FE2', '\u1FE3', '\u1FE4', '\u1FE6', '\u1FE7', '\u1FF6', '\u1FF7']

theorem runs_checked : (upperRuns.map Block.ofRun).all Block.checked = true := by decide +kernel

/-- what is to be seen of a sequence in the table: it begins with a settled letter, goes on with
letters and marks, and there are marks only if the character is one of the marked letters -/
def expansionChecked (entry : Nat × List Nat) : Bool :=
  (entry.2.head?.any fun n => (Block.mk n n 0).checked)
    && (entry.2.map Char.ofNat).tail.all (fun d => isAlphanumeric d || combiningMarks.contains d)
    && ((entry.2.map Char.ofNat).tail.all isAlphanumeric
      || markedLetters.contains (Char.ofNat entry.1))

theorem expansions_checked : upperExpansions.all expansionChecked = true := by decide +kernel

/-- the upper case of a character: one image, a sequence of the table, or the character itself -/
theorem upperChar_cases (c : Char) :
    (∃ d, upperChar c = [d] ∧ Settled d) ∨
      (∃ ns, upperChar c = ns.map Char.ofNat ∧ (c.toNat, ns) ∈ upperExpansions) ∨
      upperChar c = [c] := by
  cases hrun : runImage upperRuns c.toNat with
  | some n =>
    obtain ⟨run, hrun', hholds⟩ := Block.exists_ofRun_of_runImage hrun
    have hchecked := List.all_eq_true.mp runs_checked _ (List.mem_map_of_mem hrun')
    refine .inl ⟨Char.ofNat n, ?_, Block.settled_of_checked hchecked hholds⟩
    rw [upperChar, hrun]
  | none =>
    cases himage : expansion upperExpansions c.toNat with
    | some ns =>
      refine .inr (.inl ⟨ns, ?_, expansion_mem himage⟩)
      rw [upperChar, hrun, himage]
    | none =>
      refine .inr (.inr ?_)
      rw [upperChar, hrun, himage]

theorem exists_settled_head {c : Char} (hc : isAlphanumeric c = true) :
    ∃ d ds, upperChar c = d :: ds ∧ Settled d := by
  rcases upperChar_cases c with ⟨d, himage, hd⟩ | ⟨ns, himage, hentry⟩ | hself
  · exact ⟨d, [], himage, hd⟩
  · have hchecked := List.all_eq_true.mp expansions_checked _ hentry
    simp only [expansionChecked, Bool.and_eq_true] at hchecked
    obtain ⟨⟨hhead, -⟩, -⟩ := hchecked
    cases ns with
    | nil => cases hhead
    | cons n ns =>
      exact ⟨Char.ofNat n, ns.map Char.ofNat, himage,
        Block.settled_of_checked hhead ⟨Nat.le_refl n, 0, rfl⟩⟩
  · exact ⟨c, [], hself, hc, hself⟩

theorem mem_tail_upperChar {c d : Char} (hd : d ∈ (upperChar c).tail) :
    isAlphanumeric d = true ∨ d ∈ combiningMarks := by
  rcases upperChar_cases c with ⟨_, himage, -⟩ | ⟨ns, himage, hentry⟩ | hself
  · rw [himage] at hd
    cases hd
  · have hchecked := List.all_eq_true.mp expansions_checked _ hentry
    simp only [expansionChecked, Bool.and_eq_true] at hchecked
    rw [himage] at hd
    have hmark := List.all_eq_true.mp hchecked.1.2 d hd
    rwa [Bool.or_eq_true, List.contains_iff_mem] at hmark
  · rw [hself] at hd
    cases hd

theorem alphanumeric_of_mem_tail {c d : Char} (hc : c ∉ markedLetters)
    (hd : d ∈ (upperChar c).tail) : isAlphanumeric d = true := by
  rcases upperChar_cases c with ⟨_, himage, -⟩ | ⟨ns, himage, hentry⟩ | hself
  · rw [himage] at hd
    cases hd
  · have hchecked := List.all_eq_true.mp expansions_checked _ hentry
    simp only [expansionChecked, Bool.and_eq_true, Bool.or_eq_true, List.contains_iff_mem,
      Char.ofNat_toNat] at hchecked
    rw [himage] at hd
    exact List.all_eq_true.mp (hchecked.2.resolve_right hc) d hd
  · rw [hself] at hd
    cases hd

theorem exists_mark_of_marked {c : Char} (hc : c ∈ markedLetters) :
    ∃ mark ∈ (upperChar c).tail, mark ∈ combiningMarks := by
  have hall : (markedLetters.all fun c => (upperChar c).tail.any combiningMarks.contains) = true := by
    decide +kernel
  obtain ⟨mark, hin, hmark⟩ := List.any_eq_true.mp (List.all_eq_true.mp hall c hc)
  exact ⟨mark, hin, List.contains_iff_mem.mp hmark⟩

end Text
end WireWrapper
