import Mathlib.Data.List.Basic
import WireWrapper.Proofs.Text.CaseImages

/-!
# Letters that become ASCII

A character with an image in ASCII is mostly in ASCII itself.  Ten letters have an upper case of ASCII
letters without being one, long s and dotless i and eight ligatures; the Kelvin sign has such a lower
case, and no other character does.

A run takes code points past ASCII to code points past ASCII, unless it is a run of one code point and
this is one of the letters.

* `asciiUppers`, `asciiLowers`       these letters;
* `keepsForeign`                     what is checked of a run;
* `lt_or_mem_of_runImage`            what a checked run leaves;
* `lt_or_mem_of_upperChar`, `lt_or_mem_of_lowerChar`   for all characters.
-/

namespace WireWrapper
namespace Text

/-- the letters past ASCII with an upper case of ASCII letters -/
def asciiUppers : List Char := ['ß', 'ı', 'ſ', 'ﬀ', 'ﬁ', 'ﬂ', 'ﬃ', 'ﬄ', 'ﬅ', 'ﬆ']

/-- the letters past ASCII with a lower case of ASCII letters; this is the Kelvin sign -/
def asciiLowers : List Char := ['\u212A']

/-! ## tables -/

/-- a run in ASCII, a run with characters past ASCII for images, or a run of one given letter -/
def keepsForeign (letters : List Char) (run : Nat × Nat × Nat × Nat) : Bool :=
  Nat.ble run.2.1 127 ||
    (Nat.ble 128 run.2.2.2 &&
      (Nat.ble (run.2.2.2 + (run.2.1 - run.1)) 0xD7FF ||
        Nat.ble 0xE000 run.2.2.2 && Nat.ble (run.2.2.2 + (run.2.1 - run.1)) 0x10FFFF)) ||
    (Nat.beq run.1 run.2.1 && letters.contains (Char.ofNat run.1))

/-- a sequence with a character past ASCII in it, or that of a given letter -/
def expansionKeepsForeign (letters : List Char) (entry : Nat × List Nat) : Bool :=
  entry.2.any (fun n => Nat.ble 128 (Char.ofNat n).toNat) || letters.contains (Char.ofNat entry.1)

theorem lt_or_mem_of_runImage {runs : List (Nat × Nat × Nat × Nat)} {letters : List Char}
    (hruns : runs.all (keepsForeign letters) = true) {c : Char} {n : Nat}
    (h : runImage runs c.toNat = some n) (hn : (Char.ofNat n).toNat < 128) :
    c.toNat < 128 ∨ c ∈ letters := by
  obtain ⟨run, hrun, hfirst, hlast, -, himage⟩ := runImage_eq_some h
  have hchecked := List.all_eq_true.mp hruns run hrun
  simp only [keepsForeign, Bool.or_eq_true, Bool.and_eq_true, Nat.ble_eq, Nat.beq_eq] at hchecked
  rcases hchecked with (hascii | ⟨hpast, hvalid⟩) | ⟨hone, hletter⟩
  · exact .inl (by omega)
  · have hcode : (Char.ofNat n).toNat = n := toNat_ofNat (by omega)
    omega
  · have hfirst : run.1 = c.toNat := by omega
    rw [hfirst, Char.ofNat_toNat, List.contains_iff_mem] at hletter
    exact .inr hletter

/-! ## characters -/

/-- what becomes ASCII in upper case is ASCII or one of ten letters -/
theorem lt_or_mem_of_upperChar {c : Char} (h : ∀ d ∈ upperChar c, d.toNat < 128) :
    c.toNat < 128 ∨ c ∈ asciiUppers := by
  have hruns : upperRuns.all (keepsForeign asciiUppers) = true := by decide +kernel
  have hexpansions : upperExpansions.all (expansionKeepsForeign asciiUppers) = true := by
    decide +kernel
  cases hrun : runImage upperRuns c.toNat with
  | some n =>
    rw [upperChar, hrun] at h
    exact lt_or_mem_of_runImage hruns hrun (h _ List.mem_cons_self)
  | none =>
    rw [upperChar, hrun] at h
    cases himage : expansion upperExpansions c.toNat with
    | some ns =>
      rw [himage] at h
      have hchecked := List.all_eq_true.mp hexpansions _ (expansion_mem himage)
      simp only [expansionKeepsForeign, Bool.or_eq_true, List.any_eq_true, Nat.ble_eq,
        List.contains_iff_mem, Char.ofNat_toNat] at hchecked
      refine .inr (hchecked.resolve_left ?_)
      rintro ⟨n, hn, hpast⟩
      have hsmall := h (Char.ofNat n) (List.mem_map_of_mem hn)
      omega
    | none =>
      rw [himage] at h
      exact .inl (h c List.mem_cons_self)

/-- what becomes ASCII in lower case is ASCII or the Kelvin sign -/
theorem lt_or_mem_of_lowerChar {c : Char} (h : ∀ d ∈ lowerChar c, d.toNat < 128) :
    c.toNat < 128 ∨ c ∈ asciiLowers := by
  have hruns : lowerRuns.all (keepsForeign asciiLowers) = true := by decide +kernel
  cases hrun : runImage lowerRuns c.toNat with
  | some n =>
    rw [lowerChar, hrun] at h
    exact lt_or_mem_of_runImage hruns hrun (h _ List.mem_cons_self)
  | none =>
    rw [lowerChar, hrun] at h
    by_cases hdotted : c = 'İ'
    · -- the dot of this letter stays behind
      rw [hdotted] at h
      exact absurd (h '\u0307' (by decide)) (by decide)
    · dsimp only at h
      rw [if_neg hdotted] at h
      exact .inl (h c List.mem_cons_self)

end Text
end WireWrapper
