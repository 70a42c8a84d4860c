import Mathlib.Data.List.TakeWhile
import WireWrapper.Documented
import WireWrapper.Proofs.Text.Replaced

/-!
# A written number reads back

A number is written as `0x` and two or more hexadecimal digits in upper case.  Such a text holds no
blank, no plus sign and, behind its start, no `x`, so that all a reader takes away from it is the
`0x`; and digits of any width write their number.

* `upperDigit`                the digits that are written;
* `ofHex?_hex`                digits of any width read back;
* `trim_eq_self`              a text without blanks is not trimmed;
* `packetId?_idText`          every number of 32 bits reads back.
-/

namespace WireWrapper
namespace Text

/-! ## digits -/

def upperDigit (d : Nat) : Char := (Nat.digitChar d).toUpper

theorem hexValue?_upperDigit : ∀ d < 16, hexValue? (upperDigit d) = some d := by decide

theorem ofHexAfter?_append (value : Nat) (cs ds : List Char) :
    ofHexAfter? value (cs ++ ds) = (ofHexAfter? value cs).bind fun v => ofHexAfter? v ds := by
  induction cs generalizing value with
  | nil => rfl
  | cons c cs ih =>
    rw [List.cons_append, ofHexAfter?, ofHexAfter?]
    cases hexValue? c with
    | none => rfl
    | some digit => exact ih (16 * value + digit)

theorem ofHexAfter?_zeros (k : Nat) : ofHexAfter? 0 (List.replicate k '0') = some 0 := by
  induction k with
  | zero => rfl
  | succ k ih =>
    rw [List.replicate_succ, ofHexAfter?]
    exact ih

theorem hexDigits_step {n : Nat} (hn : 16 ≤ n) :
    (hexDigits n).map Char.toUpper
      = (hexDigits (n / 16)).map Char.toUpper ++ [upperDigit (n % 16)] := by
  rw [hexDigits, Nat.toDigits_of_base_le (by omega) hn, List.map_append]
  rfl

theorem hexDigits_digit {n : Nat} (hn : n < 16) :
    (hexDigits n).map Char.toUpper = [upperDigit n] := by
  rw [hexDigits, Nat.toDigits_of_lt_base hn]
  rfl

theorem ofHexAfter?_hexDigits (n : Nat) :
    ofHexAfter? 0 ((hexDigits n).map Char.toUpper) = some n := by
  induction n using Nat.strongRecOn with
  | _ n ih =>
    by_cases hn : n < 16
    · rw [hexDigits_digit hn, ofHexAfter?, hexValue?_upperDigit n hn, Option.bind_some, ofHexAfter?]
      simp
    · have hlast : n % 16 < 16 := by omega
      rw [hexDigits_step (by omega), ofHexAfter?_append, ih (n / 16) (by omega), Option.bind_some,
        ofHexAfter?, hexValue?_upperDigit _ hlast, Option.bind_some, ofHexAfter?]
      rw [Nat.div_add_mod]

theorem mem_hexDigits {n : Nat} {c : Char} (hc : c ∈ (hexDigits n).map Char.toUpper) :
    ∃ d < 16, c = upperDigit d := by
  induction n using Nat.strongRecOn with
  | _ n ih =>
    by_cases hn : n < 16
    · rw [hexDigits_digit hn] at hc
      exact ⟨n, hn, List.mem_singleton.mp hc⟩
    · rw [hexDigits_step (by omega)] at hc
      rcases List.mem_append.mp hc with hfront | hlast
      · exact ih (n / 16) (by omega) hfront
      · exact ⟨n % 16, by omega, List.mem_singleton.mp hlast⟩

theorem mem_hex {width n : Nat} {c : Char} (hc : c ∈ hex width n) : ∃ d < 16, c = upperDigit d := by
  rcases List.mem_append.mp hc with hzero | hdigit
  · exact ⟨0, by omega, List.eq_of_mem_replicate hzero⟩
  · exact mem_hexDigits hdigit

/-- **Digits of any width read back.** -/
theorem ofHex?_hex (width n : Nat) : ofHex? (hex width n) = some n := by
  have hvalue : ofHexAfter? 0 (hex width n) = some n := by
    rw [hex, ofHexAfter?_append, ofHexAfter?_zeros, Option.bind_some, ofHexAfter?_hexDigits]
  cases hcs : hex width n with
  | nil =>
    -- there is always a digit, be it a zero
    have hdigits : (hexDigits n).map Char.toUpper = [] := (List.append_eq_nil_iff.mp hcs).2
    by_cases hn : n < 16
    · rw [hexDigits_digit hn] at hdigits
      cases hdigits
    · rw [hexDigits_step (by omega)] at hdigits
      exact absurd hdigits (by simp)
  | cons c cs =>
    rw [hcs] at hvalue
    exact hvalue

theorem upperDigit_ne : ∀ d < 16, upperDigit d ≠ 'x' ∧ upperDigit d ≠ ' ' ∧ upperDigit d ≠ '+' ∧
    isBlank (upperDigit d) = false := by decide

/-! ## texts that nothing is taken from -/

theorem trim_eq_self {cs : List Char} (h : ∀ c ∈ cs, isBlank c = false) : trim cs = cs := by
  have hdrop : ∀ ds : List Char, (∀ c ∈ ds, isBlank c = false) → ds.dropWhile isBlank = ds := by
    intro ds hds
    cases ds with
    | nil => rfl
    | cons d ds => rw [List.dropWhile_cons_of_neg (by simp [hds d List.mem_cons_self])]
  rw [trim, trimStart, hdrop cs h, trimEnd, hdrop _ fun c hc => h c (List.mem_reverse.mp hc),
    List.reverse_reverse]

end Text

theorem afterLastSpace_eq_self {cs : List Char} (h : ∀ c ∈ cs, c ≠ ' ') :
    afterLastSpace cs = cs := by
  have hall : cs.reverse.takeWhile (· != ' ') = cs.reverse := by
    rw [List.takeWhile_eq_self_iff]
    intro c hc
    exact bne_iff_ne.mpr (h c (List.mem_reverse.mp hc))
  rw [afterLastSpace, hall, List.reverse_reverse]

theorem dropPlus_eq_self {cs : List Char} (h : ∀ c ∈ cs, c ≠ '+') : dropPlus cs = cs := by
  unfold dropPlus
  split
  · exact absurd rfl (h '+' List.mem_cons_self)
  · rfl

/-! ## numbers -/

/-- a number as documentation writes it -/
def idText (id : UInt32) : String := "0x" ++ String.ofList (Text.hex 2 id.toNat)

/-- **Every number reads back from its text.** -/
theorem packetId?_idText (id : UInt32) : packetId? (idText id) = some id := by
  have hdigit : ∀ c ∈ Text.hex 2 id.toNat, c ≠ 'x' ∧ c ≠ ' ' ∧ c ≠ '+' ∧ Text.isBlank c = false := by
    intro c hc
    obtain ⟨d, hd, rfl⟩ := Text.mem_hex hc
    exact Text.upperDigit_ne d hd
  have hstripped : Text.replace "0x".toList [] (idText id).toList = Text.hex 2 id.toNat := by
    have hx : 'x' ∈ ['0', 'x'] := by decide
    rw [idText, String.toList_append, String.toList_ofList, String.toList_ofList,
      Text.replace_occurrence (by decide), List.nil_append]
    exact Text.replace_eq_self (by decide) fun hmark => (hdigit 'x' (hmark.subset hx)).1 rfl
  rw [packetId?, hstripped, Text.trim_eq_self fun c hc => (hdigit c hc).2.2.2,
    afterLastSpace_eq_self fun c hc => (hdigit c hc).2.1,
    dropPlus_eq_self fun c hc => (hdigit c hc).2.2.1, Text.ofHex?_hex]
  dsimp only
  rw [if_pos id.toNat_lt_size, UInt32.ofNat_toNat]

end WireWrapper
