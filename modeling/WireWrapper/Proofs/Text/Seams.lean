import WireWrapper.Proofs.Text.CaseImages
import WireWrapper.Proofs.Text.Rendered
import WireWrapper.Proofs.Text.Replaced

/-!
# Texts cut at a blank

A blank has no case, ends what a final sigma looks at, and stands in hardly any pattern.  So a text is
put in lower case on either side of a blank alone, and replacements are made on either side alone,
unless a pattern with a blank in it starts before the blank in the text and goes on behind it.  Whether
one can is seen from the front part: it would have to end with what the pattern has before its blank.

* `lower_append_blank`         lower case on both sides of a blank;
* `lower_of_equalIgnoringCase` lower case of a word in any spelling;
* `beforeBlanks`               what a pattern has before each of its blanks;
* `Seam`, `Seams`              a text that no pattern of a list can leave across a blank;
* `replaceAll_append_blank`    replacements on both sides of a blank;
* `replace_append_of_blank`    one replacement on both sides of a blank, if its pattern has none.
-/

namespace WireWrapper
namespace Text

/-! ## lower case -/

/-- blanks are neither cased nor passed over on the way to a cased character -/
theorem blank_uncased {b : Char} (hb : isBlank b = true) :
    inRanges caseIgnorableRanges b.toNat = false ∧ inRanges casedRanges b.toNat = false ∧ b ≠ 'Σ' :=
  forall_blank (P := fun b => inRanges caseIgnorableRanges b.toNat = false ∧
    inRanges casedRanges b.toNat = false ∧ b ≠ 'Σ') (by decide +kernel) hb

section
variable {b : Char} (hb : isBlank b = true)
include hb

theorem startsCased_append_blank (cs rest : List Char) :
    startsCased (cs ++ b :: rest) = startsCased cs := by
  obtain ⟨hstop, huncased, -⟩ := blank_uncased hb
  rw [startsCased, startsCased, List.dropWhile_append]
  cases hdrop : cs.dropWhile fun c => inRanges caseIgnorableRanges c.toNat with
  | nil => simp [hstop, huncased]
  | cons c cs => rfl

theorem lowerSigma_before_blank (front before after : List Char) :
    lowerSigma (front ++ b :: before) after = lowerSigma front after := by
  rw [lowerSigma, startsCased_append_blank hb, lowerSigma]

theorem lowerSigma_after_blank (before cs rest : List Char) :
    lowerSigma before (cs ++ b :: rest) = lowerSigma before cs := by
  rw [lowerSigma, startsCased_append_blank hb, lowerSigma]

theorem lowerAfter_behind_blank (front before cs : List Char) :
    lowerAfter (front ++ b :: before) cs = lowerAfter front cs := by
  induction cs generalizing front with
  | nil => rfl
  | cons c cs ih =>
    have hrest := ih (c :: front)
    rw [List.cons_append] at hrest
    rw [lowerAfter, lowerAfter, lowerSigma_before_blank hb, hrest]

theorem lowerAfter_append_blank (before xs ys : List Char) :
    lowerAfter before (xs ++ b :: ys) = lowerAfter before xs ++ b :: lower ys := by
  induction xs generalizing before with
  | nil =>
    obtain ⟨-, -, hsigma⟩ := blank_uncased hb
    have hbehind := lowerAfter_behind_blank hb [] before ys
    rw [List.nil_append] at hbehind
    show lowerAfter before (b :: ys) = b :: lower ys
    rw [lowerAfter, if_neg hsigma, lowerChar_blank hb, hbehind]
    rfl
  | cons x xs ih =>
    rw [List.cons_append, lowerAfter, lowerAfter, lowerSigma_after_blank hb, ih]
    split
    · rfl
    · rw [List.append_assoc]

/-- **Lower case on both sides of a blank.** -/
theorem lower_append_blank (xs ys : List Char) :
    lower (xs ++ b :: ys) = lower xs ++ b :: lower ys := lowerAfter_append_blank hb [] xs ys

end

/-! ## words in any spelling -/

def IsAscii (cs : List Char) : Prop := ∀ c ∈ cs, c.toNat < 128

instance (cs : List Char) : Decidable (IsAscii cs) := List.decidableBAll _ cs

theorem lowerAfter_ascii {cs : List Char} (h : IsAscii cs) (before : List Char) :
    lowerAfter before cs = lowerAscii cs := by
  have hall : ∀ n < 128, Char.ofNat n ≠ 'Σ' ∧
      lowerChar (Char.ofNat n) = [(Char.ofNat n).toLower] := by decide
  induction cs generalizing before with
  | nil => rfl
  | cons c cs ih =>
    obtain ⟨hc, hcs⟩ := List.forall_mem_cons.mp h
    have hown := hall c.toNat hc
    rw [Char.ofNat_toNat] at hown
    rw [lowerAfter, if_neg hown.1, hown.2, ih hcs]
    rfl

theorem lt_of_toLower_lt {c : Char} (h : c.toLower.toNat < 128) : c.toNat < 128 := by
  by_cases hupper : 'A'.val ≤ c.val ∧ c.val ≤ 'Z'.val
  · have hz : c.toNat ≤ 'Z'.toNat := hupper.2
    exact Nat.lt_of_le_of_lt hz (by decide)
  · have hkept : c.toLower = c := dif_neg hupper
    rwa [hkept] at h

/-- **A word in any spelling** has one lower case, that of the word. -/
theorem lower_of_equalIgnoringCase {s word : String} (hword : IsAscii word.toList)
    (h : equalIgnoringCase s word = true) : lower s.toList = lowerAscii word.toList := by
  have hsame : lowerAscii s.toList = lowerAscii word.toList := beq_iff_eq.mp h
  have hsmall : IsAscii (lowerAscii word.toList) := by
    have hall : ∀ n < 128, (Char.ofNat n).toLower.toNat < 128 := by decide
    intro d hd
    obtain ⟨c, hc, rfl⟩ := List.mem_map.mp hd
    have hown := hall c.toNat (hword c hc)
    rwa [Char.ofNat_toNat] at hown
  rw [← hsame]
  refine lowerAfter_ascii (fun c hc => lt_of_toLower_lt (hsmall _ ?_)) []
  rw [← hsame]
  exact List.mem_map_of_mem hc

/-! ## replacements -/

/-- what a pattern has before each of its blanks -/
def beforeBlanks : List Char → List (List Char)
  | [] => []
  | c :: cs => (if isBlank c then [[]] else []) ++ (beforeBlanks cs).map (c :: ·)

theorem mem_beforeBlanks {b : Char} (hb : isBlank b = true) (u v : List Char) :
    u ∈ beforeBlanks (u ++ b :: v) := by
  induction u with
  | nil =>
    rw [List.nil_append, beforeBlanks, if_pos hb]
    exact List.mem_cons_self
  | cons c u ih => exact List.mem_append_right _ (List.mem_map_of_mem ih)

/-- a text that a pattern cannot leave across a blank -/
def Seam (front pattern : List Char) : Prop :=
  pattern ≠ [] ∧ ∀ u ∈ beforeBlanks pattern, ¬ u <:+ front

instance (front pattern : List Char) : Decidable (Seam front pattern) :=
  inferInstanceAs (Decidable (_ ∧ ∀ u ∈ beforeBlanks pattern, ¬ u <:+ front))

/-- the same for replacements in turn, each on what the ones before make of the text -/
def Seams : List (String × String) → List Char → Prop
  | [], _ => True
  | rule :: rules, front =>
    Seam front rule.1.toList ∧ Seams rules (replace rule.1.toList rule.2.toList front)

instance decidableSeams : (rules : List (String × String)) → (front : List Char) →
    Decidable (Seams rules front)
  | [], _ => .isTrue trivial
  | rule :: rules, front =>
    have := decidableSeams rules (replace rule.1.toList rule.2.toList front)
    inferInstanceAs (Decidable (_ ∧ _))

theorem replace_append_of_blank {p q xs ys : List Char}
    (hp : p ≠ [] ∧ IsSolid p)
    (h : (∀ d, xs.getLast? = some d → isBlank d = true) ∨
      (∀ d, ys.head? = some d → isBlank d = true)) :
    replace p q (xs ++ ys) = replace p q xs ++ replace p q ys := by
  refine replace_append hp.1 fun u v hu hv hfront hstarts heq => ?_
  obtain ⟨d, hd, hblank⟩ : ∃ d ∈ u ++ v, isBlank d = true := by
    rcases h with h | h
    · obtain ⟨front, rfl⟩ := hfront
      obtain ⟨inner, d, rfl⟩ := (List.eq_nil_or_concat' u).resolve_left hu
      exact ⟨d, by simp, h d (by simp [← List.append_assoc])⟩
    · obtain ⟨back, rfl⟩ := hstarts
      obtain ⟨d, v, rfl⟩ := List.exists_cons_of_ne_nil hv
      exact ⟨d, by simp, h d rfl⟩
  have hsolid := hp.2 d (heq ▸ hd)
  rw [hblank] at hsolid
  cases hsolid

section
variable {b : Char} (hb : isBlank b = true)
include hb

theorem replace_append_blank {xs p : List Char} (h : Seam xs p) (q ys : List Char) :
    replace p q (xs ++ b :: ys) = replace p q xs ++ b :: replace p q ys := by
  obtain ⟨hne, hfronts⟩ := h
  have hblank : replace p q (b :: ys) = b :: replace p q ys := by
    refine replace_kept hne ?_
    rintro ⟨rest, hstarts⟩
    obtain ⟨c, ps, rfl⟩ := List.exists_cons_of_ne_nil hne
    obtain rfl : c = b := (List.cons.inj hstarts).1
    exact hfronts [] (mem_beforeBlanks hb [] ps) (List.nil_suffix)
  rw [← hblank]
  refine replace_append hne fun u v _ hv hfront hstarts heq => ?_
  -- an occurrence across the blank has its own front part before a blank of its own
  obtain ⟨c, v, rfl⟩ := List.exists_cons_of_ne_nil hv
  obtain ⟨rfl, -⟩ := List.cons_prefix_cons.mp hstarts
  exact hfronts u (heq ▸ mem_beforeBlanks hb u v) hfront

/-- **Replacements on both sides of a blank.** -/
theorem replaceAll_append_blank {rules : List (String × String)} {xs : List Char}
    (h : Seams rules xs) (ys : List Char) :
    replaceAll rules (xs ++ b :: ys) = replaceAll rules xs ++ b :: replaceAll rules ys := by
  induction rules generalizing xs ys with
  | nil => rfl
  | cons rule rules ih =>
    show replaceAll rules (replace rule.1.toList rule.2.toList (xs ++ b :: ys)) = _
    rw [replace_append_blank hb h.1, ih h.2]
    rfl

end

section
variable {blanks : List Char} (hblanks : IsBlanks blanks)
include hblanks

theorem lower_append_blanks (cs : List Char) : lower (blanks ++ cs) = blanks ++ lower cs := by
  induction blanks with
  | nil => rfl
  | cons b blanks ih =>
    obtain ⟨hb, hrest⟩ := List.forall_mem_cons.mp hblanks
    have hstep := lower_append_blank hb [] (blanks ++ cs)
    rw [List.nil_append, ih hrest] at hstep
    exact hstep

theorem replaceAll_append_blanks {rules : List (String × String)} (hrules : Seams rules [])
    (cs : List Char) : replaceAll rules (blanks ++ cs) = blanks ++ replaceAll rules cs := by
  have hnil : replaceAll rules [] = [] := by
    induction rules with
    | nil => rfl
    | cons rule rules ih =>
      obtain ⟨⟨hne, -⟩, hrest⟩ := hrules
      show replaceAll rules (replace rule.1.toList rule.2.toList []) = []
      rw [replace_nil hne] at hrest ⊢
      exact ih hrest
  induction blanks with
  | nil => rfl
  | cons b blanks ih =>
    obtain ⟨hb, hrest⟩ := List.forall_mem_cons.mp hblanks
    have hstep := replaceAll_append_blank hb hrules (blanks ++ cs)
    rw [List.nil_append, hnil, List.nil_append, ih hrest] at hstep
    exact hstep

end

end Text
end WireWrapper
