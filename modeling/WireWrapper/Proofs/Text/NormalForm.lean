import WireWrapper.Proofs.Text.Replaced

/-!
# Replacements that leave nothing to replace

Where a rule has put its text, the text meets what stood on either side, and there a pattern may come
about that was not there before: that of the rule itself, or one of an earlier rule.  It does not if
text and pattern have no overlap, that is, no end of the one is a start of the other and neither is
part of the other.  Then each place where a pattern is found lies between two such texts, in a piece
of the old text.

* `NoOverlap`                 a pattern and a text that have nothing in common at their ends;
* `infix_around_iff`          the pattern is on one side of the text or on the other;
* `exists_first_copy`         a replacement up to the first copy, and behind it;
* `exists_piece_of_infix_replace`   a pattern in the result stood in the old text, between two copies;
* `replaceAll_normal`         rules without overlaps leave none of their patterns;
* `replaceAll_eq_self`        and where there are none, they change nothing.
-/

namespace WireWrapper
namespace Text

/-- text and pattern cannot be laid over each other, not even in part -/
structure NoOverlap (pattern text : List Char) : Prop where
  text_not_inside : ¬ text <:+: pattern
  pattern_not_inside : ¬ pattern <:+: text
  no_end_starts : ∀ s ∈ text.tails, s ≠ [] → ¬ s <+: pattern
  no_start_ends : ∀ s ∈ text.inits, s ≠ [] → ¬ s <:+ pattern

instance (pattern text : List Char) : Decidable (NoOverlap pattern text) :=
  decidable_of_iff
    ((¬ text <:+: pattern ∧ ¬ pattern <:+: text) ∧
      (∀ s ∈ text.tails, s ≠ [] → ¬ s <+: pattern) ∧ ∀ s ∈ text.inits, s ≠ [] → ¬ s <:+ pattern)
    ⟨fun h => ⟨h.1.1, h.1.2, h.2.1, h.2.2⟩, fun h => ⟨⟨h.1, h.2⟩, h.3, h.4⟩⟩

section
variable {q r : List Char} (h : NoOverlap q r)
include h

theorem infix_behind_iff (ys : List Char) : q <:+: r ++ ys ↔ q <:+: ys := by
  constructor
  · intro hin
    rcases List.infix_append_iff.mp hin with hr | hys | ⟨s, t, rfl, hs, ht⟩
    · exact absurd hr h.pattern_not_inside
    · exact hys
    · by_cases hnil : s = []
      · rw [hnil, List.nil_append]
        exact ht.isInfix
      · exact absurd (List.prefix_append s t) (h.no_end_starts s ((List.mem_tails ..).mpr hs) hnil)
  · intro hin
    exact hin.trans (List.suffix_append r ys).isInfix

/-- **Around a text** that has no overlap with it, a pattern is on one side or on the other. -/
theorem infix_around_iff (xs ys : List Char) :
    q <:+: xs ++ (r ++ ys) ↔ q <:+: xs ∨ q <:+: ys := by
  constructor
  · intro hin
    rcases List.infix_append_iff.mp hin with hxs | hback | ⟨s, t, rfl, hs, ht⟩
    · exact .inl hxs
    · exact .inr ((infix_behind_iff h ys).mp hback)
    · by_cases hnil : t = []
      · rw [hnil, List.append_nil]
        exact .inl hs.isInfix
      · -- what goes on behind `xs` is a start of the text, or the whole of it and more
        have hends : t <:+ s ++ t := List.suffix_append s t
        rcases List.prefix_or_prefix_of_prefix ht (List.prefix_append r ys) with htr | hrt
        · exact absurd hends (h.no_start_ends t ((List.mem_inits ..).mpr htr) hnil)
        · exact absurd (hrt.isInfix.trans hends.isInfix) h.text_not_inside
  · rintro (hxs | hys)
    · exact hxs.trans (List.prefix_append xs (r ++ ys)).isInfix
    · apply List.IsInfix.trans ((infix_behind_iff h ys).mpr hys)
      exact (List.suffix_append xs (r ++ ys)).isInfix

end

section
variable {p : List Char} (hne : p ≠ [])
include hne

theorem exists_first_copy {cs : List Char} (h : p <:+: cs) :
    ∃ xs ys, cs = xs ++ (p ++ ys) ∧ ¬ p <:+: xs ∧
      ∀ r, replace p r cs = xs ++ (r ++ replace p r ys) := by
  induction cs using leftmost_induction hne with
  | nil => exact absurd (List.infix_nil.mp h) hne
  | copy cs ih =>
    refine ⟨[], cs, rfl, mt List.infix_nil.mp hne, fun r => ?_⟩
    exact replace_occurrence hne cs
  | char c cs hkept ih =>
    have hrest : p <:+: cs := (List.infix_cons_iff.mp h).resolve_left hkept
    obtain ⟨xs, ys, hsplit, hxs, hreplace⟩ := ih hrest
    refine ⟨c :: xs, ys, ?_, ?_, fun r => ?_⟩
    · rw [hsplit, List.cons_append]
    · intro hin
      rcases List.infix_cons_iff.mp hin with hstart | hlater
      · apply hkept
        rw [hsplit, ← List.cons_append]
        exact hstart.trans (List.prefix_append (c :: xs) (p ++ ys))
      · exact hxs hlater
    · rw [replace_kept hne hkept, hreplace r, List.cons_append]

/-- **A pattern in the result** stood in the old text already, in a piece without copies of the
pattern that was replaced. -/
theorem exists_piece_of_infix_replace {q r : List Char} (h : NoOverlap q r) {cs : List Char}
    (hin : q <:+: replace p r cs) : ∃ piece, piece <:+: cs ∧ ¬ p <:+: piece ∧ q <:+: piece := by
  induction hlength : cs.length using Nat.strong_induction_on generalizing cs with
  | _ length ih =>
    by_cases hp : p <:+: cs
    · obtain ⟨xs, ys, rfl, hxs, hreplace⟩ := exists_first_copy hne hp
      rw [hreplace r] at hin
      rcases (infix_around_iff h xs _).mp hin with hfront | hback
      · exact ⟨xs, (List.prefix_append xs (p ++ ys)).isInfix, hxs, hfront⟩
      · have hpos := List.length_pos_iff.mpr hne
        rw [List.length_append, List.length_append] at hlength
        obtain ⟨piece, hpiece, hclean, hq⟩ := ih ys.length (by omega) hback rfl
        have hys : ys <:+: xs ++ (p ++ ys) :=
          ((List.suffix_append p ys).trans (List.suffix_append xs (p ++ ys))).isInfix
        exact ⟨piece, hpiece.trans hys, hclean, hq⟩
    · rw [replace_eq_self hne hp] at hin
      exact ⟨cs, List.infix_rfl, hp, hin⟩

theorem not_infix_replace_self {r : List Char} (h : NoOverlap p r) (cs : List Char) :
    ¬ p <:+: replace p r cs := by
  intro hin
  obtain ⟨piece, -, hclean, hp⟩ := exists_piece_of_infix_replace hne h hin
  exact hclean hp

theorem not_infix_replace {q r cs : List Char} (h : NoOverlap q r) (hq : ¬ q <:+: cs) :
    ¬ q <:+: replace p r cs := by
  intro hin
  obtain ⟨piece, hpiece, -, hqp⟩ := exists_piece_of_infix_replace hne h hin
  exact hq (hqp.trans hpiece)

end

/-! ## rules in turn -/

/-- no pattern of any rule has an overlap with the text of any -/
def Separate (rules : List (String × String)) : Prop :=
  ∀ a ∈ rules, a.1 ≠ "" ∧ ∀ b ∈ rules, NoOverlap a.1.toList b.2.toList

theorem not_infix_replaceAll {rules : List (String × String)} {q cs : List Char}
    (hrules : ∀ rule ∈ rules, rule.1 ≠ "" ∧ NoOverlap q rule.2.toList) (hq : ¬ q <:+: cs) :
    ¬ q <:+: replaceAll rules cs := by
  induction rules generalizing cs with
  | nil => exact hq
  | cons rule rules ih =>
    obtain ⟨hne, hapart⟩ := hrules rule List.mem_cons_self
    apply ih
    · intro later hlater
      exact hrules later (List.mem_cons_of_mem rule hlater)
    · exact not_infix_replace (mt String.toList_eq_nil_iff.mp hne) hapart hq

theorem Separate.tail {rule : String × String} {rules : List (String × String)}
    (h : Separate (rule :: rules)) : Separate rules := by
  intro a ha
  obtain ⟨hne, hapart⟩ := h a (List.mem_cons_of_mem rule ha)
  exact ⟨hne, fun b hb => hapart b (List.mem_cons_of_mem rule hb)⟩

/-- **Separate rules** leave none of their patterns. -/
theorem replaceAll_normal {rules : List (String × String)} (h : Separate rules) (cs : List Char) :
    ∀ rule ∈ rules, ¬ rule.1.toList <:+: replaceAll rules cs := by
  induction rules generalizing cs with
  | nil =>
    intro rule hrule
    cases hrule
  | cons first later ih =>
    intro rule hrule
    rcases List.mem_cons.mp hrule with rfl | hrule
    · -- gone after its own turn, and kept away by the later rules
      obtain ⟨hne, hapart⟩ := h rule List.mem_cons_self
      have hlater : ∀ b ∈ later, b.1 ≠ "" ∧ NoOverlap rule.1.toList b.2.toList :=
        fun b hb => ⟨(h.tail b hb).1, hapart b (List.mem_cons_of_mem rule hb)⟩
      apply not_infix_replaceAll hlater
      exact not_infix_replace_self (mt String.toList_eq_nil_iff.mp hne)
        (hapart rule List.mem_cons_self) cs
    · exact ih h.tail _ rule hrule

theorem replaceAll_eq_self {rules : List (String × String)} {cs : List Char}
    (h : ∀ rule ∈ rules, rule.1 ≠ "" ∧ ¬ rule.1.toList <:+: cs) : replaceAll rules cs = cs := by
  induction rules with
  | nil => rfl
  | cons rule rules ih =>
    obtain ⟨hne, hnot⟩ := h rule List.mem_cons_self
    show replaceAll rules (replace rule.1.toList rule.2.toList cs) = cs
    rw [replace_eq_self (mt String.toList_eq_nil_iff.mp hne) hnot]
    exact ih fun later hlater => h later (List.mem_cons_of_mem rule hlater)

end Text
end WireWrapper
