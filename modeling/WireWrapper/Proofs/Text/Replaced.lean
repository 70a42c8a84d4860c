import Mathlib.Data.List.Infix
import WireWrapper.Text.Replace

/-!
# Texts after a replacement

A pattern is looked for from the left.  Texts whose characters are not in the pattern stay as they
are on either side, and a pattern of two characters that is replaced by a text without it does not
come about again where the new text meets the old.

* `replace_occurrence`, `replace_kept`      one step from the left;
* `leftmost_induction`      a text is a copy and a text, or a character and a text;
* `replace_eq_self`         a text without the pattern stays;
* `replace_append`          two parts that no occurrence joins;
* `replaceFrom_append_left`, `replaceFrom_append_right`   texts that no pattern reaches into;
* `mem_replaceFrom`, `mem_replaceAll`       where the characters of the result come from;
* `pair_infix_cons`, `pair_infix_append`    two neighbours, told from the front, or in two parts;
* `not_pair_infix_replaceFrom`              two neighbours that are kept apart.
-/

namespace WireWrapper
namespace Text

theorem occursIn_iff {pattern cs : List Char} : occursIn pattern cs = true ↔ pattern <:+: cs := by
  induction cs with
  | nil => rw [occursIn, List.isEmpty_iff, List.infix_nil]
  | cons c cs ih =>
    rw [occursIn, Bool.or_eq_true, ih, List.isPrefixOf_iff_prefix, List.infix_cons_iff]

/-! ## one step -/

theorem replaceFrom_skip (pattern replacement front cs : List Char) :
    replaceFrom pattern replacement front.length (front ++ cs)
      = replaceFrom pattern replacement 0 cs := by
  induction front with
  | nil => cases cs <;> rfl
  | cons c front ih => exact ih

section
variable {p q : List Char} (hne : p ≠ [])
include hne

theorem replace_nil : replace p q [] = [] := by
  obtain ⟨d, ps, rfl⟩ := List.exists_cons_of_ne_nil hne
  rfl

theorem replace_occurrence (cs : List Char) : replace p q (p ++ cs) = q ++ replace p q cs := by
  obtain ⟨c, ps, rfl⟩ := List.exists_cons_of_ne_nil hne
  have hstarts : (c :: ps).isPrefixOf (c :: (ps ++ cs)) = true :=
    List.isPrefixOf_iff_prefix.mpr (List.prefix_append (c :: ps) cs)
  show replaceFrom (c :: ps) q 0 (c :: (ps ++ cs)) = q ++ replaceFrom (c :: ps) q 0 cs
  rw [replaceFrom, if_pos hstarts]
  exact congrArg (q ++ ·) (replaceFrom_skip _ _ ps cs)

theorem replace_kept {c : Char} {cs : List Char} (h : ¬ p <+: c :: cs) :
    replace p q (c :: cs) = c :: replace p q cs := by
  obtain ⟨d, ps, rfl⟩ := List.exists_cons_of_ne_nil hne
  show replaceFrom (d :: ps) q 0 (c :: cs) = c :: replaceFrom (d :: ps) q 0 cs
  rw [replaceFrom, if_neg (mt List.isPrefixOf_iff_prefix.mp h)]

/-- a text is read from the left: a copy of the pattern, or a character that no copy starts with -/
theorem leftmost_induction {motive : List Char → Prop} (nil : motive [])
    (copy : ∀ cs, motive cs → motive (p ++ cs))
    (char : ∀ c cs, ¬ p <+: c :: cs → motive cs → motive (c :: cs)) (cs : List Char) :
    motive cs := by
  induction hlength : cs.length using Nat.strong_induction_on generalizing cs with
  | _ length ih =>
    by_cases hin : p <+: cs
    · obtain ⟨rest, rfl⟩ := hin
      have hpos := List.length_pos_iff.mpr hne
      rw [List.length_append] at hlength
      exact copy rest (ih rest.length (by omega) rest rfl)
    · cases cs with
      | nil => exact nil
      | cons c cs =>
        rw [List.length_cons] at hlength
        exact char c cs hin (ih cs.length (by omega) cs rfl)

theorem replace_eq_self {cs : List Char} (h : ¬ p <:+: cs) : replace p q cs = cs := by
  induction cs with
  | nil => exact replace_nil hne
  | cons c cs ih =>
    obtain ⟨hstart, hrest⟩ := not_or.mp (mt List.infix_cons_iff.mpr h)
    rw [replace_kept hne hstart, ih hrest]

/-- **Two parts are read alone** if no occurrence reaches from the one into the other. -/
theorem replace_append {xs ys : List Char}
    (h : ∀ u v, u ≠ [] → v ≠ [] → u <:+ xs → v <+: ys → u ++ v ≠ p) :
    replace p q (xs ++ ys) = replace p q xs ++ replace p q ys := by
  induction xs using leftmost_induction hne with
  | nil => rw [replace_nil hne, List.nil_append, List.nil_append]
  | copy xs ih =>
    have hsuffix : xs <:+ p ++ xs := List.suffix_append p xs
    rw [List.append_assoc, replace_occurrence hne, replace_occurrence hne, List.append_assoc,
      ih fun u v hu hv hus => h u v hu hv (hus.trans hsuffix)]
  | char c xs hkept ih =>
    have hacross : ¬ p <+: c :: (xs ++ ys) := by
      rintro ⟨rest, hrest⟩
      rw [← List.cons_append, List.append_eq_append_iff] at hrest
      rcases hrest with ⟨inner, hfront, -⟩ | ⟨inner, hpattern, hys⟩
      · exact hkept ⟨inner, hfront.symm⟩
      · refine h (c :: xs) inner (List.cons_ne_nil c xs) ?_ List.suffix_rfl ⟨rest, hys.symm⟩
          hpattern.symm
        rintro rfl
        exact hkept ⟨[], by rw [hpattern, List.append_nil, List.append_nil]⟩
    have hsuffix : xs <:+ c :: xs := List.suffix_cons c xs
    rw [List.cons_append, replace_kept hne hacross, replace_kept hne hkept, List.cons_append,
      ih fun u v hu hv hus => h u v hu hv (hus.trans hsuffix)]

end

/-! ## both sides of a text -/

theorem replaceFrom_append_left {p : Char} {ps front : List Char} (h : ∀ c ∈ front, c ≠ p)
    (replacement cs : List Char) :
    replaceFrom (p :: ps) replacement 0 (front ++ cs)
      = front ++ replaceFrom (p :: ps) replacement 0 cs := by
  induction front with
  | nil => rfl
  | cons c front ih =>
    have hc : (p == c) = false := beq_false_of_ne (h c List.mem_cons_self).symm
    have hprefix : ¬ (p :: ps).isPrefixOf (c :: (front ++ cs)) = true := by
      rw [List.isPrefixOf, hc]
      exact Bool.false_ne_true
    rw [List.cons_append, replaceFrom, if_neg hprefix, List.cons_append,
      ih fun d hd => h d (List.mem_cons_of_mem c hd)]

theorem isPrefixOf_append_right (pattern : List Char) {back : List Char}
    (h : ∀ c ∈ back, c ∉ pattern) (cs : List Char) :
    pattern.isPrefixOf (cs ++ back) = pattern.isPrefixOf cs := by
  induction pattern generalizing cs with
  | nil => rw [List.isPrefixOf, List.isPrefixOf]
  | cons p ps ih =>
    cases cs with
    | nil =>
      cases back with
      | nil => rfl
      | cons b back =>
        have hb : b ≠ p := fun hbp => h b List.mem_cons_self (hbp ▸ List.mem_cons_self)
        show (p == b && ps.isPrefixOf back) = false
        rw [beq_false_of_ne hb.symm, Bool.false_and]
    | cons c cs =>
      have hps := ih (fun d hd hmem => h d hd (List.mem_cons_of_mem p hmem)) cs
      rw [List.cons_append, List.isPrefixOf, List.isPrefixOf, hps]

theorem replaceFrom_append_right {p : Char} {ps back : List Char} (h : ∀ c ∈ back, c ∉ p :: ps)
    (replacement cs : List Char) {skip : Nat} (hskip : skip ≤ cs.length) :
    replaceFrom (p :: ps) replacement skip (cs ++ back)
      = replaceFrom (p :: ps) replacement skip cs ++ back := by
  induction cs generalizing skip with
  | nil =>
    obtain rfl := Nat.le_zero.mp hskip
    have hfront : ∀ c ∈ back, c ≠ p := fun c hc hcp => h c hc (hcp ▸ List.mem_cons_self)
    have hall : replaceFrom (p :: ps) replacement 0 (back ++ [])
        = back ++ replaceFrom (p :: ps) replacement 0 [] :=
      replaceFrom_append_left hfront replacement []
    rw [List.append_nil] at hall
    rw [List.nil_append, hall, replaceFrom, List.append_nil, List.nil_append]
  | cons c cs ih =>
    cases skip with
    | succ skip => exact ih (Nat.le_of_succ_le_succ hskip)
    | zero =>
      have hprefix := isPrefixOf_append_right (p :: ps) h (c :: cs)
      rw [List.cons_append] at hprefix ⊢
      rw [replaceFrom, replaceFrom, hprefix]
      split
      · next hmatch =>
        -- the occurrence ends inside the text
        have hlength := (List.isPrefixOf_iff_prefix.mp hmatch).length_le
        rw [List.length_cons, List.length_cons] at hlength
        have hps : (p :: ps).length - 1 ≤ cs.length := by
          rw [List.length_cons]
          omega
        rw [ih hps, List.append_assoc]
      · rw [ih (Nat.zero_le _), List.cons_append]

/-- what a replacement leaves stood there before, or came in with it -/
theorem mem_replaceFrom {pattern replacement cs : List Char} {skip : Nat} {c : Char}
    (h : c ∈ replaceFrom pattern replacement skip cs) : c ∈ replacement ∨ c ∈ cs := by
  induction cs generalizing skip with
  | nil => cases h
  | cons x xs ih =>
    cases skip with
    | succ skip => exact (ih h).imp_right (List.mem_cons_of_mem x)
    | zero =>
      rw [replaceFrom] at h
      split at h
      · rcases List.mem_append.mp h with h | h
        · exact .inl h
        · exact (ih h).imp_right (List.mem_cons_of_mem x)
      · rcases List.mem_cons.mp h with rfl | h
        · exact .inr List.mem_cons_self
        · exact (ih h).imp_right (List.mem_cons_of_mem x)

theorem mem_replace {pattern replacement cs : List Char} {c : Char}
    (h : c ∈ replace pattern replacement cs) : c ∈ replacement ∨ c ∈ cs := by
  cases pattern with
  | cons p ps => exact mem_replaceFrom h
  | nil =>
    rcases List.mem_append.mp h with h | h
    · exact .inl h
    · obtain ⟨d, hd, hc⟩ := List.mem_flatMap.mp h
      rcases List.mem_cons.mp hc with rfl | hc
      · exact .inr hd
      · exact .inl hc

theorem mem_replaceAll {rules : List (String × String)} {cs : List Char} {c : Char}
    (h : c ∈ replaceAll rules cs) : (∃ rule ∈ rules, c ∈ rule.2.toList) ∨ c ∈ cs := by
  induction rules generalizing cs with
  | nil => exact .inr h
  | cons rule rules ih =>
    rcases ih h with ⟨later, hlater, hc⟩ | hc
    · exact .inl ⟨later, List.mem_cons_of_mem rule hlater, hc⟩
    · exact (mem_replace hc).imp_left fun hc => ⟨rule, List.mem_cons_self, hc⟩

theorem replaceFrom_eq_nil_iff {pattern replacement : List Char} (hne : replacement ≠ [])
    {cs : List Char} : replaceFrom pattern replacement 0 cs = [] ↔ cs = [] := by
  cases cs with
  | nil => exact iff_of_true rfl rfl
  | cons c cs =>
    refine iff_of_false ?_ (List.cons_ne_nil c cs)
    rw [replaceFrom]
    split
    · exact List.append_ne_nil_of_left_ne_nil hne _
    · exact List.cons_ne_nil c _

/-! ## two neighbours -/

section
variable {α : Type} {a b : α}

theorem pair_infix_cons {x : α} {xs : List α} :
    [a, b] <:+: x :: xs ↔ (x = a ∧ xs.head? = some b) ∨ [a, b] <:+: xs := by
  rw [List.infix_cons_iff, List.cons_prefix_cons]
  cases xs with
  | nil => simp
  | cons y ys =>
    rw [List.cons_prefix_cons, List.head?_cons, Option.some.injEq]
    simp [eq_comm]

theorem pair_infix_append_left {xs : List α} (h : a ∉ xs) (ys : List α) :
    [a, b] <:+: xs ++ ys ↔ [a, b] <:+: ys := by
  induction xs with
  | nil => rfl
  | cons x xs ih =>
    obtain ⟨hx, hxs⟩ := not_or.mp (mt List.mem_cons.mpr h)
    rw [List.cons_append, pair_infix_cons, ih hxs]
    simp [Ne.symm hx]

/-- two neighbours in a text of two parts stand in one of them, or on either side of the seam -/
theorem pair_infix_append {xs ys : List α} :
    [a, b] <:+: xs ++ ys ↔
      [a, b] <:+: xs ∨ [a, b] <:+: ys ∨ (xs.getLast? = some a ∧ ys.head? = some b) := by
  induction xs with
  | nil => simp
  | cons x xs ih =>
    cases xs with
    | nil => simp [pair_infix_cons, or_comm]
    | cons z zs =>
      have hsplit : [a, b] <:+: x :: z :: zs ↔ _ := pair_infix_cons
      rw [List.cons_append, pair_infix_cons, ih, hsplit, List.getLast?_cons_cons, or_assoc]
      rfl

end

/-- **Two neighbours are kept apart** by a text of neither of them that is put between the first and
what follows; nor does the second come to the front by it. -/
theorem not_pair_infix_replaceFrom {a b : Char} {mid : List Char} (hab : a ≠ b) (hne : mid ≠ [])
    (ha : a ∉ mid) (hb : b ∉ mid) : ∀ cs : List Char,
    ¬ [a, b] <:+: replaceFrom [a, b] (a :: mid) 0 cs ∧
      ((replaceFrom [a, b] (a :: mid) 0 cs).head? = some b → cs.head? = some b)
  | [] => ⟨by simp [replaceFrom], id⟩
  | [c] => by
    have hkept : replaceFrom [a, b] (a :: mid) 0 [c] = [c] := by
      simp [replaceFrom, List.isPrefixOf]
    rw [hkept]
    exact ⟨by simp [pair_infix_cons], id⟩
  | c :: d :: cs => by
    by_cases hmatch : c = a ∧ d = b
    · obtain ⟨hrest, -⟩ := not_pair_infix_replaceFrom hab hne ha hb cs
      have hgone : replaceFrom [a, b] (a :: mid) 0 (c :: d :: cs)
          = a :: (mid ++ replaceFrom [a, b] (a :: mid) 0 cs) := by
        obtain ⟨rfl, rfl⟩ := hmatch
        simp [replaceFrom, List.isPrefixOf]
      obtain ⟨x, xs, rfl⟩ := List.exists_cons_of_ne_nil hne
      have hx : x ≠ b := fun h => hb (h ▸ List.mem_cons_self)
      rw [hgone, pair_infix_cons, pair_infix_append_left ha]
      exact ⟨by simp [hx, hrest], by simp [hab]⟩
    · obtain ⟨hrest, hhead⟩ := not_pair_infix_replaceFrom hab hne ha hb (d :: cs)
      have hkept : replaceFrom [a, b] (a :: mid) 0 (c :: d :: cs)
          = c :: replaceFrom [a, b] (a :: mid) 0 (d :: cs) := by
        have hprefix : ¬ [a, b].isPrefixOf (c :: d :: cs) = true := by
          rintro h
          simp only [List.isPrefixOf, Bool.and_true, Bool.and_eq_true, beq_iff_eq] at h
          exact hmatch ⟨h.1.symm, h.2.symm⟩
        rw [replaceFrom, if_neg hprefix]
      rw [hkept, pair_infix_cons]
      refine ⟨?_, id⟩
      rintro (⟨hc, hd⟩ | hinfix)
      · exact hmatch ⟨hc, Option.some.inj (hhead hd)⟩
      · exact hrest hinfix

end Text
end WireWrapper
