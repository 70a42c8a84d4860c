import WireWrapper.Proofs.Text.Replaced

/-!
# Texts without a pattern

A pattern that is replaced by nothing is gone where it stood; but what stood on either side of it now
stands side by side, and may spell the pattern again, or another one.  This happens exactly where the
characters of that word stood in order, with nothing but whole copies of the deleted pattern among
them: `o`, `of`, `f` becomes `of` once more.

No proper part of the pattern may both start and end it, so that its copies never overlap.

* `Unbordered`               a pattern whose copies do not overlap;
* `replace_around`           a copy in the middle of a text;
* `Apart`                    texts without a common character;
* `Spread`                   a word with copies of a pattern among its characters;
* `Parted`                   a pattern with copies of itself between two parts of it;
* `exists_spread_of_infix`   a word in what is left comes from such a text;
* `infix_replace_self_iff`   when the pattern is there again;
* `infix_replace_iff`        when a word without characters of the pattern is there.
-/

namespace WireWrapper
namespace Text

/-! ## patterns that do not overlap with themselves -/

/-- no proper part of a pattern both starts and ends it -/
def Unbordered (p : List Char) : Prop := ∀ s, s ≠ [] → s <+: p → s <:+ p → s = p

theorem unbordered_concat {front : List Char} {z : Char} (h : z ∉ front) :
    Unbordered (front ++ [z]) := by
  intro s hs hstarts hsuffix
  rcases List.prefix_concat_iff.mp hstarts with hwhole | hfront
  · exact hwhole
  · rcases List.suffix_concat_iff.mp hsuffix with hnil | ⟨t, rfl, -⟩
    · exact absurd hnil hs
    · exact absurd (hfront.subset (List.mem_append_right t (List.mem_singleton_self z))) h

namespace Unbordered
variable {p : List Char}

theorem append_ne (hp : Unbordered p) {u v : List Char} (hu : u ≠ []) (hv : v ≠ [])
    (h : v <+: p ∨ u <:+ p) : u ++ v ≠ p := by
  intro heq
  have hlength : u.length + v.length = p.length := by rw [← List.length_append, heq]
  have hupos := List.length_pos_iff.mpr hu
  have hvpos := List.length_pos_iff.mpr hv
  rcases h with hstarts | hsuffix
  · have hwhole := hp v hv hstarts ⟨u, heq⟩
    rw [hwhole] at hlength
    omega
  · have hwhole := hp u hu ⟨v, heq⟩ hsuffix
    rw [hwhole] at hlength
    omega

/-- **A copy in the middle of a text is gone**, and both sides are read alone. -/
theorem replace_around (hp : Unbordered p) (hne : p ≠ []) (xs ys : List Char) :
    replace p [] (xs ++ (p ++ ys)) = replace p [] xs ++ replace p [] ys := by
  have hcopy : replace p [] (p ++ ys) = replace p [] ys := replace_occurrence hne ys
  rw [← hcopy]
  refine replace_append hne fun u v hu hv _ hstarts heq => ?_
  have hshort : v.length ≤ p.length := by
    rw [← heq, List.length_append]
    omega
  exact hp.append_ne hu hv
    (.inl (List.prefix_of_prefix_length_le hstarts (List.prefix_append p ys) hshort)) heq

/-- what starts the pattern is read alone behind any text -/
theorem replace_append_start (hp : Unbordered p) (hne : p ≠ []) {s : List Char} (hs : s <+: p)
    (xs : List Char) : replace p [] (xs ++ s) = replace p [] xs ++ replace p [] s :=
  replace_append hne fun _ _ hu hv _ hstarts => hp.append_ne hu hv (.inl (hstarts.trans hs))

/-- what ends the pattern is read alone in front of any text -/
theorem replace_end_append (hp : Unbordered p) (hne : p ≠ []) {r : List Char} (hr : r <:+ p)
    (ys : List Char) : replace p [] (r ++ ys) = replace p [] r ++ replace p [] ys :=
  replace_append hne fun _ _ hu hv hsuffix _ => hp.append_ne hu hv (.inr (hsuffix.trans hr))

end Unbordered

/-! ## words among copies of a pattern -/

/-- a word with copies of a pattern among its characters -/
inductive Spread (p : List Char) : List Char → List Char → Prop
  | word (q : List Char) : Spread p q q
  | copy (s : List Char) {r t : List Char} (rest : Spread p r t) : Spread p (s ++ r) (s ++ (p ++ t))

namespace Spread
variable {p q t : List Char}

theorem cons (h : Spread p q t) (c : Char) : Spread p (c :: q) (c :: t) := by
  cases h with
  | word => exact .word (c :: q)
  | copy s rest => exact .copy (c :: s) rest

theorem eq_or_copy (h : Spread p q t) :
    t = q ∨ ∃ s r rest, q = s ++ r ∧ t = s ++ (p ++ rest) ∧ Spread p r rest := by
  cases h with
  | word => exact .inl rfl
  | copy s rest => exact .inr ⟨s, _, _, rfl, rfl, rest⟩

end Spread

/-- a pattern in two parts, with copies of it in between and maybe in the second part -/
def Parted (p t : List Char) : Prop :=
  ∃ s r rest, s ≠ [] ∧ r ≠ [] ∧ p = s ++ r ∧ Spread p r rest ∧ t = s ++ (p ++ rest)

section
variable {p : List Char} (hne : p ≠ [])
include hne

/-- a start of what is left comes from a start of the text, copies of the pattern included -/
theorem exists_spread_of_prefix {q w : List Char} (h : q <+: replace p [] w) :
    ∃ t, Spread p q t ∧ t <+: w := by
  induction w using leftmost_induction hne generalizing q with
  | nil =>
    rw [replace_nil hne, List.prefix_nil] at h
    exact ⟨q, .word q, h ▸ List.prefix_rfl⟩
  | copy w ih =>
    rw [replace_occurrence hne, List.nil_append] at h
    obtain ⟨t, ht, hstarts⟩ := ih h
    exact ⟨p ++ t, .copy [] ht, (List.prefix_append_right_inj p).mpr hstarts⟩
  | char c w hkept ih =>
    cases q with
    | nil => exact ⟨[], .word [], List.nil_prefix⟩
    | cons d q =>
      rw [replace_kept hne hkept, List.cons_prefix_cons] at h
      obtain ⟨rfl, htail⟩ := h
      obtain ⟨t, ht, hstarts⟩ := ih htail
      exact ⟨d :: t, ht.cons d, List.cons_prefix_cons.mpr ⟨rfl, hstarts⟩⟩

/-- **A word in what is left** comes from a part of the text that is this word with copies of the
pattern among its characters, and that no copy starts. -/
theorem exists_spread_of_infix {q w : List Char} (hq : q ≠ []) (h : q <:+: replace p [] w) :
    ∃ t, Spread p q t ∧ t <:+: w ∧ ¬ p <+: t := by
  induction w using leftmost_induction hne with
  | nil =>
    rw [replace_nil hne] at h
    exact absurd (List.infix_nil.mp h) hq
  | copy w ih =>
    rw [replace_occurrence hne, List.nil_append] at h
    obtain ⟨t, ht, hpart, hstart⟩ := ih h
    exact ⟨t, ht, hpart.trans (List.suffix_append p w).isInfix, hstart⟩
  | char c w hkept ih =>
    rw [replace_kept hne hkept, List.infix_cons_iff, ← replace_kept hne hkept] at h
    rcases h with hhead | htail
    · obtain ⟨t, ht, hstarts⟩ := exists_spread_of_prefix hne hhead
      exact ⟨t, ht, hstarts.isInfix, fun hstart => hkept (hstart.trans hstarts)⟩
    · obtain ⟨t, ht, hpart, hstart⟩ := ih htail
      exact ⟨t, ht, List.infix_cons_iff.mpr (.inr hpart), hstart⟩

end

theorem replace_short {p cs : List Char} (h : cs.length < p.length) : replace p [] cs = cs := by
  have hne : p ≠ [] := List.ne_nil_of_length_pos (Nat.zero_lt_of_lt h)
  exact replace_eq_self hne fun hpart => absurd hpart.length_le (Nat.not_le.mpr h)

section
variable {p : List Char} (hp : Unbordered p) (hne : p ≠ [])
include hp hne

/-- what ends the pattern, with copies of it among the characters, leaves this end of it -/
theorem replace_spread_end {r t : List Char} (ht : Spread p r t) (hr : r <:+ p)
    (hshort : r.length < p.length) (ys : List Char) :
    replace p [] (t ++ ys) = r ++ replace p [] ys := by
  induction ht with
  | word r => rw [hp.replace_end_append hne hr, replace_short hshort]
  | copy s rest ih =>
    rw [List.length_append] at hshort
    rw [List.append_assoc, List.append_assoc, hp.replace_around hne,
      replace_short (by omega : s.length < p.length),
      ih ((List.suffix_append s _).trans hr) (by omega), List.append_assoc]

/-- **The pattern is there again** exactly if it stood there in parts, with whole copies of it in
between. -/
theorem infix_replace_self_iff {w : List Char} :
    p <:+: replace p [] w ↔ ∃ t, Parted p t ∧ t <:+: w := by
  constructor
  · intro h
    obtain ⟨t, ht, hpart, hstart⟩ := exists_spread_of_infix hne hne h
    rcases ht.eq_or_copy with rfl | ⟨s, r, rest, hsplit, rfl, hrest⟩
    · exact absurd List.prefix_rfl hstart
    · refine ⟨s ++ (p ++ rest), ⟨s, r, rest, ?_, ?_, hsplit, hrest, rfl⟩, hpart⟩
      · rintro rfl
        exact hstart (List.prefix_append p rest)
      · rintro rfl
        exact hstart ⟨p ++ rest, by rw [hsplit, List.append_nil]⟩
  · rintro ⟨_, ⟨s, r, t, hs, hr, hsplit, ht, rfl⟩, xs, ys, rfl⟩
    have hlength := congrArg List.length hsplit
    rw [List.length_append] at hlength
    have hspos := List.length_pos_iff.mpr hs
    have hrpos := List.length_pos_iff.mpr hr
    refine ⟨replace p [] xs, replace p [] ys, ?_⟩
    calc replace p [] xs ++ p ++ replace p [] ys
        = (replace p [] xs ++ s) ++ (r ++ replace p [] ys) := by
          rw [hsplit]
          simp only [List.append_assoc]
      _ = replace p [] (xs ++ s) ++ replace p [] (t ++ ys) := by
          rw [hp.replace_append_start hne ⟨r, hsplit.symm⟩,
            replace_short (by omega : s.length < p.length),
            replace_spread_end hp hne ht ⟨s, hsplit.symm⟩ (by omega)]
      _ = replace p [] (xs ++ (s ++ (p ++ t)) ++ ys) := by
          rw [← hp.replace_around hne]
          simp only [List.append_assoc]

end

/-- no character in common -/
def Apart (q p : List Char) : Prop := ∀ c ∈ q, c ∉ p

instance (q p : List Char) : Decidable (Apart q p) := List.decidableBAll _ q

section
variable {p : List Char} (hne : p ≠ [])
include hne

theorem replace_other_append {q : List Char} (hother : Apart q p) (ys : List Char) :
    replace p [] (q ++ ys) = q ++ replace p [] ys := by
  obtain ⟨d, ps, rfl⟩ := List.exists_cons_of_ne_nil hne
  exact replaceFrom_append_left (fun c hc hd => hother c hc (hd ▸ List.mem_cons_self)) [] ys

theorem replace_append_other {q : List Char} (hother : Apart q p) (xs : List Char) :
    replace p [] (xs ++ q) = replace p [] xs ++ q := by
  obtain ⟨d, ps, rfl⟩ := List.exists_cons_of_ne_nil hne
  exact replaceFrom_append_right hother [] xs (Nat.zero_le _)

theorem replace_spread_other {q t : List Char} (ht : Spread p q t) (hother : Apart q p)
    (ys : List Char) : replace p [] (t ++ ys) = q ++ replace p [] ys := by
  induction ht with
  | word q => exact replace_other_append hne hother ys
  | copy s rest ih =>
    obtain ⟨hs, hr⟩ := List.forall_mem_append.mp hother
    rw [List.append_assoc, List.append_assoc, replace_other_append hne hs,
      replace_occurrence hne, List.nil_append, ih hr, List.append_assoc]

/-- **A word without characters of the pattern is there** exactly if its characters stood in order,
with whole copies of the pattern among them. -/
theorem infix_replace_iff (hp : Unbordered p) {q w : List Char} (hq : q ≠ [])
    (hother : Apart q p) :
    q <:+: replace p [] w ↔ ∃ t, Spread p q t ∧ t <:+: w := by
  constructor
  · intro h
    obtain ⟨t, ht, hpart, -⟩ := exists_spread_of_infix hne hq h
    exact ⟨t, ht, hpart⟩
  · rintro ⟨t, ht, xs, ys, rfl⟩
    refine ⟨replace p [] xs, replace p [] ys, ?_⟩
    rcases ht.eq_or_copy with rfl | ⟨s, r, rest, rfl, rfl, hrest⟩
    · rw [List.append_assoc, List.append_assoc, ← replace_other_append hne hother]
      refine (replace_append hne fun u v _ hv _ hstarts heq => ?_).symm
      -- what goes on behind `xs` begins with a character of the word
      obtain ⟨c, t, rfl⟩ := List.exists_cons_of_ne_nil hq
      obtain ⟨d, v, rfl⟩ := List.exists_cons_of_ne_nil hv
      obtain ⟨rfl, -⟩ := List.cons_prefix_cons.mp hstarts
      exact hother d List.mem_cons_self
        (heq ▸ List.mem_append_right u List.mem_cons_self)
    · obtain ⟨hs, hr⟩ := List.forall_mem_append.mp hother
      calc replace p [] xs ++ (s ++ r) ++ replace p [] ys
          = replace p [] (xs ++ s) ++ replace p [] (rest ++ ys) := by
            rw [replace_append_other hne hs, replace_spread_other hne hrest hr]
            simp only [List.append_assoc]
        _ = replace p [] (xs ++ (s ++ (p ++ rest)) ++ ys) := by
            rw [← hp.replace_around hne]
            simp only [List.append_assoc]

end

end Text
end WireWrapper
