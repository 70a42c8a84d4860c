import Mathlib.Data.List.Basic
import WireWrapper.Text.Replace

/-!
# The parts of a text

A text is cut at each of its separators, and no separator is left in the parts.

* `intercalate_pieces`     the parts of a text and their separators are the text;
* `pieces_append`          at a separator, the parts on either side are those of the two sides;
* `pieces_eq_singleton`    a text without separators is its only part;
* `mem_of_mem_pieces`, `mem_pieces_of_mem`   the characters of the parts.
-/

namespace WireWrapper
namespace Text

/-- a text from its parts and the one separator between them -/
theorem intercalate_pieces (separator : Char) (cs : List Char) :
    List.intercalate [separator] (pieces (· == separator) cs) = cs := by
  induction cs with
  | nil => rfl
  | cons c cs ih =>
    obtain ⟨p, ps, hp⟩ := List.exists_cons_of_ne_nil (pieces_ne_nil (· == separator) cs)
    rw [hp] at ih
    rw [pieces, hp]
    by_cases hc : c = separator
    · rw [if_pos (beq_iff_eq.mpr hc), List.intercalate_cons_cons, ih, hc]
      rfl
    · rw [if_neg (by simp [hc])]
      show List.intercalate [separator] ((c :: p) :: ps) = c :: cs
      cases ps with
      | nil =>
        rw [List.intercalate_singleton] at ih ⊢
        rw [ih]
      | cons q ps =>
        rw [List.intercalate_cons_cons] at ih ⊢
        rw [← ih]
        rfl

theorem mem_pieces_of_mem {isSeparator : Char → Bool} {cs : List Char} {c : Char} (hc : c ∈ cs) :
    isSeparator c = true ∨ ∃ p ∈ pieces isSeparator cs, c ∈ p := by
  induction cs with
  | nil => cases hc
  | cons d cs ih =>
    obtain ⟨p, ps, hp⟩ := List.exists_cons_of_ne_nil (pieces_ne_nil isSeparator cs)
    rw [hp] at ih
    rw [pieces, hp]
    by_cases hd : isSeparator d = true
    · rw [if_pos hd]
      rcases List.mem_cons.mp hc with rfl | hc
      · exact .inl hd
      · rcases ih hc with hsep | ⟨q, hq, hcq⟩
        · exact .inl hsep
        · exact .inr ⟨q, List.mem_cons_of_mem [] hq, hcq⟩
    · rw [if_neg hd]
      rcases List.mem_cons.mp hc with rfl | hc
      · exact .inr ⟨c :: p, List.mem_cons_self, List.mem_cons_self⟩
      · rcases ih hc with hsep | ⟨q, hq, hcq⟩
        · exact .inl hsep
        · rcases List.mem_cons.mp hq with rfl | hq
          · exact .inr ⟨d :: q, List.mem_cons_self, List.mem_cons_of_mem d hcq⟩
          · exact .inr ⟨q, List.mem_cons_of_mem _ hq, hcq⟩

theorem pieces_congr {p q : Char → Bool} {cs : List Char} (h : ∀ c ∈ cs, p c = q c) :
    pieces p cs = pieces q cs := by
  induction cs with
  | nil => rfl
  | cons c cs ih =>
    rw [pieces, pieces, h c List.mem_cons_self, ih fun d hd => h d (List.mem_cons_of_mem c hd)]

theorem pieces_eq_singleton {isSeparator : Char → Bool} {cs : List Char}
    (h : ∀ c ∈ cs, isSeparator c = false) : pieces isSeparator cs = [cs] := by
  induction cs with
  | nil => rfl
  | cons c cs ih =>
    have hc : ¬ isSeparator c = true := by simp [h c List.mem_cons_self]
    rw [pieces, if_neg hc, ih fun d hd => h d (List.mem_cons_of_mem c hd)]

theorem pieces_append {isSeparator : Char → Bool} {b : Char} (hb : isSeparator b = true)
    (xs ys : List Char) :
    pieces isSeparator (xs ++ b :: ys) = pieces isSeparator xs ++ pieces isSeparator ys := by
  induction xs with
  | nil =>
    show pieces isSeparator (b :: ys) = [] :: pieces isSeparator ys
    rw [pieces, if_pos hb]
  | cons x xs ih =>
    rw [List.cons_append, pieces, pieces, ih]
    split
    · rfl
    · obtain ⟨p, ps, hp⟩ := List.exists_cons_of_ne_nil (pieces_ne_nil isSeparator xs)
      rw [hp]
      rfl

theorem mem_of_mem_pieces {isSeparator : Char → Bool} {cs p : List Char} {c : Char}
    (hp : p ∈ pieces isSeparator cs) (hc : c ∈ p) : isSeparator c = false ∧ c ∈ cs := by
  induction cs generalizing p with
  | nil =>
    rw [List.mem_singleton.mp hp] at hc
    cases hc
  | cons d cs ih =>
    rw [pieces] at hp
    split at hp
    · rcases List.mem_cons.mp hp with rfl | hp
      · cases hc
      · exact (ih hp hc).imp_right (List.mem_cons_of_mem d)
    · next hd =>
      obtain ⟨q, qs, hq⟩ := List.exists_cons_of_ne_nil (pieces_ne_nil isSeparator cs)
      rw [hq] at hp ih
      rcases List.mem_cons.mp hp with rfl | hp
      · rcases List.mem_cons.mp hc with rfl | hc
        · exact ⟨Bool.eq_false_iff.mpr hd, List.mem_cons_self⟩
        · exact (ih List.mem_cons_self hc).imp_right (List.mem_cons_of_mem d)
      · exact (ih (List.mem_cons_of_mem q hp) hc).imp_right (List.mem_cons_of_mem d)

end Text
end WireWrapper
