import Mathlib.Data.List.Basic
import Mathlib.Data.List.TakeWhile
import WireWrapper.Text.Blank

/-!
# Words, trimmed and rendered texts

Which blanks stand between the words of a text, and how many, is all that rendering forgets; which
stand at its ends is all that trimming forgets.

* `IsBlanks`, `IsSolid`            a text of blanks only, and one without any;
* `flatten_words`                  the words in a row are the text without its blanks;
* `words_append_blanks`            blanks in front of a text are in no word of it;
* `words_intercalate`              words with one space in between are the words of their text;
* `exists_trim`, `trim_append`     trimming takes the blanks at the ends, all of them;
* `trim_append_solid`              trimming stops at what is not blank;
* `collapse_collapse`, `trim_trim` rendering twice and trimming twice;
* `mem_collapse`                   the only blank in a rendered text is the space.
-/

namespace WireWrapper
namespace Text

/-- nothing but blanks -/
def IsBlanks (cs : List Char) : Prop := ∀ c ∈ cs, isBlank c = true

instance (cs : List Char) : Decidable (IsBlanks cs) := List.decidableBAll _ cs

/-- no blank at all -/
def IsSolid (cs : List Char) : Prop := ∀ c ∈ cs, isBlank c = false

instance (cs : List Char) : Decidable (IsSolid cs) := List.decidableBAll _ cs

theorem IsBlanks.reverse {cs : List Char} (h : IsBlanks cs) : IsBlanks cs.reverse :=
  fun c hc => h c (List.mem_reverse.mp hc)

/-! ## words -/

theorem words_blank {c : Char} (hc : isBlank c = true) (cs : List Char) :
    words (c :: cs) = words cs := by
  rw [words, if_pos hc]

theorem words_word {w : List Char} (hne : w ≠ []) (hw : IsSolid w)
    {rest : List Char} (hrest : atWordEnd rest = true) : words (w ++ rest) = w :: words rest := by
  induction w with
  | nil => exact absurd rfl hne
  | cons c w ih =>
    have hc : ¬ isBlank c = true := by simp [hw c List.mem_cons_self]
    rw [List.cons_append, words, if_neg hc]
    cases w with
    | nil =>
      rw [List.nil_append, if_pos hrest]
    | cons d w =>
      have hd : ¬ atWordEnd (d :: w ++ rest) = true := by
        show ¬ isBlank d = true
        simp [hw d (List.mem_cons_of_mem c List.mem_cons_self)]
      rw [if_neg hd, ih (List.cons_ne_nil d w) fun x hx => hw x (List.mem_cons_of_mem c hx)]
      rfl

theorem mem_words {cs w : List Char} (hw : w ∈ words cs) :
    w ≠ [] ∧ IsSolid w := by
  induction cs generalizing w with
  | nil => cases hw
  | cons c cs ih =>
    rw [words] at hw
    split at hw
    · exact ih hw
    · next hc =>
      have hsolid : isBlank c = false := Bool.eq_false_iff.mpr hc
      split at hw
      · rcases List.mem_cons.mp hw with rfl | hw
        · exact ⟨List.cons_ne_nil _ _, List.forall_mem_singleton.mpr hsolid⟩
        · exact ih hw
      · -- the first word of the rest, if there is one, grows at its front
        cases hrest : words cs with
        | nil =>
          rw [hrest] at hw
          obtain rfl := List.mem_singleton.mp hw
          exact ⟨List.cons_ne_nil _ _, List.forall_mem_singleton.mpr hsolid⟩
        | cons v ws =>
          rw [hrest] at hw ih
          rcases List.mem_cons.mp hw with rfl | hw
          · refine ⟨List.cons_ne_nil _ _, fun d hd => ?_⟩
            rcases List.mem_cons.mp hd with rfl | hd
            · exact hsolid
            · exact (ih List.mem_cons_self).2 d hd
          · exact ih (List.mem_cons_of_mem v hw)

theorem flatten_extendWord (c : Char) (ws : List (List Char)) :
    (extendWord c ws).flatten = c :: ws.flatten := by
  cases ws with
  | nil => rfl
  | cons w ws => rfl

/-- the words of a text in a row are the text without its blanks -/
theorem flatten_words (cs : List Char) : (words cs).flatten = compact cs := by
  induction cs with
  | nil => rfl
  | cons c cs ih =>
    by_cases hc : isBlank c = true
    · rw [words_blank hc, ih, compact, compact, List.filter_cons_of_neg (by simp [hc])]
    · have hkept : compact (c :: cs) = c :: compact cs :=
        List.filter_cons_of_pos (by simp [hc])
      rw [hkept, ← ih, words, if_neg hc]
      split
      · rfl
      · exact flatten_extendWord c (words cs)

section
variable {blanks : List Char} (hblanks : IsBlanks blanks)
include hblanks

theorem words_append_blanks (cs : List Char) : words (blanks ++ cs) = words cs := by
  induction blanks with
  | nil => rfl
  | cons b blanks ih =>
    obtain ⟨hb, hrest⟩ := List.forall_mem_cons.mp hblanks
    rw [List.cons_append, words_blank hb, ih hrest]

theorem compact_append_blanks (cs : List Char) : compact (blanks ++ cs) = compact cs := by
  rw [← flatten_words, words_append_blanks hblanks, flatten_words]

theorem atWordEnd_append_blanks (hne : blanks ≠ []) (cs : List Char) :
    atWordEnd (blanks ++ cs) = true := by
  obtain ⟨b, blanks, rfl⟩ := List.exists_cons_of_ne_nil hne
  exact hblanks b List.mem_cons_self

end

theorem compact_solid {cs : List Char} (h : IsSolid cs) : compact cs = cs :=
  List.filter_eq_self.mpr fun c hc => by simp [h c hc]

theorem words_eq_nil_iff {cs : List Char} : words cs = [] ↔ IsBlanks cs := by
  unfold IsBlanks
  induction cs with
  | nil => simp [words]
  | cons c cs ih =>
    rw [words, List.forall_mem_cons]
    split
    · next hc => rw [ih, and_iff_right hc]
    · next hc =>
      refine iff_of_false ?_ fun h => hc h.1
      split
      · exact List.cons_ne_nil _ _
      · unfold extendWord
        split <;> exact List.cons_ne_nil _ _

/-- **Words with one space in between are the words of their text.** -/
theorem words_intercalate {ws : List (List Char)}
    (h : ∀ w ∈ ws, w ≠ [] ∧ IsSolid w) :
    words (List.intercalate [' '] ws) = ws := by
  induction ws with
  | nil => rfl
  | cons w ws ih =>
    obtain ⟨hne, hw⟩ := h w List.mem_cons_self
    have hws := ih fun v hv => h v (List.mem_cons_of_mem w hv)
    cases ws with
    | nil =>
      rw [List.intercalate_singleton, ← List.append_nil w, words_word hne hw rfl, List.append_nil]
      rfl
    | cons v ws =>
      have hspace : isBlank ' ' = true := by decide
      have hrest : atWordEnd ([' '] ++ List.intercalate [' '] (v :: ws)) = true := hspace
      rw [List.intercalate_cons_cons, List.append_assoc, words_word hne hw hrest]
      exact congrArg (w :: ·) ((words_blank hspace _).trans hws)

theorem words_collapse (cs : List Char) : words (collapse cs) = words cs :=
  words_intercalate fun _ => mem_words

theorem collapse_eq_nil_iff {cs : List Char} : collapse cs = [] ↔ IsBlanks cs := by
  rw [← words_eq_nil_iff]
  constructor
  · intro h
    rw [← words_collapse, h]
    rfl
  · intro h
    rw [collapse, h]
    rfl

theorem collapse_collapse (cs : List Char) : collapse (collapse cs) = collapse cs := by
  rw [collapse, words_collapse, collapse]

/-- the only blank in a rendered text is the space -/
theorem mem_collapse {cs : List Char} {c : Char} (hc : c ∈ collapse cs) :
    c = ' ' ∨ isBlank c = false := by
  have hjoined : ∀ ws : List (List Char), (∀ w ∈ ws, ∀ d ∈ w, isBlank d = false) →
      ∀ d ∈ List.intercalate [' '] ws, d = ' ' ∨ isBlank d = false := by
    intro ws
    induction ws with
    | nil => intro _ d hd; cases hd
    | cons w ws ih =>
      intro hws d hd
      have hw := hws w List.mem_cons_self
      cases ws with
      | nil =>
        rw [List.intercalate_singleton] at hd
        exact .inr (hw d hd)
      | cons v ws =>
        rw [List.intercalate_cons_cons, List.mem_append, List.mem_append,
          List.mem_singleton] at hd
        rcases hd with (hd | hd) | hd
        · exact .inr (hw d hd)
        · exact .inl hd
        · exact ih (fun u hu => hws u (List.mem_cons_of_mem w hu)) d hd
  exact hjoined (words cs) (fun w hw => (mem_words hw).2) c hc

/-! ## ends -/

theorem trimStart_append {front : List Char} (hfront : IsBlanks front) (cs : List Char) :
    trimStart (front ++ cs) = trimStart cs := List.dropWhile_append_of_pos hfront

theorem trimEnd_append (cs : List Char) {back : List Char} (hback : IsBlanks back) :
    trimEnd (cs ++ back) = trimEnd cs := by
  rw [trimEnd, trimEnd, List.reverse_append, List.dropWhile_append_of_pos hback.reverse]

theorem trim_append {front back : List Char} (hfront : IsBlanks front) (hback : IsBlanks back)
    (cs : List Char) : trim (front ++ cs ++ back) = trim cs := by
  rw [trim, List.append_assoc, trimStart_append hfront, trim]
  rw [trimStart, List.dropWhile_append]
  split
  · next hcs =>
    have hempty : cs.dropWhile isBlank = [] := List.isEmpty_iff.mp hcs
    rw [trimStart, hempty, List.dropWhile_eq_nil_iff.mpr hback]
  · exact trimEnd_append _ hback

theorem exists_trim (cs : List Char) :
    ∃ front back, IsBlanks front ∧ IsBlanks back ∧ cs = front ++ trim cs ++ back := by
  refine ⟨cs.takeWhile isBlank, ((trimStart cs).reverse.takeWhile isBlank).reverse, ?_, ?_, ?_⟩
  · exact fun c hc => List.mem_takeWhile_imp hc
  · exact IsBlanks.reverse fun c hc => List.mem_takeWhile_imp hc
  · have hback : trim cs ++ ((trimStart cs).reverse.takeWhile isBlank).reverse = trimStart cs := by
      rw [trim, trimEnd, ← List.reverse_append, List.takeWhile_append_dropWhile,
        List.reverse_reverse]
    rw [List.append_assoc, hback]
    exact List.takeWhile_append_dropWhile.symm

theorem trim_eq_nil_iff {cs : List Char} : trim cs = [] ↔ IsBlanks cs := by
  constructor
  · intro h
    obtain ⟨front, back, hfront, hback, hcs⟩ := exists_trim cs
    rw [h, List.append_nil] at hcs
    rw [hcs]
    exact List.forall_mem_append.mpr ⟨hfront, hback⟩
  · intro h
    have hnone : IsBlanks [] := fun _ hc => absurd hc List.not_mem_nil
    exact trim_append hnone h []

theorem getLast?_trim {cs : List Char} {c : Char} (h : (trim cs).getLast? = some c) :
    isBlank c = false := by
  rw [trim, trimEnd, List.getLast?_reverse] at h
  have hhead := List.head?_dropWhile_not isBlank (trimStart cs).reverse
  rw [h] at hhead
  exact hhead

theorem trim_append_solid {c : Char} {rest : List Char} (hc : isBlank c = false)
    (hlast : ∀ d, (c :: rest).getLast? = some d → isBlank d = false) (cs : List Char) :
    trim (cs ++ c :: rest) = trimStart cs ++ c :: rest := by
  have hstart : trimStart (cs ++ c :: rest) = trimStart cs ++ c :: rest := by
    have hpart : (c :: rest).dropWhile isBlank = c :: rest :=
      List.dropWhile_cons_of_neg (by simp [hc])
    rw [trimStart, List.dropWhile_append, hpart]
    split
    · next hcs => rw [trimStart, List.isEmpty_iff.mp hcs, List.nil_append]
    · rfl
  have hend : (trimStart cs ++ c :: rest).reverse.dropWhile isBlank
      = (trimStart cs ++ c :: rest).reverse := by
    obtain ⟨front, d, hfront⟩ := (List.eq_nil_or_concat' (c :: rest)).resolve_left
      (List.cons_ne_nil c rest)
    have hd : isBlank d = false := hlast d (by rw [hfront]; simp)
    rw [hfront, ← List.append_assoc, List.reverse_concat]
    exact List.dropWhile_cons_of_neg (by simp [hd])
  rw [trim, hstart, trimEnd, hend, List.reverse_reverse]

theorem trim_trim (cs : List Char) : trim (trim cs) = trim cs := by
  obtain ⟨front, back, hfront, hback, hcs⟩ := exists_trim cs
  have h := trim_append hfront hback (trim cs)
  rw [← hcs] at h
  exact h.symm

end Text
end WireWrapper
