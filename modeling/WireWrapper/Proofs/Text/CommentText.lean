import WireWrapper.Accessor
import WireWrapper.Proofs.Source.JavaInput
import WireWrapper.Proofs.Text.CaseImages
import WireWrapper.Proofs.Text.Rendered

/-!
# Documentation text

What is written of a name or of notes is one line, and the end of a comment does not stand in it.
The first letter of notes is put in lower case afterwards, which changes neither: letters have letters
as their lower case.

* `commentText_isLine`, `commentText_comment`   one line, without the end of a comment;
* `lowerFirst_isLine`, `lowerFirst_comment`     so the first letter may change its case;
* `noteText`                                    notes as they are written.
-/

namespace WireWrapper

/-! ## documentation text -/

theorem commentText_toList (s : String) :
    (commentText s).toList
      = Text.replaceFrom ['*', '/'] ('*' :: "&#47;".toList) 0 (Text.collapse s.toList) := by
  rw [commentText, String.toList_ofList]
  rfl

theorem commentText_isLine (s : String) : IsLine (commentText s) := by
  intro c hc
  have hblank : c = ' ' ∨ Text.isBlank c = false := by
    rw [commentText_toList] at hc
    rcases Text.mem_replaceFrom hc with hc | hc
    · have hsolid : ('*' :: "&#47;".toList).any Text.isBlank = false := by decide
      exact .inr (Bool.eq_false_iff.mpr (List.any_eq_false.mp hsolid c hc))
    · exact Text.mem_collapse hc
  constructor
  · rintro rfl
    exact absurd hblank (by decide)
  · rintro rfl
    exact absurd hblank (by decide)

/-- **The end of a comment does not stand in documentation text.** -/
theorem commentText_comment (s : String) : ¬ ['*', '/'] <:+: (commentText s).toList := by
  rw [commentText_toList]
  exact (Text.not_pair_infix_replaceFrom (by decide) (by decide) (by decide) (by decide) _).1

/-! ## the first letter in lower case -/

theorem lowerFirst_isLine {s : String} (hs : IsLine s) : IsLine (Name.lowerFirst s) := by
  rw [Name.lowerFirst, IsLine, String.toList_ofList]
  rw [IsLine] at hs
  cases hcs : s.toList with
  | nil => exact fun c hc => absurd hc List.not_mem_nil
  | cons c cs =>
    rw [hcs] at hs
    intro d hd
    rcases List.mem_append.mp hd with hd | hd
    · constructor
      · rintro rfl
        obtain rfl := Text.mem_lowerChar_eq hd (by decide) (by decide)
        exact (hs _ List.mem_cons_self).1 rfl
      · rintro rfl
        obtain rfl := Text.mem_lowerChar_eq hd (by decide) (by decide)
        exact (hs _ List.mem_cons_self).2 rfl
    · exact hs d (List.mem_cons_of_mem c hd)

theorem lowerFirst_comment {s : String} (hs : ¬ ['*', '/'] <:+: s.toList) :
    ¬ ['*', '/'] <:+: (Name.lowerFirst s).toList := by
  rw [Name.lowerFirst, String.toList_ofList]
  cases hcs : s.toList with
  | nil => decide
  | cons c cs =>
    rw [hcs, Text.pair_infix_cons] at hs
    obtain ⟨hc, hcs⟩ := not_or.mp hs
    show ¬ ['*', '/'] <:+: Text.lowerChar c ++ cs
    rw [Text.pair_infix_append]
    rintro (hpair | hpair | ⟨hlast, hhead⟩)
    · -- both would be the character itself
      have hstar := Text.mem_lowerChar_eq (hpair.subset List.mem_cons_self) (by decide) (by decide)
      have hslash := Text.mem_lowerChar_eq (hpair.subset (List.mem_cons_of_mem _ List.mem_cons_self))
        (by decide) (by decide)
      exact absurd (hstar.trans hslash.symm) (by decide)
    · exact hcs hpair
    · have hstar := Text.mem_lowerChar_eq (List.mem_of_getLast? hlast) (by decide) (by decide)
      exact hc ⟨hstar.symm, hhead⟩

/-- the notes of a field as they stand in its Javadoc -/
def noteText (doc : DocField) : String := Name.lowerFirst (commentText doc.notes)

theorem noteText_isLine (doc : DocField) : IsLine (noteText doc) :=
  lowerFirst_isLine (commentText_isLine doc.notes)

theorem noteText_eq_empty_iff {doc : DocField} :
    noteText doc = "" ↔ Text.IsBlanks doc.notes.toList := by
  have hcomment : (commentText doc.notes).toList = [] ↔ Text.IsBlanks doc.notes.toList := by
    rw [commentText_toList, Text.replaceFrom_eq_nil_iff (List.cons_ne_nil _ _),
      Text.collapse_eq_nil_iff]
  have hlower : Name.lowerFirstChars (commentText doc.notes).toList = [] ↔
      (commentText doc.notes).toList = [] := by
    cases (commentText doc.notes).toList with
    | nil => exact iff_of_true rfl rfl
    | cons c cs =>
      exact iff_of_false (List.append_ne_nil_of_left_ne_nil (Text.lowerChar_ne_nil c) cs)
        (List.cons_ne_nil c cs)
  rw [← String.toList_eq_nil_iff, noteText, Name.lowerFirst, String.toList_ofList, hlower, hcomment]

theorem noteText_comment (doc : DocField) : ¬ ['*', '/'] <:+: (noteText doc).toList :=
  lowerFirst_comment (commentText_comment doc.notes)

end WireWrapper
