import WireWrapper.Proofs.Source.Lines
import WireWrapper.Proofs.Text.Pieces

/-!
# The lines of a text

A writer ends each line with a break.  So a text that was put together from such texts has the lines
of these in turn, and what was written as one line is one, as long as no break stands in it.

* `Unbroken`               a text without line breaks;
* `sourceLines`            the lines of a text, each up to its break;
* `sourceLines_append`, `sourceLines_joinMap`   the lines of texts that stand one behind the other;
* `sourceLines_lineText`   a line that was written is one line;
* `paragraph_eq_lineText`  so is a text whose line breaks count, if there are none.
-/

namespace WireWrapper

/-! ## texts without breaks -/

/-- no line break stands in a text -/
def Unbroken (s : String) : Prop := '\n' ∉ s.toList

instance (s : String) : Decidable (Unbroken s) := instDecidableNot

theorem unbroken_append {s t : String} : Unbroken (s ++ t) ↔ Unbroken s ∧ Unbroken t := by
  unfold Unbroken
  rw [String.toList_append, List.mem_append, not_or]

theorem Unbroken.pieces {s : String} (hs : Unbroken s) :
    Text.pieces (· == '\n') s.toList = [s.toList] := by
  refine Text.pieces_eq_singleton fun c hc => beq_false_of_ne ?_
  rintro rfl
  exact hs hc

theorem unbroken_padding (depth : Nat) : Unbroken (Source.padding depth) := by
  intro h
  rw [Source.padding, String.toList_ofList] at h
  exact absurd (List.eq_of_mem_replicate h) (by decide)

/-! ## lines -/

theorem pieces_break (xs ys : List Char) :
    Text.pieces (· == '\n') (xs ++ '\n' :: ys)
      = Text.pieces (· == '\n') xs ++ Text.pieces (· == '\n') ys := by
  apply Text.pieces_append
  rfl

/-- the lines of a text, each up to its break; text behind the last break is no line -/
def sourceLines (s : String) : List String :=
  ((Text.pieces (· == '\n') s.toList).dropLast).map String.ofList

/-- a text that ends with a break has the lines of any other text behind its own -/
theorem sourceLines_append {s : String} (hs : Source.endsWithBreak s = true) (t : String) :
    sourceLines (s ++ t) = sourceLines s ++ sourceLines t := by
  rw [Source.endsWithBreak, beq_iff_eq] at hs
  obtain ⟨front, hfront⟩ := List.getLast?_eq_some_iff.mp hs
  have hne := Text.pieces_ne_nil (· == '\n') t.toList
  -- what stands behind the last break of the first text is empty, and is not a line
  have hown : (Text.pieces (· == '\n') s.toList).dropLast = Text.pieces (· == '\n') front := by
    rw [hfront, pieces_break]
    exact List.dropLast_concat
  unfold sourceLines
  rw [hown, String.toList_append, hfront, List.append_assoc, List.singleton_append, pieces_break,
    List.dropLast_append_of_ne_nil hne, List.map_append]

theorem sourceLines_joinMap {α : Type} {f : α → String}
    (hf : ∀ x, Source.endsWithBreak (f x) = true) (xs : List α) (t : String) :
    sourceLines (joinMap f xs ++ t) = (xs.flatMap fun x => sourceLines (f x)) ++ sourceLines t := by
  induction xs with
  | nil => rw [joinMap_nil, String.empty_append, List.flatMap_nil, List.nil_append]
  | cons x xs ih =>
    rw [joinMap_cons, String.append_assoc, sourceLines_append (hf x), ih, List.flatMap_cons,
      List.append_assoc]

/-! ## what was written as one line -/

theorem sourceLines_break {s : String} (hs : Unbroken s) : sourceLines (s ++ "\n") = [s] := by
  unfold sourceLines
  rw [String.toList_append]
  show ((Text.pieces (· == '\n') (s.toList ++ ['\n'])).dropLast).map String.ofList = [s]
  rw [pieces_break, hs.pieces]
  show [String.ofList s.toList] = [s]
  rw [String.ofList_toList]

theorem sourceLines_lineText (depth : Nat) {s : String} (hs : Unbroken s) (hne : s ≠ "") :
    sourceLines (lineText depth s) = [Source.padding depth ++ s] := by
  rw [lineText, if_neg (mt String.isEmpty_iff.mp hne)]
  exact sourceLines_break (unbroken_append.mpr ⟨unbroken_padding depth, hs⟩)

theorem paragraph_eq_lineText (depth : Nat) {s : String} (hs : Unbroken s) :
    paragraph depth s = lineText depth s := by
  rw [paragraph, hs.pieces, List.map_singleton, joinMap_singleton, String.ofList_toList]

theorem paragraph_endsWithBreak (depth : Nat) (s : String) :
    Source.endsWithBreak (paragraph depth s) = true := by
  have hne : (Text.pieces (· == '\n') s.toList).map String.ofList ≠ [] :=
    mt List.map_eq_nil_iff.mp (Text.pieces_ne_nil _ _)
  exact Source.endsWithBreak_joinMap (Source.lineText_endsWithBreak depth) hne

theorem sourceLines_paragraph (depth : Nat) {s : String} (hs : Unbroken s) (hne : s ≠ "") :
    sourceLines (paragraph depth s) = [Source.padding depth ++ s] := by
  rw [paragraph_eq_lineText depth hs, sourceLines_lineText depth hs hne]

theorem sourceLines_paragraphs (depth : Nat) {ss : List String}
    (hss : ∀ s ∈ ss, Unbroken s ∧ s ≠ "") (t : String) :
    sourceLines (joinMap (paragraph depth) ss ++ t)
      = ss.map (Source.padding depth ++ ·) ++ sourceLines t := by
  rw [sourceLines_joinMap (paragraph_endsWithBreak depth), List.map_eq_flatMap]
  refine congrArg (· ++ sourceLines t) (List.flatMap_congr fun s hs => ?_)
  exact sourceLines_paragraph depth (hss s hs).1 (hss s hs).2

end WireWrapper
