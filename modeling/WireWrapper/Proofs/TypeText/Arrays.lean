import WireWrapper.Proofs.Text.Deleted
import WireWrapper.TypeText

/-!
# Documented arrays

A text that mentions an array means the arrays of one of its words.  The word for arrays is deleted
from this word, and the word `of` from what is left, each in one pass.  A pass does not look at its
own result: where a marker stood in parts around whole markers, it is there again after the pass.

* `Normalizer.withoutArray`    the element word after the first pass;
* `Normalizer.elementText`     and after both;
* `normalize_array`            what a text with an array means, and exactly when a marker is left.
-/

namespace WireWrapper
namespace Normalizer

/-- the element word of a substituted text, with the word for arrays deleted -/
def withoutArray (n : Normalizer) (cs : List Char) : List Char :=
  Text.replace "array".toList [] (n.elementWord cs)

/-- the element word of a substituted text, with both markers deleted -/
def elementText (n : Normalizer) (cs : List Char) : List Char :=
  Text.replace "of".toList [] (n.withoutArray cs)

theorem unbordered_array : Text.Unbordered "array".toList :=
  Text.unbordered_concat (by decide : 'y' ∉ "arra".toList)

theorem unbordered_of : Text.Unbordered "of".toList :=
  Text.unbordered_concat (by decide : 'f' ∉ "o".toList)

/-- **A text with an array** means arrays of its element word without the markers.  `of` is left
exactly if it stood in parts around copies of itself after the first pass; `array` is left exactly
if it stood there whole, or with copies of `of` among its characters; and after the first pass it is
there exactly if it stood in parts around copies of itself in the element word. -/
theorem normalize_array (n : Normalizer) (raw : String)
    (h : "array".toList <:+: Text.compact (n.substitute raw.toList)) :
    n.normalize raw = String.ofList (n.elementText (n.substitute raw.toList) ++ ['[', ']']) ∧
    ("of".toList <:+: n.elementText (n.substitute raw.toList) ↔
      ∃ t, Text.Parted "of".toList t ∧ t <:+: n.withoutArray (n.substitute raw.toList)) ∧
    ("array".toList <:+: n.elementText (n.substitute raw.toList) ↔
      ∃ t, Text.Spread "of".toList "array".toList t ∧
        t <:+: n.withoutArray (n.substitute raw.toList)) ∧
    ("array".toList <:+: n.withoutArray (n.substitute raw.toList) ↔
      ∃ t, Text.Parted "array".toList t ∧ t <:+: n.elementWord (n.substitute raw.toList)) := by
  refine ⟨?_, ?_, ?_, ?_⟩
  · rw [normalize, ofSubstituted, if_pos (Text.occursIn_iff.mpr h)]
    rfl
  · exact Text.infix_replace_self_iff unbordered_of (by decide)
  · exact Text.infix_replace_iff (by decide) unbordered_of (by decide) (by decide)
  · exact Text.infix_replace_self_iff unbordered_array (by decide)

/-- The words around an element type are no part of it, and a marker inside it is deleted. -/
theorem normalize_array_proof :
    "array".toList <:+: Text.compact (stock.substitute "Array of Proof".toList) ∧
    stock.normalize "Array of Proof" = "pro[]" := by
  have h : "array".toList <:+: Text.compact (stock.substitute "Array of Proof".toList) :=
    Text.occursIn_iff.mp (by decide)
  have helement : stock.elementText (stock.substitute "Array of Proof".toList) = "pro".toList := by
    decide
  obtain ⟨hwhole, -⟩ := normalize_array stock "Array of Proof" h
  rw [helement] at hwhole
  exact ⟨h, hwhole⟩

/-- Where `arr` and `ay` stood around a marker, the marker is there again. -/
theorem normalize_array_joined :
    "array".toList <:+: Text.compact (stock.substitute "arrarrayay".toList) ∧
    ¬ ∃ e, stock.normalize "arrarrayay" = String.ofList (e ++ ['[', ']']) ∧
      ¬ "array".toList <:+: e ∧ ¬ "of".toList <:+: e := by
  refine ⟨Text.occursIn_iff.mp (by decide), ?_⟩
  rintro ⟨e, he, harray, -⟩
  have hjoined : stock.normalize "arrarrayay" = String.ofList ("array".toList ++ ['[', ']']) := by
    decide
  rw [hjoined, String.ofList_inj, List.append_left_inj] at he
  exact harray (he ▸ List.infix_rfl)

end Normalizer
end WireWrapper
