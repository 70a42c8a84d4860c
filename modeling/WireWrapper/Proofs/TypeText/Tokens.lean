import WireWrapper.Proofs.TypeText.NameTexts

/-!
# Types in one word

A type is declared in the header of a method, so it must not fall apart into words.  Blanks come in
with the documentation, and with replacements that hold some.  A text without an array loses its
blanks as the last thing that is done to it.  The type of an array is looked for before the blanks go,
but as a word, and what is left of a word when parts of it are deleted has no blanks either.

* `deleted_sublist`        to delete a pattern takes characters out and brings none in;
* `elementText_sublist`    an element type is one word, or no word, with characters taken out;
* `normalize_oneWord`      a documented type has no blank, whichever way it was found.
-/

namespace WireWrapper

namespace Text

theorem replaceFrom_nil_sublist (p : List Char) (skip : Nat) (cs : List Char) :
    (replaceFrom p [] skip cs).Sublist cs := by
  induction cs generalizing skip with
  | nil => cases skip <;> exact List.Sublist.slnil
  | cons c cs ih =>
    cases skip with
    | succ skip => exact (ih skip).cons c
    | zero =>
      rw [replaceFrom]
      split
      · exact (ih (p.length - 1)).cons c
      · exact (ih 0).cons_cons c

theorem deleted_sublist (p cs : List Char) : (replace p [] cs).Sublist cs := by
  cases p with
  | nil =>
    have hself : replace [] [] cs = cs := List.flatMap_singleton' cs
    rw [hself]
  | cons c p => exact replaceFrom_nil_sublist (c :: p) 0 cs

theorem words_solid {cs : List Char} (h : IsSolid cs) : words cs = [cs] ∨ cs = [] := by
  by_cases hcs : cs = []
  · exact .inr hcs
  · have hword : words (cs ++ []) = cs :: words [] := words_word hcs h rfl
    rw [List.append_nil] at hword
    exact .inl hword

end Text

namespace Normalizer
variable (n : Normalizer)

theorem elementText_sublist (cs : List Char) : (n.elementText cs).Sublist (n.elementWord cs) :=
  (Text.deleted_sublist _ _).trans (Text.deleted_sublist _ _)

/-- **A documented type is one word, or empty.**  It has no blank, whatever the replacements bring
in: without an array it is all of the substituted text but the blanks, and of an array it is a part of
one of the words, if there is one, and the brackets. -/
theorem normalize_oneWord (raw : String) :
    (∀ c ∈ (n.normalize raw).toList, Text.isBlank c = false) ∧
    (Text.words (n.normalize raw).toList = [(n.normalize raw).toList] ∨ n.normalize raw = "") ∧
    (mentionsArray (n.substitute raw.toList) = false →
      (n.normalize raw).toList = Text.compact (n.substitute raw.toList)) ∧
    (mentionsArray (n.substitute raw.toList) = true →
      ∃ word part, (word = [] ∨ word ∈ Text.words (n.substitute raw.toList)) ∧
        part.Sublist word ∧ (n.normalize raw).toList = part ++ ['[', ']']) := by
  have hsolid : Text.IsSolid (n.normalize raw).toList := by
    rw [normalize, String.toList_ofList]
    exact fun c hc => n.mem_ofSubstituted hc
  refine ⟨hsolid, ?_, fun hplain => ?_, fun harray => ?_⟩
  · rw [← String.toList_eq_nil_iff]
    exact Text.words_solid hsolid
  · rw [normalize_toList, coreText, hplain, if_neg Bool.false_ne_true, if_neg Bool.false_ne_true,
      List.append_nil]
  · refine ⟨n.elementWord (n.substitute raw.toList), n.elementText (n.substitute raw.toList),
      n.elementWord_eq_nil_or _, n.elementText_sublist _, ?_⟩
    rw [normalize_toList, coreText, harray, if_pos rfl, if_pos rfl]

/-- replacements with blanks in them, one of which mentions an array -/
def spacedNormalizer : Normalizer :=
  ⟨[("slot", "item\tstacks of "), ("map", "array\u3000of")], ["of"]⟩

/-- Blanks of the documentation and of the replacements are gone. -/
theorem normalize_oneWord_spaced :
    mentionsArray (spacedNormalizer.substitute "Slot\u00A0Data".toList) = false ∧
    spacedNormalizer.normalize "Slot\u00A0Data" = "itemstacksofdata" ∧
    (∀ c ∈ (spacedNormalizer.normalize "Slot\u00A0Data").toList, Text.isBlank c = false) ∧
    mentionsArray (spacedNormalizer.substitute "Map Slot".toList) = true ∧
    (∃ word part,
      (word = [] ∨ word ∈ Text.words (spacedNormalizer.substitute "Map Slot".toList)) ∧
        part.Sublist word ∧
        (spacedNormalizer.normalize "Map Slot").toList = part ++ ['[', ']']) ∧
    spacedNormalizer.normalize "Map Slot" = "stacks[]" := by
  have hplain : mentionsArray (spacedNormalizer.substitute "Slot\u00A0Data".toList) = false := by
    decide
  have harray : mentionsArray (spacedNormalizer.substitute "Map Slot".toList) = true := by decide
  obtain ⟨hsolid, -, hkept, -⟩ := spacedNormalizer.normalize_oneWord "Slot\u00A0Data"
  obtain ⟨-, -, -, hpart⟩ := spacedNormalizer.normalize_oneWord "Map Slot"
  refine ⟨hplain, ?_, hsolid, harray, hpart harray, by decide⟩
  rw [← String.toList_inj, hkept hplain]
  decide

end Normalizer
end WireWrapper
