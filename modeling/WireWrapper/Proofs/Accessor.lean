import WireWrapper.Accessor
import WireWrapper.Proofs.Source.TextLines
import WireWrapper.Proofs.Text.CaseImages
import WireWrapper.Proofs.Text.Rendered
import WireWrapper.Proofs.Text.Replaced

/-!
# Names and types of accessors

An accessor has its name from a documented name and its type from a documented type or from the
modifier.  No line break of the documentation gets into either: a name keeps name characters only, a
type no blank at all.  What else stands in them comes from the settings and from the catalog.

* `capitalizeWords_unbroken`, `accessor_unbroken`   a name: its words, then with synonyms replaced;
* `longer_eq_or`, `elementWord_eq_nil_or`   the word for an element type is one of the text;
* `mem_ofSubstituted`                   no blank stands in a type, be it that of an array or not;
* `typingOf_unbroken`                   the type of an accessor;
* `FieldEntry.accessor_eq_ok`           what an accessor is made of.
-/

namespace WireWrapper

/-! ## names -/

namespace Name

theorem mem_capitalizeChars {cs : List Char} {d : Char} (h : d ∈ capitalizeChars cs) :
    (∃ c ∈ cs, d ∈ Text.upperChar c) ∨ d ∈ cs := by
  cases cs with
  | nil => cases h
  | cons c cs =>
    rcases List.mem_append.mp h with h | h
    · exact .inl ⟨c, List.mem_cons_self, h⟩
    · exact .inr (List.mem_cons_of_mem c h)

theorem capitalizeWords_unbroken (cs : List Char) : '\n' ∉ capitalizeWordsChars cs := by
  intro h
  obtain ⟨p, hp, hbreak⟩ := List.mem_flatMap.mp h
  -- upper case does not bring a break in, and a break is no name character
  have hmem : '\n' ∈ p := by
    rcases mem_capitalizeChars hbreak with ⟨c, hc, himage⟩ | hmem
    · rw [Text.mem_upperChar_eq himage (by decide) (by decide)]
      exact hc
    · exact hmem
  exact absurd (Text.mem_of_mem_pieces hp hmem).1 (by decide)

theorem accessor_unbroken {synonyms : List (String × String)}
    (hsynonyms : ∀ rule ∈ synonyms, Unbroken rule.2) (displayName : String) :
    Unbroken (accessor displayName synonyms) := by
  unfold Unbroken accessor
  rw [String.toList_ofList]
  intro h
  rcases Text.mem_replaceAll h with ⟨rule, hrule, hbreak⟩ | hbreak
  · exact hsynonyms rule hrule hbreak
  · exact capitalizeWords_unbroken _ hbreak

end Name

/-! ## types -/

namespace Normalizer

theorem longer_eq_or (best w : List Char) : longer best w = best ∨ longer best w = w := by
  unfold longer
  split
  · exact .inr rfl
  · exact .inl rfl

theorem foldl_longer_eq_or (ws : List (List Char)) (best : List Char) :
    ws.foldl longer best = best ∨ ws.foldl longer best ∈ ws := by
  induction ws generalizing best with
  | nil => exact .inl rfl
  | cons w ws ih =>
    rw [List.foldl_cons]
    rcases ih (longer best w) with hbest | hmem
    · rw [hbest, List.mem_cons]
      exact (longer_eq_or best w).imp_right .inl
    · exact .inr (List.mem_cons_of_mem w hmem)

variable (n : Normalizer)

theorem elementWord_eq_nil_or (cs : List Char) :
    n.elementWord cs = [] ∨ n.elementWord cs ∈ Text.words cs := by
  unfold elementWord
  exact (foldl_longer_eq_or _ []).imp_right List.mem_of_mem_filter

theorem mem_elementWord {cs : List Char} {c : Char} (h : c ∈ n.elementWord cs) :
    Text.isBlank c = false := by
  rcases n.elementWord_eq_nil_or cs with hnone | hword
  · rw [hnone] at h
    cases h
  · exact (Text.mem_words hword).2 c h

/-- **No blank stands in a type.**  That of an array is a word of the text with parts taken out, any
other one the text with its blanks taken out. -/
theorem mem_ofSubstituted {cs : List Char} {c : Char} (h : c ∈ n.ofSubstituted cs) :
    Text.isBlank c = false := by
  unfold ofSubstituted at h
  dsimp only at h
  split at h
  · rcases List.mem_append.mp h with h | h
    · have hword := (Text.mem_replace h).resolve_left List.not_mem_nil
      exact n.mem_elementWord ((Text.mem_replace hword).resolve_left List.not_mem_nil)
    · rcases List.mem_pair.mp h with rfl | rfl
      · decide
      · decide
  · unfold Text.compact at h
    simpa using List.of_mem_filter h

theorem normalize_unbroken (raw : String) : Unbroken (n.normalize raw) := by
  unfold Unbroken normalize
  rw [String.toList_ofList]
  intro h
  exact absurd (n.mem_ofSubstituted h) (by decide)

end Normalizer

theorem typingOf_unbroken (n : Normalizer) {m : Modifier} (hm : Unbroken m.outputType)
    (doc : DocField) : Unbroken (typingOf n m doc).declared := by
  unfold typingOf
  split
  · exact hm
  · dsimp only
    split
    · exact hm
    · exact n.normalize_unbroken doc.typeText

/-! ## accessors -/

theorem index_unbroken (index : Nat) : Unbroken (toString index) := by
  unfold Unbroken
  rw [Nat.toString_eq_ofList_toDigits, String.toList_ofList]
  intro h
  have hdigit : ('\n').isDigit = true := Nat.isDigit_of_mem_toDigits (by decide) (by decide) h
  exact absurd hdigit (by decide)

theorem castText_unbroken {type : String} (htype : Unbroken type) (needed : Bool) :
    Unbroken (castText needed type) := by
  cases needed with
  | false =>
    show Unbroken ""
    decide
  | true =>
    have hopen : Unbroken " (" := by decide
    have hclose : Unbroken ")" := by decide
    exact unbroken_append.mpr ⟨unbroken_append.mpr ⟨hopen, htype⟩, hclose⟩

theorem FieldEntry.accessor_eq_ok {e : FieldEntry} {c : Config} {n : Normalizer} {a : Accessor}
    (h : e.accessor c n = .ok a) :
    a.name = Name.accessor e.displayName c.nameSynonyms ∧ a.typing = typingOf n e.modifier e.doc ∧
      slotIndex e.memoryOrder e.field = .ok a.index := by
  unfold FieldEntry.accessor at h
  dsimp only at h
  split at h
  · cases h
  · split at h
    · cases h
    · cases hindex : slotIndex e.memoryOrder e.field with
      | error failure =>
        rw [hindex] at h
        cases h
      | ok index =>
        rw [hindex] at h
        obtain rfl := Except.ok.inj h
        exact ⟨rfl, rfl, rfl⟩

end WireWrapper
