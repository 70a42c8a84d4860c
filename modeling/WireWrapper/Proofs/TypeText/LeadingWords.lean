import WireWrapper.Proofs.Text.Rendered
import WireWrapper.Proofs.Text.Seams
import WireWrapper.TypeText

/-!
# Words in front of a type

Documentation puts words in front of a type: `Unsigned` and `Optional`, which say nothing about the
Java type, and `Array of`.  The blank behind such a word keeps it apart from the type: the stock
replacements leave the word `array` and the word `of` alone, delete the two others, and do to the type
what they would do to it by itself.

* `IsLead`                    a word in any letter case with blanks behind it;
* `substitute_lead`           such a word in front of a text, with the replacements made;
* `ofSubstituted_blanks`      blanks in front of a type say nothing;
* `elementWord_stopword`, `elementWord_solid`   the element word behind a stopword, and of one word;
* `normalize_qualified`       qualifiers in front of a type do not change it;
* `normalize_arrayOf`         `array of` in front of a word means arrays of its type.
-/

namespace WireWrapper

/-- a word in any letter case, with blanks behind it -/
def IsLead (word s : String) : Prop :=
  ∃ spelled blanks, s = spelled ++ blanks ∧ Text.equalIgnoringCase spelled word = true ∧
    blanks ≠ "" ∧ Text.IsBlanks blanks.toList

namespace Normalizer

/-! ## the stock replacements -/

/-- the words that the stock lists know in front of a type -/
def leadWords : List String := ["array", "of", "unsigned", "optional"]

theorem stock_seams_nil : Text.Seams stock.substitutions [] := by decide

/-- they are small letters, and no stock pattern goes on behind them -/
theorem stock_seams : ∀ word ∈ leadWords, Text.IsAscii word.toList ∧
    Text.lowerAscii word.toList = word.toList ∧ Text.Seams stock.substitutions word.toList := by
  decide

/-- **A word in front of a text** is replaced alone, and so is the text; the blanks between them
stay. -/
theorem substitute_lead {word s : String} (hword : word ∈ leadWords) (hs : IsLead word s) :
    ∃ blanks, blanks ≠ [] ∧ Text.IsBlanks blanks ∧ ∀ t, stock.substitute (s.toList ++ t)
      = Text.replaceAll stock.substitutions word.toList ++ (blanks ++ stock.substitute t) := by
  obtain ⟨spelled, blanks, rfl, hspelled, hne, hblanks⟩ := hs
  obtain ⟨hascii, hsmall, hseams⟩ := stock_seams word hword
  have hlower := Text.lower_of_equalIgnoringCase hascii hspelled
  have hcons : blanks.toList ≠ [] := mt String.toList_eq_nil_iff.mp hne
  refine ⟨blanks.toList, hcons, hblanks, fun t => ?_⟩
  obtain ⟨b, rest, hsplit⟩ := List.exists_cons_of_ne_nil hcons
  rw [hsplit] at hblanks ⊢
  obtain ⟨hb, hrest⟩ := List.forall_mem_cons.mp hblanks
  rw [substitute, String.toList_append, hsplit, List.append_assoc, List.cons_append,
    Text.lower_append_blank hb, hlower, hsmall, Text.lower_append_blanks hrest,
    Text.replaceAll_append_blank hb hseams, Text.replaceAll_append_blanks hrest stock_seams_nil]
  rfl

/-! ## element words -/

section
variable (n : Normalizer)

theorem elementWord_blanks {blanks : List Char} (h : Text.IsBlanks blanks) (cs : List Char) :
    n.elementWord (blanks ++ cs) = n.elementWord cs := by
  rw [elementWord, Text.words_append_blanks h, elementWord]

theorem ofSubstituted_blanks {blanks : List Char} (h : Text.IsBlanks blanks) (cs : List Char) :
    n.ofSubstituted (blanks ++ cs) = n.ofSubstituted cs := by
  rw [ofSubstituted, Text.compact_append_blanks h, n.elementWord_blanks h, ofSubstituted]

theorem elementWord_stopword {w blanks : List Char} (hw : Text.IsSolid w)
    (hne : w ≠ []) (hstop : String.ofList w ∈ n.stopwords) (hblanks : Text.IsBlanks blanks)
    (hsome : blanks ≠ []) (cs : List Char) :
    n.elementWord (w ++ (blanks ++ cs)) = n.elementWord cs := by
  have hend := Text.atWordEnd_append_blanks hblanks hsome cs
  rw [elementWord, Text.words_word hne hw hend, List.filter_cons, if_neg (by simpa using hstop),
    Text.words_append_blanks hblanks, elementWord]

theorem elementWord_solid {w : List Char} (hw : Text.IsSolid w)
    (hstop : String.ofList w ∉ n.stopwords) : n.elementWord w = w := by
  rcases eq_or_ne w [] with rfl | hne
  · rfl
  have hwords : Text.words (w ++ []) = [w] := Text.words_word hne hw rfl
  have hlonger : wordSize [] < wordSize w := by
    have hsome : String.ofList w ≠ "" := by simpa using hne
    rw [wordSize, wordSize]
    exact Nat.pos_of_ne_zero (mt String.utf8ByteSize_eq_zero_iff.mp hsome)
  rw [List.append_nil] at hwords
  rw [elementWord, hwords, List.filter_cons, if_pos (by simpa using hstop), List.filter_nil,
    List.foldl_cons, List.foldl_nil, longer, if_pos hlonger]

end

/-! ## qualifiers -/

/-- **Qualifiers in front of a type** do not change it. -/
theorem normalize_qualified (leads : List String) (t : String)
    (hleads : ∀ s ∈ leads, IsLead "unsigned" s ∨ IsLead "optional" s) :
    stock.normalize (String.join leads ++ t) = stock.normalize t := by
  have hone : ∀ s, IsLead "unsigned" s ∨ IsLead "optional" s → ∀ rest,
      stock.ofSubstituted (stock.substitute (s.toList ++ rest))
        = stock.ofSubstituted (stock.substitute rest) := by
    intro s hs rest
    have hgone : Text.replaceAll stock.substitutions "unsigned".toList = [] ∧
        Text.replaceAll stock.substitutions "optional".toList = [] := by decide
    rcases hs with hs | hs
    · obtain ⟨blanks, -, hblanks, hsub⟩ := substitute_lead (by decide) hs
      rw [hsub, hgone.1, List.nil_append, stock.ofSubstituted_blanks hblanks]
    · obtain ⟨blanks, -, hblanks, hsub⟩ := substitute_lead (by decide) hs
      rw [hsub, hgone.2, List.nil_append, stock.ofSubstituted_blanks hblanks]
  induction leads with
  | nil => rw [String.join_nil, String.empty_append]
  | cons s leads ih =>
    obtain ⟨hs, hrest⟩ := List.forall_mem_cons.mp hleads
    rw [String.join_cons, String.append_assoc, normalize, String.toList_append, hone s hs]
    exact ih hrest

theorem normalize_unsigned_optional_varInt :
    stock.normalize (String.join ["UnSigned\t", "OPTIONAL  "] ++ "VarInt")
      = stock.normalize "VarInt" := by
  refine normalize_qualified ["UnSigned\t", "OPTIONAL  "] "VarInt" fun s hs => ?_
  rcases List.mem_pair.mp hs with rfl | rfl
  · exact .inl ⟨"UnSigned", "\t", by decide, by decide, by decide, by decide⟩
  · exact .inr ⟨"OPTIONAL", "  ", by decide, by decide, by decide, by decide⟩

/-! ## arrays -/

theorem substitute_solid {n : Normalizer}
    (hn : ∀ rule ∈ n.substitutions, Text.IsSolid rule.2.toList) {raw : List Char}
    (h : Text.IsSolid raw) : Text.IsSolid (n.substitute raw) := by
  intro c hc
  rcases Text.mem_replaceAll hc with ⟨rule, hrule, hmem⟩ | hmem
  · exact hn rule hrule c hmem
  · exact Text.lower_solid h c hmem

/-- **`array of` in front of a word** means arrays of its type, unless the type itself spells one of
the two words. -/
theorem normalize_arrayOf {array ofWord t : String} (harray : IsLead "array" array)
    (hof : IsLead "of" ofWord) (ht : Text.IsSolid t.toList)
    (hnoArray : ¬ "array".toList <:+: stock.substitute t.toList)
    (hnoOf : ¬ "of".toList <:+: stock.substitute t.toList) :
    stock.normalize (array ++ ofWord ++ t) = stock.normalize t ++ "[]" := by
  have hkept : Text.replaceAll stock.substitutions "array".toList = "array".toList ∧
      Text.replaceAll stock.substitutions "of".toList = "of".toList := by decide
  obtain ⟨bs, hbs, hbsBlank, harraySub⟩ := substitute_lead (by decide) harray
  obtain ⟨ds, hds, hdsBlank, hofSub⟩ := substitute_lead (by decide) hof
  rw [hkept.1] at harraySub
  rw [hkept.2] at hofSub
  have hsolid := substitute_solid (n := stock) (by decide) ht
  rw [normalize, normalize, String.toList_append, String.toList_append, List.append_assoc,
    harraySub, hofSub]
  generalize stock.substitute t.toList = u at hnoArray hnoOf hsolid
  -- neither of the words in front is a candidate, and the type is no stopword
  have helement : stock.elementWord ("array".toList ++ (bs ++ ("of".toList ++ (ds ++ u)))) = u := by
    have hstop : String.ofList u ∉ stock.stopwords := by
      intro hmem
      rcases List.mem_pair.mp hmem with hu | hu
      · exact hnoArray (by rw [← hu, String.toList_ofList])
      · exact hnoOf (by rw [← hu, String.toList_ofList])
    rw [stock.elementWord_stopword (by decide) (by decide) (by decide) hbsBlank hbs,
      stock.elementWord_stopword (by decide) (by decide) (by decide) hdsBlank hds,
      stock.elementWord_solid hsolid hstop]
  have hmentions : Text.occursIn "array".toList
      (Text.compact ("array".toList ++ (bs ++ ("of".toList ++ (ds ++ u))))) = true := by
    rw [Text.occursIn_iff, Text.compact, List.filter_append]
    exact (List.prefix_append _ _).isInfix
  have hscalar : stock.ofSubstituted u = u := by
    rw [ofSubstituted, Text.compact_solid hsolid, if_neg (mt Text.occursIn_iff.mp hnoArray)]
  have harrays : stock.ofSubstituted ("array".toList ++ (bs ++ ("of".toList ++ (ds ++ u))))
      = u ++ ['[', ']'] := by
    rw [ofSubstituted, if_pos hmentions, helement, Text.replace_eq_self (by decide) hnoArray,
      Text.replace_eq_self (by decide) hnoOf]
  rw [harrays, hscalar, String.ofList_append]

theorem normalize_arrayOf_varInt :
    stock.normalize ("aRRay " ++ "Of\u00a0\t" ++ "VarInt") = stock.normalize "VarInt" ++ "[]" :=
  normalize_arrayOf ⟨"aRRay", " ", by decide, by decide, by decide, by decide⟩
    ⟨"Of", "\u00a0\t", by decide, by decide, by decide, by decide⟩ (by decide) (by decide) (by decide)

end Normalizer
end WireWrapper
