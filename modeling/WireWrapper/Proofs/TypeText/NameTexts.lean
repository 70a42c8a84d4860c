import WireWrapper.Proofs.Accessor
import WireWrapper.Proofs.Text.AsciiImages
import WireWrapper.Proofs.TypeText.Arrays
import WireWrapper.Proofs.TypeText.JavaTypes

/-!
# Documented types in name characters

Documentation that is written in the characters of names, with blanks in between, means a type whose
text holds name characters only, apart from the brackets of an array.  Lower case, the replacements
and the deletions bring nothing else in.

* `IsNameText`                   name characters and blanks;
* `all_upperChar`, `all_lowerChar`   when upper and lower case of a character are name characters;
* `substitute_isNameText`        lower case and replacements keep to them;
* `Normalizer.coreText`          the type in front of the brackets of an array;
* `normalize_toList`             a documented type is this text, with brackets or without;
* `isJavaType_normalize_iff`     it is a type of Java exactly if this text is one;
* `coreText_continues`           a text of name characters, if documentation and replacements are.
-/

namespace WireWrapper

/-- whether a text consists of name characters and blanks -/
def IsNameText (cs : List Char) : Prop :=
  ∀ c ∈ cs, Config.continuesIdentifier c = true ∨ Text.isBlank c = true

instance (cs : List Char) : Decidable (IsNameText cs) := List.decidableBAll _ cs

/-! ## letter case -/

theorem lt_of_continuesIdentifier {c : Char} (hc : Config.continuesIdentifier c = true) :
    c.toNat < 128 := by
  have hkinds : (c.isUpper || c.isLower || c.isDigit || c == '_' || c == '$') = true := hc
  simp only [Bool.or_eq_true, beq_iff_eq] at hkinds
  rcases hkinds with (((hupper | hlower) | hdigit) | rfl) | rfl
  · have hz : c.toNat ≤ 90 := (of_decide_eq_true hupper).2
    omega
  · have hz : c.toNat ≤ 122 := of_decide_eq_true (Bool.and_eq_true_iff.mp hlower).2
    omega
  · have hnine : c.toNat ≤ 57 := of_decide_eq_true (Bool.and_eq_true_iff.mp hdigit).2
    omega
  · decide
  · decide

/-- what is to be seen of a mapping of characters: which letters past ASCII it takes to ASCII, and that
these and no others become name characters -/
theorem image_continues {image : Char → List Char} {letters : List Char}
    (hforeign : ∀ c, (∀ d ∈ image c, d.toNat < 128) → c.toNat < 128 ∨ c ∈ letters)
    (hsmall : ∀ n < 128, (image (Char.ofNat n)).all Config.continuesIdentifier
      = Config.continuesIdentifier (Char.ofNat n))
    (hletters : letters.all (fun c => (image c).all Config.continuesIdentifier) = true) (c : Char) :
    (image c).all Config.continuesIdentifier
      = (Config.continuesIdentifier c || letters.contains c) := by
  by_cases hc : c ∈ letters
  · rw [List.all_eq_true.mp hletters c hc, List.contains_iff_mem.mpr hc, Bool.or_true]
  have hnot : letters.contains c = false := by simpa using hc
  rw [hnot, Bool.or_false]
  by_cases hascii : c.toNat < 128
  · have hown := hsmall c.toNat hascii
    rwa [Char.ofNat_toNat] at hown
  -- a character past ASCII is no name character, and it does not become one
  have hself : Config.continuesIdentifier c = false :=
    Bool.eq_false_iff.mpr fun hname => hascii (lt_of_continuesIdentifier hname)
  rw [hself, Bool.eq_false_iff]
  intro hall
  have himage : ∀ d ∈ image c, d.toNat < 128 :=
    fun d hd => lt_of_continuesIdentifier (List.all_eq_true.mp hall d hd)
  exact (hforeign c himage).elim hascii hc

theorem all_upperChar (c : Char) :
    (Text.upperChar c).all Config.continuesIdentifier
      = (Config.continuesIdentifier c || Text.asciiUppers.contains c) :=
  image_continues (fun _ => Text.lt_or_mem_of_upperChar) (by decide) (by decide +kernel) c

theorem all_lowerChar (c : Char) :
    (Text.lowerChar c).all Config.continuesIdentifier
      = (Config.continuesIdentifier c || Text.asciiLowers.contains c) :=
  image_continues (fun _ => Text.lt_or_mem_of_lowerChar) (by decide) (by decide) c

theorem lowerChar_continues {c d : Char} (hc : Config.continuesIdentifier c = true)
    (hd : d ∈ Text.lowerChar c) : Config.continuesIdentifier d = true := by
  have hall : (Text.lowerChar c).all Config.continuesIdentifier = true := by
    rw [all_lowerChar, hc, Bool.true_or]
  exact List.all_eq_true.mp hall d hd

theorem lower_isNameText {cs : List Char} (h : IsNameText cs) : IsNameText (Text.lower cs) := by
  intro d hd
  rcases Text.mem_lower hd with ⟨hsigma, -⟩ | ⟨c, hc, hdc⟩
  · exact absurd (h 'Σ' hsigma) (by decide)
  · rcases h c hc with hname | hblank
    · exact .inl (lowerChar_continues hname hdc)
    · rw [Text.lowerChar_blank hblank, List.mem_singleton] at hdc
      exact .inr (hdc ▸ hblank)

namespace Normalizer

theorem substitute_isNameText (n : Normalizer)
    (hn : ∀ rule ∈ n.substitutions, IsNameText rule.2.toList) {raw : List Char}
    (h : IsNameText raw) : IsNameText (n.substitute raw) := by
  intro c hc
  rcases Text.mem_replaceAll hc with ⟨rule, hrule, hmem⟩ | hmem
  · exact hn rule hrule c hmem
  · exact lower_isNameText h c hmem

/-! ## types -/

/-- whether a substituted text mentions an array -/
def mentionsArray (cs : List Char) : Bool := Text.occursIn "array".toList (Text.compact cs)

/-- the type that a substituted text means, without the brackets of an array -/
def coreText (n : Normalizer) (cs : List Char) : List Char :=
  if mentionsArray cs then n.elementText cs else Text.compact cs

theorem ofSubstituted_eq (n : Normalizer) (cs : List Char) :
    n.ofSubstituted cs = n.coreText cs ++ if mentionsArray cs then ['[', ']'] else [] := by
  unfold coreText mentionsArray
  rw [ofSubstituted]
  split
  · rfl
  · rw [List.append_nil]

theorem normalize_toList (n : Normalizer) (raw : String) :
    (n.normalize raw).toList = n.coreText (n.substitute raw.toList) ++
      if mentionsArray (n.substitute raw.toList) then ['[', ']'] else [] := by
  rw [normalize, String.toList_ofList, ofSubstituted_eq]

/-- **A documented type is one of Java** exactly if its text in front of the brackets is. -/
theorem isJavaType_normalize_iff (n : Normalizer) (raw : String) :
    IsJavaType (n.normalize raw).toList ↔
      IsJavaType (n.coreText (n.substitute raw.toList)) := by
  rw [normalize_toList]
  split
  · exact isJavaType_brackets
  · rw [List.append_nil]

theorem mem_coreText {n : Normalizer} {cs : List Char} {c : Char} (h : c ∈ n.coreText cs) :
    c ∈ Text.compact cs := by
  unfold coreText at h
  split at h
  · have hkept := (Text.mem_replace h).resolve_left List.not_mem_nil
    have hword := (Text.mem_replace hkept).resolve_left List.not_mem_nil
    rcases n.elementWord_eq_nil_or cs with hnone | hmem
    · rw [hnone] at hword
      cases hword
    · rw [← Text.flatten_words]
      exact List.mem_flatten_of_mem hmem hword
  · exact h

theorem coreText_continues {n : Normalizer}
    (hn : ∀ rule ∈ n.substitutions, IsNameText rule.2.toList) {raw : List Char}
    (h : IsNameText raw) :
    ∀ c ∈ n.coreText (n.substitute raw), Config.continuesIdentifier c = true := by
  intro c hc
  obtain ⟨hmem, hsolid⟩ := List.mem_filter.mp (mem_coreText hc)
  refine (n.substitute_isNameText hn h c hmem).resolve_right ?_
  simpa using hsolid

theorem stock_isNameText : ∀ rule ∈ stock.substitutions, IsNameText rule.2.toList := by
  decide

end Normalizer
end WireWrapper
