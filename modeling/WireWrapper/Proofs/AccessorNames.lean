import Mathlib.Data.List.Basic
import WireWrapper.Config
import WireWrapper.Name
import WireWrapper.Proofs.Text.NormalForm
import WireWrapper.Proofs.Text.Pieces
import WireWrapper.Proofs.Text.UpperImages

/-!
# Accessor names

An accessor name is made of the words of a documented name.  The words have name characters only, and
a capital letter is one too.  But some letters have no capital letter of their own: their upper case is
a letter with a combining mark behind it, and a mark is no name character.  Where no word begins with
such a letter, the joined words are one word that begins with a capital letter, and stay as they are.

* `words`, `Plain`                 the words of a text; none of them begins with such a letter;
* `mem_capitalizeWordsChars`       where the characters of a capitalized text come from;
* `plain_iff`                      they are name characters when the text is plain;
* `capitalizeWordsChars_eq_self_iff`   the texts that capitalization leaves alone;
* `capitalizeWords_nameChars`      the three of them for a name;
* `accessor_stock_normal`          the stock synonyms leave none of their spellings in an accessor name.
-/

namespace WireWrapper
namespace Name

/-! ## capital letters -/

theorem isNameChar_iff {c : Char} :
    isNameChar c = true ↔ Text.isAlphanumeric c = true ∨ c = '_' ∨ c = '$' := by
  rw [isNameChar, Bool.or_eq_true, Bool.or_eq_true, beq_iff_eq, beq_iff_eq, or_assoc]

/-- a name character that is its own upper case -/
def IsCapital (c : Char) : Prop := isNameChar c = true ∧ Text.upperChar c = [c]

theorem exists_capital {c : Char} (hc : isNameChar c = true) :
    ∃ d ds, Text.upperChar c = d :: ds ∧ IsCapital d := by
  rcases isNameChar_iff.mp hc with hletter | rfl | rfl
  · obtain ⟨d, ds, himage, hd, hown⟩ := Text.exists_settled_head hletter
    exact ⟨d, ds, himage, isNameChar_iff.mpr (.inl hd), hown⟩
  · exact ⟨'_', [], by decide, hc, by decide⟩
  · exact ⟨'$', [], by decide, hc, by decide⟩

theorem combiningMark_not_nameChar {c : Char} (hc : c ∈ Text.combiningMarks) :
    isNameChar c = false := by
  have hall : (Text.combiningMarks.all fun c => !isNameChar c) = true := by decide +kernel
  have hown := List.all_eq_true.mp hall c hc
  rwa [Bool.not_eq_true'] at hown

/-! ## words -/

def words (cs : List Char) : List (List Char) := Text.pieces (!isNameChar ·) cs

theorem isNameChar_of_mem_words {cs word : List Char} {c : Char} (hword : word ∈ words cs)
    (hc : c ∈ word) : isNameChar c = true := by
  have hkept := (Text.mem_of_mem_pieces hword hc).1
  rwa [Bool.not_eq_false'] at hkept

theorem words_of_nameChars {cs : List Char} (h : ∀ c ∈ cs, isNameChar c = true) :
    words cs = [cs] := by
  apply Text.pieces_eq_singleton
  intro c hc
  rw [h c hc]
  rfl

theorem words_append {b : Char} (hb : isNameChar b = false) (xs ys : List Char) :
    words (xs ++ b :: ys) = words xs ++ words ys := by
  apply Text.pieces_append
  rw [hb]
  rfl

/-- no word begins with a letter whose upper case has a mark -/
def Plain (cs : List Char) : Prop := ∀ word ∈ words cs, ∀ c ∈ word.head?, c ∉ Text.markedLetters

theorem mem_capitalizeWordsChars {cs : List Char} {d : Char} (hd : d ∈ capitalizeWordsChars cs) :
    isNameChar d = true ∨ ∃ word ∈ words cs, ∃ c ∈ word.head?, d ∈ (Text.upperChar c).tail := by
  obtain ⟨word, hword, hd⟩ := List.mem_flatMap.mp hd
  cases word with
  | nil => cases hd
  | cons c rest =>
    rcases List.mem_append.mp hd with himage | hrest
    · have hc := isNameChar_of_mem_words hword List.mem_cons_self
      obtain ⟨capital, behind, hupper, hcapital⟩ := exists_capital hc
      rw [hupper] at himage
      rcases List.mem_cons.mp himage with rfl | hbehind
      · exact .inl hcapital.1
      · refine .inr ⟨c :: rest, hword, c, rfl, ?_⟩
        rw [hupper]
        exact hbehind
    · exact .inl (isNameChar_of_mem_words hword (List.mem_cons_of_mem c hrest))

theorem nameChar_or_mark {cs : List Char} {d : Char} (hd : d ∈ capitalizeWordsChars cs) :
    isNameChar d = true ∨ d ∈ Text.combiningMarks := by
  rcases mem_capitalizeWordsChars hd with hname | ⟨_, _, c, _, htail⟩
  · exact .inl hname
  · exact (Text.mem_tail_upperChar htail).imp_left fun hletter => isNameChar_iff.mpr (.inl hletter)

/-- **Plain texts** are those whose words are capitalized without a mark. -/
theorem plain_iff (cs : List Char) :
    Plain cs ↔ ∀ d ∈ capitalizeWordsChars cs, isNameChar d = true := by
  constructor
  · intro hplain d hd
    rcases mem_capitalizeWordsChars hd with hname | ⟨word, hword, c, hc, htail⟩
    · exact hname
    · have hletter := Text.alphanumeric_of_mem_tail (hplain word hword c hc) htail
      exact isNameChar_iff.mpr (.inl hletter)
  · intro hnames word hword c hc hmarked
    obtain ⟨rest, rfl⟩ := List.head?_eq_some_iff.mp hc
    obtain ⟨mark, htail, hmark⟩ := Text.exists_mark_of_marked hmarked
    have hin : mark ∈ capitalizeChars (c :: rest) :=
      List.mem_append_left rest (List.mem_of_mem_tail htail)
    have hname := hnames mark (List.mem_flatMap.mpr ⟨c :: rest, hword, hin⟩)
    rw [combiningMark_not_nameChar hmark] at hname
    cases hname

/-! ## joined words -/

theorem isCapital_head_flatMap {ws : List (List Char)}
    (hnames : ∀ w ∈ ws, ∀ c ∈ w, isNameChar c = true) {d : Char}
    (hd : d ∈ (ws.flatMap capitalizeChars).head?) : IsCapital d := by
  induction ws with
  | nil => cases hd
  | cons w ws ih =>
    cases w with
    | nil =>
      apply ih _ hd
      intro w hw
      exact hnames w (List.mem_cons_of_mem [] hw)
    | cons c rest =>
      have hc := hnames _ List.mem_cons_self c List.mem_cons_self
      obtain ⟨capital, behind, hupper, hcapital⟩ := exists_capital hc
      rw [List.flatMap_cons, capitalizeChars, hupper] at hd
      obtain rfl : capital = d := Option.some.inj hd
      exact hcapital

theorem isCapital_head (cs : List Char) {d : Char} (hd : d ∈ (capitalizeWordsChars cs).head?) :
    IsCapital d := by
  apply isCapital_head_flatMap _ hd
  intro word hword c hc
  exact isNameChar_of_mem_words hword hc

theorem capitalizeChars_eq_self {cs : List Char} (h : ∀ c ∈ cs.head?, IsCapital c) :
    capitalizeChars cs = cs := by
  cases cs with
  | nil => rfl
  | cons c cs =>
    rw [capitalizeChars, (h c rfl).2]
    rfl

/-- **What capitalization leaves alone** is a single word with a capital letter in front. -/
theorem capitalizeWordsChars_eq_self_iff (cs : List Char) :
    capitalizeWordsChars cs = cs ↔
      (∀ c ∈ cs, isNameChar c = true) ∧ ∀ c ∈ cs.head?, IsCapital c := by
  constructor
  · intro hself
    have hhead : ∀ c ∈ cs.head?, IsCapital c := by
      rw [← hself]
      exact fun c hc => isCapital_head cs hc
    refine ⟨?_, hhead⟩
    cases hfind : cs.find? (!isNameChar ·) with
    | none =>
      intro c hc
      simpa using List.find?_eq_none.mp hfind c hc
    | some b =>
      -- what is behind the first other character `b` would have to bring `b` in again
      obtain ⟨hb, xs, ys, rfl, hxs⟩ := List.find?_eq_some_iff_append.mp hfind
      simp only [Bool.not_eq_true', Bool.not_not] at hb hxs
      have hfront : capitalizeChars xs = xs := by
        apply capitalizeChars_eq_self
        intro c hc
        apply hhead
        obtain ⟨rest, rfl⟩ := List.head?_eq_some_iff.mp hc
        rfl
      have hback : capitalizeWordsChars ys = b :: ys := by
        have hjoined : (words (xs ++ b :: ys)).flatMap capitalizeChars = xs ++ b :: ys := hself
        rw [words_append hb, words_of_nameChars hxs, List.flatMap_append, List.flatMap_singleton,
          hfront] at hjoined
        exact List.append_cancel_left hjoined
      have hcapital : IsCapital b := by
        apply isCapital_head ys
        rw [hback]
        rfl
      rw [hcapital.1] at hb
      cases hb
  · rintro ⟨hnames, hhead⟩
    show (words cs).flatMap capitalizeChars = cs
    rw [words_of_nameChars hnames, List.flatMap_singleton, capitalizeChars_eq_self hhead]

/-- **A capitalized name** consists of name characters and of combining marks.  It has no mark, and
is left alone when it is capitalized once more, exactly if no word of the name begins with a letter
that has no capital letter of its own. -/
theorem capitalizeWords_nameChars (name : String) :
    (∀ c ∈ (capitalizeWords name).toList, isNameChar c = true ∨ c ∈ Text.combiningMarks) ∧
      ((∀ c ∈ (capitalizeWords name).toList, isNameChar c = true) ↔ Plain name.toList) ∧
      (capitalizeWords (capitalizeWords name) = capitalizeWords name ↔ Plain name.toList) := by
  have htext : (capitalizeWords name).toList = capitalizeWordsChars name.toList :=
    String.toList_ofList
  rw [htext]
  refine ⟨fun c => nameChar_or_mark, (plain_iff name.toList).symm, ?_⟩
  rw [plain_iff, ← String.toList_inj, htext, capitalizeWords, String.toList_ofList, htext,
    capitalizeWordsChars_eq_self_iff]
  exact and_iff_left fun c hc => isCapital_head name.toList hc

/-- a word that begins with `ǰ` -/
theorem capitalizeWords_marked :
    (capitalizeWords "\u01F0a").toList = ['J', '\u030C', 'a'] ∧ isNameChar '\u030C' = false ∧
      capitalizeWords (capitalizeWords "\u01F0a") = "JA" ∧
      capitalizeWords (capitalizeWords "\u01F0a") ≠ capitalizeWords "\u01F0a" := by
  decide

/-! ## synonyms -/

theorem separate_stock : Text.Separate Config.stock.nameSynonyms := by
  unfold Text.Separate
  decide

/-- **With the stock synonyms** an accessor name has none of the spellings that they replace, so
that the replacements leave it alone. -/
theorem accessor_stock_normal (displayName : String) :
    (∀ spelling ∈ ["Eid", "EntityId", "JsonData"],
        Text.occursIn spelling.toList
          (accessor displayName Config.stock.nameSynonyms).toList = false) ∧
      Text.replaceAll Config.stock.nameSynonyms
          (accessor displayName Config.stock.nameSynonyms).toList
        = (accessor displayName Config.stock.nameSynonyms).toList := by
  have htext : (accessor displayName Config.stock.nameSynonyms).toList
      = Text.replaceAll Config.stock.nameSynonyms (capitalizeWordsChars displayName.toList) :=
    String.toList_ofList
  have hnone := Text.replaceAll_normal separate_stock (capitalizeWordsChars displayName.toList)
  rw [htext]
  constructor
  · intro spelling hspelling
    have hrule : ∃ rule ∈ Config.stock.nameSynonyms, rule.1 = spelling :=
      List.mem_map.mp hspelling
    obtain ⟨rule, hrule, rfl⟩ := hrule
    rw [← Bool.not_eq_true, Text.occursIn_iff]
    exact hnone rule hrule
  · exact Text.replaceAll_eq_self fun rule hrule => ⟨(separate_stock rule hrule).1, hnone rule hrule⟩

end Name
end WireWrapper
