import WireWrapper.Proofs.PacketId
import WireWrapper.Proofs.Text.Rendered
import WireWrapper.Proofs.Text.Seams

/-!
# The language of the id cells

Documentation means by an id what stands behind the last space of a cell: hexadecimal digits, behind a
mark `0x` or without one.  The reader takes every `0x` out of the cell before it looks for that place,
and a plus sign in front of the digits is none of its concern.  So it reads every cell of the
documented form as documented, and some others as numbers besides: those with a mark among or behind
the digits (`10x2`, `5 0x`), and those with a plus sign (`+5`).

* `HexNumeral`, `ofHex?_eq_some_iff`       one or more digits, as they are written and as they are read;
* `IsLastToken`, `afterLastSpace_eq_iff`   the part of a text behind its last space;
* `EndsInNumber`                           such a part that is a number behind one of several marks;
* `packetId?_eq_some_iff`                  the language that is read;
* `OpensToken`, `lastToken_unmarked`       what taking out the marks does to the last part of a text;
* `packetId?_documented`                   the documented form, and the cells on which the two agree.
-/

namespace WireWrapper
namespace Text

/-! ## numerals -/

/-- a hexadecimal digit of either case and its value -/
def IsHexDigit (c : Char) (d : Nat) : Prop :=
  d < 16 ∧ (c = Nat.digitChar d ∨ c = upperDigit d)

instance (c : Char) (d : Nat) : Decidable (IsHexDigit c d) := inferInstanceAs (Decidable (_ ∧ _))

/-- one or more hexadecimal digits and the number they write -/
inductive HexNumeral : List Char → Nat → Prop
  | digit {c d} : IsHexDigit c d → HexNumeral [c] d
  | snoc {cs n c d} : HexNumeral cs n → IsHexDigit c d → HexNumeral (cs ++ [c]) (16 * n + d)

theorem hexValue?_eq_some_iff {c : Char} {d : Nat} : hexValue? c = some d ↔ IsHexDigit c d := by
  have hread : ∀ n < 128, ∀ v ∈ hexValue? (Char.ofNat n), IsHexDigit (Char.ofNat n) v := by decide
  have hwritten : ∀ v < 16, hexValue? (Nat.digitChar v) = some v ∧
      hexValue? (upperDigit v) = some v := by decide
  constructor
  · intro h
    have hsmall : c.toNat < 128 := by
      by_contra hlarge
      have hnone : ∀ b : Char, b.toNat < 128 → ¬ c ≤ b := by
        intro b hb hle
        have hle : c.toNat ≤ b.toNat := hle
        omega
      rw [hexValue?, if_neg fun h => hnone '9' (by decide) h.2,
        if_neg fun h => hnone 'f' (by decide) h.2, if_neg fun h => hnone 'F' (by decide) h.2] at h
      cases h
    have hdigit := hread c.toNat hsmall
    rw [Char.ofNat_toNat] at hdigit
    exact hdigit d h
  · rintro ⟨hd, rfl | rfl⟩
    · exact (hwritten d hd).1
    · exact (hwritten d hd).2

theorem ofHex?_eq_ofHexAfter? {cs : List Char} (hne : cs ≠ []) : ofHex? cs = ofHexAfter? 0 cs := by
  obtain ⟨c, cs, rfl⟩ := List.exists_cons_of_ne_nil hne
  rfl

theorem ofHexAfter?_concat (value : Nat) (cs : List Char) (c : Char) :
    ofHexAfter? value (cs ++ [c])
      = (ofHexAfter? value cs).bind fun v => (hexValue? c).map fun d => 16 * v + d := by
  rw [ofHexAfter?_append]
  congr 1
  funext v
  rw [ofHexAfter?]
  cases hexValue? c <;> rfl

/-- **The digits that are read** are the numerals. -/
theorem ofHex?_eq_some_iff {cs : List Char} {n : Nat} : ofHex? cs = some n ↔ HexNumeral cs n := by
  constructor
  · intro h
    induction cs using List.reverseRecOn generalizing n with
    | nil => cases h
    | append_singleton cs c ih =>
      rw [ofHex?_eq_ofHexAfter? (by simp), ofHexAfter?_concat, Option.bind_eq_some_iff] at h
      obtain ⟨v, hv, h⟩ := h
      obtain ⟨d, hd, rfl⟩ := Option.map_eq_some_iff.mp h
      have hdigit := hexValue?_eq_some_iff.mp hd
      rcases eq_or_ne cs [] with rfl | hne
      · obtain rfl : 0 = v := Option.some.inj hv
        have hone : HexNumeral [c] d := .digit hdigit
        simpa using hone
      · exact .snoc (ih ((ofHex?_eq_ofHexAfter? hne).trans hv)) hdigit
  · intro h
    induction h with
    | @digit c d hdigit =>
      show ofHexAfter? 0 ([] ++ [c]) = some d
      rw [ofHexAfter?_concat, hexValue?_eq_some_iff.mpr hdigit]
      simp [ofHexAfter?]
    | @snoc cs n c d hnum hdigit ih =>
      have hne : cs ≠ [] := by
        rintro rfl
        cases ih
      rw [ofHex?_eq_ofHexAfter? hne] at ih
      rw [ofHex?_eq_ofHexAfter? (by simp), ofHexAfter?_concat, ih,
        hexValue?_eq_some_iff.mpr hdigit]
      rfl

theorem IsHexDigit.ne {c : Char} {d : Nat} (h : IsHexDigit c d) :
    c ≠ 'x' ∧ c ≠ '+' ∧ isBlank c = false := by
  have hall : ∀ v < 16, (Nat.digitChar v ≠ 'x' ∧ Nat.digitChar v ≠ '+' ∧
      isBlank (Nat.digitChar v) = false) ∧ upperDigit v ≠ 'x' ∧ upperDigit v ≠ '+' ∧
      isBlank (upperDigit v) = false := by decide
  rcases h with ⟨hd, rfl | rfl⟩
  · exact (hall d hd).1
  · exact (hall d hd).2

theorem HexNumeral.forall_mem {cs : List Char} {n : Nat} (h : HexNumeral cs n) :
    ∀ c ∈ cs, c ≠ 'x' ∧ c ≠ '+' ∧ isBlank c = false := by
  induction h with
  | digit hdigit => exact List.forall_mem_singleton.mpr hdigit.ne
  | snoc _ hdigit ih =>
    intro c hc
    rcases List.mem_append.mp hc with hc | hc
    · exact ih c hc
    · obtain rfl := List.mem_singleton.mp hc
      exact hdigit.ne

theorem HexNumeral.ne_nil {cs : List Char} {n : Nat} (h : HexNumeral cs n) : cs ≠ [] := by
  rintro rfl
  cases ofHex?_eq_some_iff.mpr h

/-! ## the last part -/

/-- the part of a text behind its last space, or all of a text without one -/
def IsLastToken (token cs : List Char) : Prop :=
  ' ' ∉ token ∧ (token = cs ∨ ∃ front, cs = front ++ ' ' :: token)

end Text

theorem afterLastSpace_eq_iff {cs token : List Char} :
    afterLastSpace cs = token ↔ Text.IsLastToken token cs := by
  constructor
  · rintro rfl
    have hnone : ' ' ∉ afterLastSpace cs := by
      intro hmem
      have hspace := List.mem_takeWhile_imp (List.mem_reverse.mp hmem)
      cases hspace
    have hcs : cs = (cs.reverse.dropWhile (· != ' ')).reverse ++ afterLastSpace cs := by
      rw [afterLastSpace, ← List.reverse_append, List.takeWhile_append_dropWhile,
        List.reverse_reverse]
    refine ⟨hnone, ?_⟩
    cases hback : cs.reverse.dropWhile (· != ' ') with
    | nil =>
      rw [hback] at hcs
      exact .inl hcs.symm
    | cons b back =>
      have hb : b = ' ' := by
        have hhead := List.head?_dropWhile_not (· != ' ') cs.reverse
        rw [hback] at hhead
        simpa using hhead
      rw [hback, hb, List.reverse_cons, List.append_assoc] at hcs
      exact .inr ⟨back.reverse, hcs⟩
  · rintro ⟨hnone, rfl | ⟨front, rfl⟩⟩
    · exact afterLastSpace_eq_self fun c hc hspace => hnone (hspace ▸ hc)
    · have hall : ∀ c ∈ token.reverse, (c != ' ') = true := by
        intro c hc
        exact bne_iff_ne.mpr fun hspace => hnone (hspace ▸ List.mem_reverse.mp hc)
      rw [afterLastSpace, List.reverse_append, List.reverse_cons, List.append_assoc,
        List.takeWhile_append_of_pos hall]
      simp

/-- the last part of a trimmed text is a number behind one of the marks -/
def EndsInNumber (marks : List String) (cs : List Char) (n : Nat) : Prop :=
  ∃ mark ∈ marks, ∃ digits, Text.IsLastToken (mark.toList ++ digits) (Text.trim cs) ∧
    Text.HexNumeral digits n

/-- the form, tested: cut the mark off the last part and read the rest -/
theorem endsInNumber_iff {marks : List String} {cs : List Char} {n : Nat} :
    EndsInNumber marks cs n ↔ ∃ mark ∈ marks, mark.toList <+: afterLastSpace (Text.trim cs) ∧
      Text.ofHex? ((afterLastSpace (Text.trim cs)).drop mark.toList.length) = some n := by
  refine exists_congr fun mark => and_congr_right fun _ => ?_
  constructor
  · rintro ⟨digits, htoken, hdigits⟩
    rw [afterLastSpace_eq_iff.mpr htoken, List.drop_left]
    exact ⟨List.prefix_append _ _, Text.ofHex?_eq_some_iff.mpr hdigits⟩
  · rintro ⟨⟨digits, hdigits⟩, hn⟩
    rw [← hdigits, List.drop_left] at hn
    exact ⟨digits, afterLastSpace_eq_iff.mp hdigits.symm, Text.ofHex?_eq_some_iff.mp hn⟩

instance (marks : List String) (cs : List Char) (n : Nat) : Decidable (EndsInNumber marks cs n) :=
  decidable_of_iff _ endsInNumber_iff.symm

theorem not_endsInNumber {marks : List String} {cs : List Char}
    (h : ∀ mark ∈ marks, mark.toList <+: afterLastSpace (Text.trim cs) →
      Text.ofHex? ((afterLastSpace (Text.trim cs)).drop mark.toList.length) = none) (n : Nat) :
    ¬ EndsInNumber marks cs n := by
  intro hends
  obtain ⟨mark, hmark, hstarts, hn⟩ := endsInNumber_iff.mp hends
  rw [h mark hmark hstarts] at hn
  cases hn

/-- a cell without its marks -/
def unmarked (cell : String) : List Char := Text.replace "0x".toList [] cell.toList

theorem ofHex?_dropPlus_iff {token : List Char} {n : Nat} : Text.ofHex? (dropPlus token) = some n ↔
    ∃ mark ∈ ["", "+"], ∃ digits, token = mark.toList ++ digits ∧ Text.HexNumeral digits n := by
  constructor
  · intro h
    unfold dropPlus at h
    split at h
    · next cs => exact ⟨"+", by decide, cs, rfl, Text.ofHex?_eq_some_iff.mp h⟩
    · exact ⟨"", by decide, token, rfl, Text.ofHex?_eq_some_iff.mp h⟩
  · rintro ⟨mark, hmark, digits, rfl, hdigits⟩
    rcases List.mem_pair.mp hmark with rfl | rfl
    · have hplus : dropPlus digits = digits :=
        dropPlus_eq_self fun c hc => (hdigits.forall_mem c hc).2.1
      exact (congrArg Text.ofHex? hplus).trans (Text.ofHex?_eq_some_iff.mpr hdigits)
    · exact Text.ofHex?_eq_some_iff.mpr hdigits

/-- **What is read**: a number of 32 bits, behind a plus sign or not, at the end of the cell without
its marks. -/
theorem packetId?_eq_some_iff {cell : String} {n : UInt32} :
    packetId? cell = some n ↔ EndsInNumber ["", "+"] (unmarked cell) n.toNat := by
  have htoken : EndsInNumber ["", "+"] (unmarked cell) n.toNat ↔
      Text.ofHex? (dropPlus (afterLastSpace (Text.trim (unmarked cell)))) = some n.toNat := by
    rw [ofHex?_dropPlus_iff]
    refine exists_congr fun mark => and_congr_right fun _ => exists_congr fun digits => ?_
    rw [← afterLastSpace_eq_iff]
  rw [htoken, packetId?, unmarked]
  cases Text.ofHex? (dropPlus (afterLastSpace
    (Text.trim (Text.replace "0x".toList [] cell.toList)))) with
  | none => simp
  | some v =>
    dsimp only
    split
    · next hv =>
      rw [Option.some.injEq, Option.some.injEq, ← UInt32.toNat_inj, UInt32.toNat_ofNat_of_lt' hv]
    · next hv =>
      have hn : v ≠ n.toNat := by
        rintro rfl
        exact hv n.toNat_lt_size
      simp [hn]

/-! ## texts without their marks -/

namespace Text

/-- a text of blanks, or one that ends with a space: it leaves what follows the last part -/
def OpensToken (front : List Char) : Prop := IsBlanks front ∨ ∃ inner, front = inner ++ [' ']

theorem OpensToken.getLast?_blank {front : List Char} (h : OpensToken front) {d : Char}
    (hd : front.getLast? = some d) : isBlank d = true := by
  rcases h with h | ⟨inner, rfl⟩
  · exact h d (List.mem_of_getLast? hd)
  · rw [List.getLast?_concat] at hd
    obtain rfl := Option.some.inj hd
    rfl

theorem IsLastToken.suffix {token cs : List Char} (h : IsLastToken token cs) : token <:+ cs := by
  rcases h.2 with rfl | ⟨front, rfl⟩
  · exact List.suffix_rfl
  · exact (List.suffix_cons ' ' token).trans (List.suffix_append front _)

theorem IsLastToken.exists_split {token cs : List Char} (h : IsLastToken token (trim cs)) :
    ∃ front back, OpensToken front ∧ IsBlanks back ∧ cs = front ++ (token ++ back) := by
  obtain ⟨blanks, back, hblanks, hback, hcs⟩ := exists_trim cs
  rcases h.2 with hall | ⟨inner, hinner⟩
  · refine ⟨blanks, back, .inl hblanks, hback, ?_⟩
    rw [hall, ← List.append_assoc]
    exact hcs
  · refine ⟨blanks ++ inner ++ [' '], back, .inr ⟨blanks ++ inner, rfl⟩, hback, ?_⟩
    rw [hinner] at hcs
    simpa using hcs

theorem OpensToken.isLastToken {front : List Char} (h : OpensToken front) {c : Char}
    {rest : List Char} (hc : isBlank c = false)
    (hlast : ∀ d, (c :: rest).getLast? = some d → isBlank d = false) (hnone : ' ' ∉ c :: rest) :
    IsLastToken (c :: rest) (trim (front ++ c :: rest)) := by
  rw [trim_append_solid hc hlast]
  refine ⟨hnone, ?_⟩
  rcases h with hblanks | ⟨inner, rfl⟩
  · left
    rw [trimStart, List.dropWhile_eq_nil_iff.mpr hblanks, List.nil_append]
  · -- what is left of the front is nothing, or still ends with the space
    have hsuffix : trimStart (inner ++ [' ']) <:+ inner ++ [' '] := List.dropWhile_suffix _
    rcases List.suffix_concat_iff.mp hsuffix with hnil | ⟨front, hfront, -⟩
    · left
      rw [hnil, List.nil_append]
    · right
      refine ⟨front, ?_⟩
      rw [hfront, List.append_assoc, List.singleton_append]

end Text

theorem mark_solid : "0x".toList ≠ [] ∧ Text.IsSolid "0x".toList := by decide

theorem unmarked_blanks {cs : List Char} (h : Text.IsBlanks cs) :
    Text.replace "0x".toList [] cs = cs := by
  refine Text.replace_eq_self mark_solid.1 fun hin => ?_
  have hzero := h '0' (hin.subset (by decide))
  cases hzero

theorem unmarked_opensToken {front : List Char} (h : Text.OpensToken front) :
    Text.OpensToken (Text.replace "0x".toList [] front) := by
  rcases h with h | ⟨inner, rfl⟩
  · left
    rw [unmarked_blanks h]
    exact h
  · right
    have hspace : Text.IsBlanks [' '] := by decide
    refine ⟨Text.replace "0x".toList [] inner, ?_⟩
    rw [Text.replace_append_of_blank mark_solid (.inr fun d hd => hspace d (List.mem_of_head? hd)),
      unmarked_blanks hspace]

/-- **The last part of a cell** keeps all but its mark when the marks go, if what stands behind the
mark holds no other one and does not start with a blank. -/
theorem lastToken_unmarked {cell mark : String} {c : Char} {rest : List Char}
    (hmark : mark ∈ ["", "0x"])
    (htoken : Text.IsLastToken (mark.toList ++ c :: rest) (Text.trim cell.toList))
    (hc : Text.isBlank c = false) (hrest : ¬ "0x".toList <:+: c :: rest) :
    Text.IsLastToken (c :: rest) (Text.trim (unmarked cell)) := by
  obtain ⟨front, back, hfront, hback, hcell⟩ := htoken.exists_split
  have htokenKept : Text.replace "0x".toList [] (mark.toList ++ c :: rest) = c :: rest := by
    rcases List.mem_pair.mp hmark with rfl | rfl
    · exact Text.replace_eq_self mark_solid.1 hrest
    · rw [Text.replace_occurrence mark_solid.1, List.nil_append]
      exact Text.replace_eq_self mark_solid.1 hrest
  -- no mark reaches across the blanks on either side
  have hgone : unmarked cell = Text.replace "0x".toList [] front ++ c :: rest ++ back := by
    have hbackStart : ∀ d, back.head? = some d → Text.isBlank d = true :=
      fun d hd => hback d (List.mem_of_head? hd)
    rw [unmarked, hcell, Text.replace_append_of_blank mark_solid (.inl fun _ => hfront.getLast?_blank),
      Text.replace_append_of_blank mark_solid (.inr hbackStart), htokenKept, unmarked_blanks hback,
      List.append_assoc]
  have hlast : ∀ d, (c :: rest).getLast? = some d → Text.isBlank d = false := by
    intro d hd
    obtain ⟨inner, hinner⟩ := htoken.suffix
    have hend : (Text.trim cell.toList).getLast? = some d := by
      rw [← hinner, ← List.append_assoc, List.getLast?_append, hd, Option.some_or]
    exact Text.getLast?_trim hend
  have hnil : Text.IsBlanks [] := by decide
  have htrim := Text.trim_append hnil hback (Text.replace "0x".toList [] front ++ c :: rest)
  rw [List.nil_append] at htrim
  rw [hgone, htrim]
  apply (unmarked_opensToken hfront).isLastToken hc hlast
  intro hspace
  exact htoken.1 (List.mem_append_right _ hspace)

/-! ## the documented form -/

/-- the last part of a cell is nothing but a mark, if any, and a text that holds no mark and starts
with neither a plus sign nor a blank -/
def EndsPlainly (cell : String) : Prop :=
  ∃ mark ∈ ["", "0x"], ∃ c rest,
    Text.IsLastToken (mark.toList ++ c :: rest) (Text.trim cell.toList) ∧
    c ≠ '+' ∧ Text.isBlank c = false ∧ ¬ "0x".toList <:+: c :: rest

/-- **Ids as documented** are read as documented, every one.  What is read is a number behind an
optional plus sign at the end of the cell without its marks; that is the documented form again for
cells that end plainly. -/
theorem packetId?_documented (cell : String) :
    (∀ n : UInt32, EndsInNumber ["", "0x"] cell.toList n.toNat → packetId? cell = some n) ∧
    (∀ n : UInt32, packetId? cell = some n ↔ EndsInNumber ["", "+"] (unmarked cell) n.toNat) ∧
    (EndsPlainly cell →
      ∀ n : UInt32, packetId? cell = some n ↔ EndsInNumber ["", "0x"] cell.toList n.toNat) := by
  have hread : ∀ n : UInt32, EndsInNumber ["", "0x"] cell.toList n.toNat →
      packetId? cell = some n := by
    rintro n ⟨mark, hmark, digits, htoken, hdigits⟩
    obtain ⟨c, rest, rfl⟩ := List.exists_cons_of_ne_nil hdigits.ne_nil
    have hx : 'x' ∈ "0x".toList := by decide
    have hkept := lastToken_unmarked hmark htoken
      (hdigits.forall_mem c List.mem_cons_self).2.2
      fun hin => (hdigits.forall_mem 'x' (hin.subset hx)).1 rfl
    exact packetId?_eq_some_iff.mpr ⟨"", by decide, c :: rest, hkept, hdigits⟩
  refine ⟨hread, fun n => packetId?_eq_some_iff, ?_⟩
  rintro ⟨mark, hmark, c, rest, htoken, hplus, hc, hrest⟩ n
  refine ⟨fun h => ?_, hread n⟩
  obtain ⟨sign, hsign, digits, hsigned, hdigits⟩ := packetId?_eq_some_iff.mp h
  have hkept := lastToken_unmarked hmark htoken hc hrest
  -- a text has one last part
  have hsame : sign.toList ++ digits = c :: rest := by
    rw [← afterLastSpace_eq_iff] at hsigned hkept
    exact hsigned.symm.trans hkept
  rcases List.mem_pair.mp hsign with rfl | rfl
  · refine ⟨mark, hmark, digits, ?_, hdigits⟩
    rw [String.toList_empty, List.nil_append] at hsame
    rw [hsame]
    exact htoken
  · exact absurd (List.cons.inj hsame).1.symm hplus

theorem packetId?_documented_play :
    packetId? "Play 0x1F" = some 0x1F ∧
      (∀ n : UInt32, packetId? "Play 0x1F" = some n ↔
        EndsInNumber ["", "0x"] "Play 0x1F".toList n.toNat) := by
  have hplain : EndsPlainly "Play 0x1F" :=
    ⟨"0x", by decide, '1', ['F'], ⟨by decide, .inr ⟨"Play".toList, by decide⟩⟩, by decide,
      by decide, by decide⟩
  exact ⟨(packetId?_documented "Play 0x1F").1 0x1F (by decide),
    (packetId?_documented "Play 0x1F").2.2 hplain⟩

/-- A mark among the digits, one behind them, and a plus sign: none is of the documented form. -/
theorem packetId?_undocumented :
    (packetId? "10x2" = some 0x12 ∧ ∀ n, ¬ EndsInNumber ["", "0x"] "10x2".toList n) ∧
    (packetId? "5 0x" = some 5 ∧ ∀ n, ¬ EndsInNumber ["", "0x"] "5 0x".toList n) ∧
    (packetId? "+5" = some 5 ∧ ∀ n, ¬ EndsInNumber ["", "0x"] "+5".toList n) :=
  ⟨⟨by decide, not_endsInNumber (by decide)⟩, ⟨by decide, not_endsInNumber (by decide)⟩,
    ⟨by decide, not_endsInNumber (by decide)⟩⟩

end WireWrapper
