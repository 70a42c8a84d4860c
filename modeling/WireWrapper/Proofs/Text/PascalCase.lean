import Mathlib.Data.List.TakeWhile
import WireWrapper.Name
import WireWrapper.Proofs.Text.Pieces

/-!
# Names in Pascal case

Pascal case drops the separators between words and keeps only one capital letter for each of them, so
names with other separators, other letter case or a digit at the start of a word run together.  In an
upper-snake name, though, every word starts with a capital letter and has none but capital letters
and digits behind it: then a capital letter in Pascal case is the start of a word, and the name can
be read back.

* `isUpperWord`              a word of an upper-snake name;
* `pascalWord_upperWord`     its first letter stays, the others become small;
* `flatMap_pascalWord_inj`   such words are read back from their Pascal case;
* `pascalCase_inj`           and so is a name of such words.
-/

namespace WireWrapper
namespace Name

/-! ## upper-snake words -/

/-- a character of an upper-snake word -/
def isUpperChar (c : Char) : Bool := c.isUpper || c.isDigit

/-- a capital letter, and capital letters and digits behind it -/
def isUpperWord : List Char → Bool
  | [] => false
  | c :: cs => c.isUpper && cs.all isUpperChar

/-- words of this kind with underscores in between -/
def isUpperSnake (s : String) : Bool := (Text.pieces (· == '_') s.toList).all isUpperWord

example : isUpperSnake "SPAWN_ENTITY" = true := by decide
example : isUpperSnake "SLOT_2" = false := by decide

theorem of_isUpperChar {P : Char → Prop}
    (h : ∀ n < 128, isUpperChar (Char.ofNat n) = true → P (Char.ofNat n)) {c : Char}
    (hc : isUpperChar c = true) : P c := by
  have hcode : c.toNat < 128 := by
    rcases Bool.or_eq_true_iff.mp hc with hupper | hdigit
    · have hz : c.toNat ≤ 90 := (of_decide_eq_true hupper).2
      omega
    · have hnine : c.toNat ≤ 57 := of_decide_eq_true (Bool.and_eq_true_iff.mp hdigit).2
      omega
  have hP := h c.toNat hcode
  rw [Char.ofNat_toNat] at hP
  exact hP hc

theorem upperChar_of_isUpperChar {c : Char} (hc : isUpperChar c = true) : Text.upperChar c = [c] :=
  of_isUpperChar (P := fun c => Text.upperChar c = [c]) (by decide) hc

/-- a character of a word becomes small, is then no capital letter, and can be made large again -/
theorem toLower_of_isUpperChar {c : Char} (hc : isUpperChar c = true) :
    Text.lowerChar c = [c.toLower] ∧ c.toLower.isUpper = false ∧ c.toLower.toUpper = c :=
  of_isUpperChar (P := fun c => Text.lowerChar c = [c.toLower] ∧ c.toLower.isUpper = false ∧
    c.toLower.toUpper = c) (by decide) hc

theorem exists_of_isUpperWord {w : List Char} (hw : isUpperWord w = true) :
    ∃ c cs, w = c :: cs ∧ c.isUpper = true ∧ ∀ d ∈ cs, isUpperChar d = true := by
  cases w with
  | nil => cases hw
  | cons c cs =>
    obtain ⟨hc, hcs⟩ := Bool.and_eq_true_iff.mp hw
    exact ⟨c, cs, rfl, hc, List.all_eq_true.mp hcs⟩

theorem pascalWord_upperWord {c : Char} (hc : c.isUpper = true) {cs : List Char}
    (hcs : ∀ d ∈ cs, isUpperChar d = true) :
    pascalWord (c :: cs) = c :: cs.map Char.toLower := by
  have hsmall : cs.flatMap Text.lowerChar = cs.flatMap fun d => [d.toLower] :=
    List.flatMap_congr fun d hd => (toLower_of_isUpperChar (hcs d hd)).1
  have hfirst : Text.upperChar c = [c] :=
    upperChar_of_isUpperChar (Bool.or_eq_true_iff.mpr (.inl hc))
  rw [pascalWord, hfirst, hsmall, ← List.map_eq_flatMap, List.singleton_append]

/-! ## reading words back -/

theorem span_pascalWords {cs : List Char} (hcs : ∀ d ∈ cs, isUpperChar d = true)
    {ws : List (List Char)} (hws : ∀ w ∈ ws, isUpperWord w = true) :
    (cs.map Char.toLower ++ ws.flatMap pascalWord).takeWhile (!·.isUpper) = cs.map Char.toLower ∧
      (cs.map Char.toLower ++ ws.flatMap pascalWord).dropWhile (!·.isUpper)
        = ws.flatMap pascalWord := by
  have hsmall : ∀ d ∈ cs.map Char.toLower, (!d.isUpper) = true := by
    intro d hd
    obtain ⟨e, he, rfl⟩ := List.mem_map.mp hd
    rw [(toLower_of_isUpperChar (hcs e he)).2.1]
    rfl
  -- the small characters end where the next word starts with its capital letter
  have hnext : (ws.flatMap pascalWord).takeWhile (!·.isUpper) = [] ∧
      (ws.flatMap pascalWord).dropWhile (!·.isUpper) = ws.flatMap pascalWord := by
    cases ws with
    | nil => exact ⟨rfl, rfl⟩
    | cons w ws =>
      obtain ⟨c, w, rfl, hc, hw⟩ := exists_of_isUpperWord (hws w List.mem_cons_self)
      have hstop : (!c.isUpper) = false := by rw [hc]; rfl
      rw [List.flatMap_cons, pascalWord_upperWord hc hw, List.cons_append, List.takeWhile_cons,
        List.dropWhile_cons, hstop]
      exact ⟨rfl, rfl⟩
  rw [List.takeWhile_append_of_pos hsmall, List.dropWhile_append_of_pos hsmall, hnext.1, hnext.2,
    List.append_nil]
  exact ⟨rfl, rfl⟩

theorem map_toLower_inj {cs ds : List Char} (hcs : ∀ c ∈ cs, isUpperChar c = true)
    (hds : ∀ d ∈ ds, isUpperChar d = true) (h : cs.map Char.toLower = ds.map Char.toLower) :
    cs = ds := by
  have hback : ∀ es : List Char, (∀ e ∈ es, isUpperChar e = true) →
      (es.map Char.toLower).map Char.toUpper = es := by
    intro es hes
    rw [List.map_map]
    exact (List.map_congr_left fun e he => (toLower_of_isUpperChar (hes e he)).2.2).trans
      (List.map_id es)
  rw [← hback cs hcs, h, hback ds hds]

/-- **Upper-snake words are read back from their Pascal case.** -/
theorem flatMap_pascalWord_inj {ws vs : List (List Char)} (hws : ∀ w ∈ ws, isUpperWord w = true)
    (hvs : ∀ v ∈ vs, isUpperWord v = true) (h : ws.flatMap pascalWord = vs.flatMap pascalWord) :
    ws = vs := by
  induction ws generalizing vs with
  | nil =>
    cases vs with
    | nil => rfl
    | cons v vs =>
      obtain ⟨d, ds, rfl, hd, hds⟩ := exists_of_isUpperWord (hvs v List.mem_cons_self)
      rw [List.flatMap_cons, pascalWord_upperWord hd hds] at h
      cases h
  | cons w ws ih =>
    obtain ⟨c, cs, rfl, hc, hcs⟩ := exists_of_isUpperWord (hws w List.mem_cons_self)
    rw [List.flatMap_cons, pascalWord_upperWord hc hcs] at h
    cases vs with
    | nil => cases h
    | cons v vs =>
      obtain ⟨d, ds, rfl, hd, hds⟩ := exists_of_isUpperWord (hvs v List.mem_cons_self)
      have hws' : ∀ w ∈ ws, isUpperWord w = true := fun w hw => hws w (List.mem_cons_of_mem _ hw)
      have hvs' : ∀ v ∈ vs, isUpperWord v = true := fun v hv => hvs v (List.mem_cons_of_mem _ hv)
      rw [List.flatMap_cons, pascalWord_upperWord hd hds, List.cons_append, List.cons_append] at h
      obtain ⟨hcd, hrest⟩ := List.cons.inj h
      -- the first words end at the next capital letter in the one text and in the other
      obtain ⟨htakeW, hdropW⟩ := span_pascalWords hcs hws'
      obtain ⟨htakeV, hdropV⟩ := span_pascalWords hds hvs'
      have hsmall : cs.map Char.toLower = ds.map Char.toLower := by
        rw [← htakeW, hrest, htakeV]
      have hwords : ws.flatMap pascalWord = vs.flatMap pascalWord := by
        rw [← hdropW, hrest, hdropV]
      rw [hcd, map_toLower_inj hcs hds hsmall, ih hws' hvs' hwords]

/-! ## upper-snake names -/

theorem pascalCase_upperSnake {s : String} (hs : isUpperSnake s = true) :
    pascalCase s = String.ofList ((Text.pieces (· == '_') s.toList).flatMap pascalWord) := by
  have hwords : ∀ w ∈ Text.pieces (· == '_') s.toList, isUpperWord w = true :=
    List.all_eq_true.mp hs
  have hdash : ∀ c ∈ s.toList, (c == '-' || c == '_') = (c == '_') := by
    intro c hc
    rcases @Text.mem_pieces_of_mem (· == '_') s.toList c hc with hsep | ⟨w, hw, hcw⟩
    · rw [hsep, Bool.or_true]
    · -- a hyphen is no character of an upper-snake word
      have hne : c ≠ '-' := by
        rintro rfl
        obtain ⟨d, ds, rfl, hd, hds⟩ := exists_of_isUpperWord (hwords w hw)
        rcases List.mem_cons.mp hcw with rfl | hcw
        · exact absurd hd (by decide)
        · exact absurd (hds _ hcw) (by decide)
      rw [beq_eq_false_iff_ne.mpr hne, Bool.false_or]
  rw [pascalCase, Text.pieces_congr hdash]

/-- **Upper-snake names with one Pascal case are one name.** -/
theorem pascalCase_inj {s t : String} (hs : isUpperSnake s = true) (ht : isUpperSnake t = true) :
    pascalCase s = pascalCase t ↔ s = t := by
  refine ⟨fun h => ?_, fun h => congrArg pascalCase h⟩
  rw [pascalCase_upperSnake hs, pascalCase_upperSnake ht, String.ofList_inj] at h
  have hwords := flatMap_pascalWord_inj (List.all_eq_true.mp hs) (List.all_eq_true.mp ht) h
  rw [← String.toList_inj, ← Text.intercalate_pieces '_' s.toList, hwords, Text.intercalate_pieces]

end Name
end WireWrapper
