import Mathlib.Data.List.Infix
import WireWrapper.Proofs.Source.Lines
import WireWrapper.Proofs.Text.Replaced
import WireWrapper.Text.Digits

/-!
# Source text as the Java compiler takes it in

Before the compiler looks for comments and for ends of lines it translates escapes: a backslash with
an even number of backslashes in front of it, one or more `u` and four hexadecimal digits are one
unit of the translated text.  So what ends a comment, or its line, need not stand in the source.

* `JavaInput`, `javaInput`       one unit of translated text, and all those of a source;
* `readFrom_cons`                what becomes of one character;
* `isSeam`                       a character that belongs to no escape and to no end of a comment;
* `javaInput_append_of_ends`, `javaInput_append_of_starts`   at a seam, parts are translated alone;
* `EndsComment`, `BreaksLine`    the end of a comment, or that of a line, in the translated text;
* `not_endsComment`, `breaksLine_iff`   texts without these ends, by what their escapes write.
-/

namespace WireWrapper

/-! ## translation -/

/-- one unit of translated text -/
inductive JavaInput where
  /-- a character that stands in the source -/
  | plain (c : Char)
  /-- what an escape writes -/
  | escaped (code : Nat)
deriving DecidableEq, Repr

def JavaInput.code : JavaInput → Nat
  | plain c => c.toNat
  | escaped code => code

namespace JavaInput

/-- the number that the first four characters write -/
def fourDigits? : List Char → Option Nat
  | c :: d :: e :: f :: _ => Text.ofHex? [c, d, e, f]
  | _ => none

/-- four digits behind any number of `u`s: what they write, and how far that is -/
def digitsBehind? : List Char → Option (Nat × Nat)
  | [] => none
  | c :: cs =>
    if c = 'u' then (digitsBehind? cs).map fun (code, length) => (code, length + 1)
    else (fourDigits? (c :: cs)).map fun code => (code, 4)

/-- what stands behind the backslash of an escape: what it writes, and how far it goes -/
def escape? (cs : List Char) : Option (Nat × Nat) :=
  if cs.head? = some 'u' then digitsBehind? cs else none

/-- a text behind an odd number of backslashes, or behind an even one; the first `skip` characters
belong to an escape that was read already -/
def readFrom : (odd : Bool) → (skip : Nat) → List Char → List JavaInput
  | _, _, [] => []
  | odd, skip + 1, _ :: cs => readFrom odd skip cs
  | odd, 0, c :: cs =>
    if c = '\\' ∧ odd = false then
      match escape? cs with
      | some (code, length) => escaped code :: readFrom false length cs
      | none => plain c :: readFrom true 0 cs
    else plain c :: readFrom false 0 cs

end JavaInput

/-- the translated text of a source -/
def javaInput (s : String) : List JavaInput := JavaInput.readFrom false 0 s.toList

example : javaInput "\\u002a\\\\u002a" = .escaped 0x2A :: "\\\\u002a".toList.map .plain := by decide

namespace JavaInput

theorem digitsBehind?_length {cs : List Char} {code length : Nat}
    (h : digitsBehind? cs = some (code, length)) : length ≤ cs.length := by
  induction cs generalizing length with
  | nil => cases h
  | cons c cs ih =>
    rw [digitsBehind?] at h
    split at h
    · obtain ⟨⟨code', length'⟩, hcs, heq⟩ := Option.map_eq_some_iff.mp h
      obtain ⟨rfl, rfl⟩ := Prod.mk.inj heq
      have hle := ih hcs
      rw [List.length_cons]
      omega
    · obtain ⟨code', hfour, heq⟩ := Option.map_eq_some_iff.mp h
      obtain ⟨rfl, rfl⟩ := Prod.mk.inj heq
      match cs with
      | [] | [_] | [_, _] => cases hfour
      | _ :: _ :: _ :: cs =>
        simp only [List.length_cons]
        omega

theorem escape?_length {cs : List Char} {code length : Nat}
    (h : escape? cs = some (code, length)) : length ≤ cs.length := by
  rw [escape?] at h
  split at h
  · exact digitsBehind?_length h
  · cases h

theorem readFrom_cons (odd : Bool) (c : Char) (cs : List Char) :
    (∃ code length, escape? cs = some (code, length) ∧
      readFrom odd 0 (c :: cs) = escaped code :: readFrom false length cs) ∨
    ∃ odd', readFrom odd 0 (c :: cs) = plain c :: readFrom odd' 0 cs := by
  rw [readFrom]
  split
  · cases hescape : escape? cs with
    | none => exact .inr ⟨true, rfl⟩
    | some escape => exact .inl ⟨escape.1, escape.2, rfl, rfl⟩
  · exact .inr ⟨false, rfl⟩

end JavaInput

/-! ## seams -/

/-- a character that belongs to no escape and to no end of a comment -/
def isSeam (c : Char) : Bool :=
  c != '\\' && c != 'u' && (Text.hexValue? c).isNone && c != '*' && c != '/'

theorem isSeam_iff {c : Char} :
    isSeam c = true ↔
      c ≠ '\\' ∧ c ≠ 'u' ∧ Text.hexValue? c = none ∧ c ≠ '*' ∧ c ≠ '/' := by
  simp [isSeam, and_assoc]

namespace JavaInput

theorem ofHexAfter?_eq_none {s : Char} (hs : Text.hexValue? s = none) {cs : List Char}
    (h : s ∈ cs) (value : Nat) : Text.ofHexAfter? value cs = none := by
  induction cs generalizing value with
  | nil => cases h
  | cons c cs ih =>
    rw [Text.ofHexAfter?]
    rcases List.mem_cons.mp h with rfl | h
    · rw [hs]
      rfl
    · cases Text.hexValue? c with
      | none => rfl
      | some digit => exact ih h _

section
variable {s : Char} (hs : isSeam s = true)
include hs

theorem fourDigits?_append (xs ys : List Char) : fourDigits? (xs ++ s :: ys) = fourDigits? xs := by
  have hnone : ∀ cs, s ∈ cs.take 4 → fourDigits? cs = none := by
    intro cs hmem
    match cs with
    | [] | [_] | [_, _] | [_, _, _] => rfl
    | c :: d :: e :: f :: cs => exact ofHexAfter?_eq_none (isSeam_iff.mp hs).2.2.1 hmem 0
  match xs with
  | [] => exact hnone _ (by simp)
  | [c] => exact hnone _ (by simp)
  | [c, d] => exact hnone _ (by simp)
  | [c, d, e] => exact hnone _ (by simp)
  | c :: d :: e :: f :: xs => rfl

theorem digitsBehind?_append (xs ys : List Char) :
    digitsBehind? (xs ++ s :: ys) = digitsBehind? xs := by
  induction xs with
  | nil =>
    have hfour : digitsBehind? (s :: ys) = (fourDigits? (s :: ys)).map fun code => (code, 4) := by
      rw [digitsBehind?, if_neg (isSeam_iff.mp hs).2.1]
    exact hfour.trans (congrArg (Option.map _) (fourDigits?_append hs [] ys))
  | cons x xs ih =>
    rw [List.cons_append, digitsBehind?, ih, ← List.cons_append, fourDigits?_append hs,
      digitsBehind?]

theorem escape?_append (xs ys : List Char) : escape? (xs ++ s :: ys) = escape? xs := by
  have hhead : (xs ++ s :: ys).head? = some 'u' ↔ xs.head? = some 'u' := by
    cases xs with
    | nil => simp [(isSeam_iff.mp hs).2.1]
    | cons x xs => rfl
  rw [escape?, escape?, digitsBehind?_append hs]
  simp only [hhead]

/-- **No escape reaches across a seam**, and none that follows depends on what stands in front. -/
theorem readFrom_append (xs ys : List Char) (odd : Bool) {skip : Nat} (hskip : skip ≤ xs.length) :
    readFrom odd skip (xs ++ s :: ys) = readFrom odd skip xs ++ plain s :: readFrom false 0 ys := by
  induction xs generalizing odd skip with
  | nil =>
    obtain rfl := Nat.le_zero.mp hskip
    have hplain : readFrom odd 0 (s :: ys) = plain s :: readFrom false 0 ys := by
      rw [readFrom, if_neg fun h => (isSeam_iff.mp hs).1 h.1]
    exact hplain
  | cons x xs ih =>
    cases skip with
    | succ skip => exact ih odd (Nat.le_of_succ_le_succ hskip)
    | zero =>
      rw [List.cons_append, readFrom, readFrom, escape?_append hs]
      split
      · cases hescape : escape? xs with
        | none => exact congrArg (plain x :: ·) (ih true (Nat.zero_le _))
        | some escape => exact congrArg (_ :: ·) (ih false (escape?_length hescape))
      · exact congrArg (plain x :: ·) (ih false (Nat.zero_le _))

end

end JavaInput

def endsAtSeam (s : String) : Bool := s.toList.getLast?.any isSeam

def startsAtSeam (s : String) : Bool := s.toList.head?.any isSeam

theorem endsAtSeam_iff {s : String} :
    endsAtSeam s = true ↔ ∃ xs c, s.toList = xs ++ [c] ∧ isSeam c = true := by
  rw [endsAtSeam, Option.any_eq_true]
  constructor
  · rintro ⟨c, hlast, hc⟩
    obtain ⟨xs, hxs⟩ := List.getLast?_eq_some_iff.mp hlast
    exact ⟨xs, c, hxs, hc⟩
  · rintro ⟨xs, c, hxs, hc⟩
    exact ⟨c, by rw [hxs, List.getLast?_concat], hc⟩

theorem startsAtSeam_iff {s : String} :
    startsAtSeam s = true ↔ ∃ c xs, s.toList = c :: xs ∧ isSeam c = true := by
  rw [startsAtSeam, Option.any_eq_true]
  constructor
  · rintro ⟨c, hhead, hc⟩
    obtain ⟨xs, hxs⟩ := List.head?_eq_some_iff.mp hhead
    exact ⟨c, xs, hxs, hc⟩
  · rintro ⟨c, xs, hxs, hc⟩
    exact ⟨c, by rw [hxs, List.head?_cons], hc⟩

theorem endsAtSeam_append (s : String) {t : String} (ht : endsAtSeam t = true) :
    endsAtSeam (s ++ t) = true := by
  obtain ⟨xs, c, hxs, hc⟩ := endsAtSeam_iff.mp ht
  exact endsAtSeam_iff.mpr ⟨s.toList ++ xs, c, by rw [String.toList_append, hxs, List.append_assoc], hc⟩

theorem startsAtSeam_append {s : String} (hs : startsAtSeam s = true) (t : String) :
    startsAtSeam (s ++ t) = true := by
  obtain ⟨c, xs, hxs, hc⟩ := startsAtSeam_iff.mp hs
  exact startsAtSeam_iff.mpr ⟨c, xs ++ t.toList, by rw [String.toList_append, hxs]; rfl, hc⟩

theorem javaInput_append_of_ends {s : String} (hs : endsAtSeam s = true) (t : String) :
    javaInput (s ++ t) = javaInput s ++ javaInput t := by
  obtain ⟨xs, c, hxs, hc⟩ := endsAtSeam_iff.mp hs
  rw [javaInput, String.toList_append, hxs, List.append_assoc, List.singleton_append,
    JavaInput.readFrom_append hc _ _ _ (Nat.zero_le _), javaInput, hxs,
    JavaInput.readFrom_append hc _ _ _ (Nat.zero_le _), List.append_assoc]
  rfl

theorem javaInput_append_of_starts (s : String) {t : String} (ht : startsAtSeam t = true) :
    javaInput (s ++ t) = javaInput s ++ javaInput t := by
  obtain ⟨c, xs, hxs, hc⟩ := startsAtSeam_iff.mp ht
  have htail := JavaInput.readFrom_append hc [] xs false (Nat.zero_le _)
  rw [javaInput, String.toList_append, hxs, JavaInput.readFrom_append hc _ _ _ (Nat.zero_le _),
    javaInput, javaInput, hxs, ← List.nil_append (c :: xs), htail]
  rfl

theorem javaInput_joinMap {α : Type} {f : α → String} (hf : ∀ x, endsAtSeam (f x) = true)
    (xs : List α) (t : String) :
    javaInput (joinMap f xs ++ t) = xs.flatMap (fun x => javaInput (f x)) ++ javaInput t := by
  induction xs with
  | nil => rw [joinMap_nil, String.empty_append, List.flatMap_nil, List.nil_append]
  | cons x xs ih =>
    rw [joinMap_cons, String.append_assoc, javaInput_append_of_ends (hf x), ih, List.flatMap_cons,
      List.append_assoc]

/-! ## ends of comments and of lines -/

/-- whether the end of a comment stands in the translated text -/
def EndsComment (s : String) : Prop :=
  ['*'.toNat, '/'.toNat] <:+: (javaInput s).map JavaInput.code

def BreaksLine (s : String) : Prop :=
  '\n'.toNat ∈ (javaInput s).map JavaInput.code ∨ '\r'.toNat ∈ (javaInput s).map JavaInput.code

instance (s : String) : Decidable (EndsComment s) := List.decidableInfix _ _

instance (s : String) : Decidable (BreaksLine s) :=
  inferInstanceAs (Decidable (_ ∨ _))

theorem getLast?_javaInput {xs : List Char} {c : Char} (hc : isSeam c = true) {s : String}
    (hs : s.toList = xs ++ [c]) : (javaInput s).getLast? = some (.plain c) := by
  rw [javaInput, hs, JavaInput.readFrom_append hc _ _ _ (Nat.zero_le _)]
  exact List.getLast?_concat

theorem head?_javaInput {xs : List Char} {c : Char} (hc : isSeam c = true) {s : String}
    (hs : s.toList = c :: xs) : (javaInput s).head? = some (.plain c) := by
  have hsplit := JavaInput.readFrom_append hc [] xs false (Nat.zero_le _)
  rw [List.nil_append] at hsplit
  rw [javaInput, hs, hsplit]
  rfl

theorem endsComment_append_of_ends {s : String} (hs : endsAtSeam s = true) (t : String) :
    EndsComment (s ++ t) ↔ EndsComment s ∨ EndsComment t := by
  obtain ⟨xs, c, hxs, hc⟩ := endsAtSeam_iff.mp hs
  have hlast : ((javaInput s).map JavaInput.code).getLast? ≠ some '*'.toNat := by
    rw [List.getLast?_map, getLast?_javaInput hc hxs]
    intro heq
    exact (isSeam_iff.mp hc).2.2.2.1 (Char.toNat_inj.mp (Option.some.inj heq))
  rw [EndsComment, javaInput_append_of_ends hs, List.map_append, Text.pair_infix_append]
  simp only [hlast, false_and, or_false, EndsComment]

theorem endsComment_append_of_starts (s : String) {t : String} (ht : startsAtSeam t = true) :
    EndsComment (s ++ t) ↔ EndsComment s ∨ EndsComment t := by
  obtain ⟨c, xs, hxs, hc⟩ := startsAtSeam_iff.mp ht
  have hhead : ((javaInput t).map JavaInput.code).head? ≠ some '/'.toNat := by
    rw [List.head?_map, head?_javaInput hc hxs]
    intro heq
    exact (isSeam_iff.mp hc).2.2.2.2 (Char.toNat_inj.mp (Option.some.inj heq))
  rw [EndsComment, javaInput_append_of_starts s ht, List.map_append, Text.pair_infix_append]
  simp only [hhead, and_false, or_false, EndsComment]

theorem endsComment_behind {front : String} (hseam : endsAtSeam front = true)
    (hfree : ¬ EndsComment front) (s : String) : EndsComment (front ++ s) ↔ EndsComment s :=
  (endsComment_append_of_ends hseam s).trans (or_iff_right hfree)

theorem endsComment_before {back : String} (hseam : startsAtSeam back = true)
    (hfree : ¬ EndsComment back) (s : String) : EndsComment (s ++ back) ↔ EndsComment s :=
  (endsComment_append_of_starts s hseam).trans (or_iff_left hfree)

theorem breaksLine_append_of_ends {s : String} (hs : endsAtSeam s = true) (t : String) :
    BreaksLine (s ++ t) ↔ BreaksLine s ∨ BreaksLine t := by
  rw [BreaksLine, javaInput_append_of_ends hs, List.map_append, List.mem_append, List.mem_append,
    BreaksLine, BreaksLine]
  exact or_or_or_comm

/-! ## texts without these ends -/

/-- no end of a line stands in a text -/
def IsLine (s : String) : Prop := ∀ c ∈ s.toList, c ≠ '\n' ∧ c ≠ '\r'

instance (s : String) : Decidable (IsLine s) := List.decidableBAll _ _

theorem isLine_append {s t : String} : IsLine (s ++ t) ↔ IsLine s ∧ IsLine t := by
  rw [IsLine, String.toList_append]
  exact List.forall_mem_append

namespace JavaInput

theorem mem_of_plain_mem {odd : Bool} {skip : Nat} {cs : List Char} {c : Char}
    (h : plain c ∈ readFrom odd skip cs) : c ∈ cs := by
  induction cs generalizing odd skip with
  | nil => cases h
  | cons x xs ih =>
    cases skip with
    | succ skip => exact List.mem_cons_of_mem x (ih h)
    | zero =>
      rcases readFrom_cons odd x xs with ⟨code, length, -, hread⟩ | ⟨odd', hread⟩
      · rw [hread] at h
        rcases List.mem_cons.mp h with h | h
        · cases h
        · exact List.mem_cons_of_mem x (ih h)
      · rw [hread] at h
        rcases List.mem_cons.mp h with h | h
        · cases h
          exact List.mem_cons_self
        · exact List.mem_cons_of_mem x (ih h)

theorem head?_of_plain {odd : Bool} {cs : List Char} {c : Char}
    (h : (readFrom odd 0 cs).head? = some (plain c)) : cs.head? = some c := by
  cases cs with
  | nil => cases h
  | cons x xs =>
    rcases readFrom_cons odd x xs with ⟨code, length, -, hread⟩ | ⟨odd', hread⟩
    · rw [hread] at h
      cases h
    · rw [hread] at h
      cases h
      rfl

/-- two characters that stand there for themselves, side by side, did so before -/
theorem pair_infix_of_plain {odd : Bool} {skip : Nat} {cs : List Char} {a b : Char}
    (h : [plain a, plain b] <:+: readFrom odd skip cs) : [a, b] <:+: cs := by
  induction cs generalizing odd skip with
  | nil =>
    rw [readFrom, List.infix_nil] at h
    cases h
  | cons x xs ih =>
    rw [Text.pair_infix_cons]
    cases skip with
    | succ skip => exact .inr (ih h)
    | zero =>
      rcases readFrom_cons odd x xs with ⟨code, length, -, hread⟩ | ⟨odd', hread⟩
      · rw [hread, Text.pair_infix_cons] at h
        rcases h with ⟨h, -⟩ | h
        · cases h
        · exact .inr (ih h)
      · rw [hread, Text.pair_infix_cons] at h
        rcases h with ⟨hx, hhead⟩ | h
        · cases hx
          exact .inl ⟨rfl, head?_of_plain hhead⟩
        · exact .inr (ih h)

theorem code_eq_toNat {x : JavaInput} {c : Char} (h : x.code = c.toNat) :
    x = plain c ∨ x = escaped c.toNat := by
  cases x with
  | plain d => exact .inl (congrArg plain (Char.toNat_inj.mp h))
  | escaped code => exact .inr (congrArg escaped h)

end JavaInput

/-- the end of a comment is in the text already, or an escape writes a part of it -/
theorem not_endsComment {s : String} (hs : ¬ ['*', '/'] <:+: s.toList)
    (hstar : .escaped '*'.toNat ∉ javaInput s) (hslash : .escaped '/'.toNat ∉ javaInput s) :
    ¬ EndsComment s := by
  rintro ⟨front, back, hsplit⟩
  obtain ⟨xs, zs, hread, hxs, -⟩ := List.map_eq_append_iff.mp hsplit.symm
  obtain ⟨ws, ys, rfl, -, hys⟩ := List.map_eq_append_iff.mp hxs
  obtain ⟨x, xs, rfl, hx, hxs⟩ := List.map_eq_cons_iff.mp hys
  obtain ⟨y, ys, rfl, hy, hys⟩ := List.map_eq_cons_iff.mp hxs
  obtain rfl := List.map_eq_nil_iff.mp hys
  have hplain : ∀ z c, z ∈ [x, y] → z.code = c.toNat → (c = '*' ∨ c = '/') → z = .plain c := by
    intro z c hz hcode hc
    rcases JavaInput.code_eq_toNat hcode with h | h
    · exact h
    · have hmem : z ∈ javaInput s := by
        rw [hread]
        exact List.mem_append_left zs (List.mem_append_right ws hz)
      rw [h] at hmem
      rcases hc with rfl | rfl
      · exact absurd hmem hstar
      · exact absurd hmem hslash
  rw [hplain x '*' (by simp) hx (.inl rfl), hplain y '/' (by simp) hy (.inr rfl)] at hread
  exact hs (JavaInput.pair_infix_of_plain ⟨ws, zs, hread.symm⟩)

theorem breaksLine_iff {s : String} (hs : IsLine s) :
    BreaksLine s ↔ .escaped '\n'.toNat ∈ javaInput s ∨ .escaped '\r'.toNat ∈ javaInput s := by
  have hmem : ∀ c : Char, c ∉ s.toList →
      (c.toNat ∈ (javaInput s).map JavaInput.code ↔ .escaped c.toNat ∈ javaInput s) := by
    intro c hc
    rw [List.mem_map]
    constructor
    · rintro ⟨x, hx, hcode⟩
      rcases JavaInput.code_eq_toNat hcode with rfl | rfl
      · exact absurd (JavaInput.mem_of_plain_mem hx) hc
      · exact hx
    · intro hx
      exact ⟨_, hx, rfl⟩
  rw [BreaksLine, hmem '\n' fun h => (hs _ h).1 rfl, hmem '\r' fun h => (hs _ h).2 rfl]

end WireWrapper
