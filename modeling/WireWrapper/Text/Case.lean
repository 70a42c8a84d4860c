import WireWrapper.Text.Blank
import WireWrapper.Text.CaseTable

/-!
# Upper and lower case

Full Unicode case mapping, where one character may become several (`ß` becomes `SS`).

* `upperChar`, `lowerChar`   the mapping of one character by itself;
* `upper`                    a whole text in upper case, character by character;
* `lower`                    a whole text in lower case, where a capital sigma at the end of a word
                             becomes `ς` and every other one `σ`.

A sigma ends a word when a cased character stands before it and none after it; on both sides the
case-ignorable characters in between are passed over.
-/

namespace WireWrapper
namespace Text

/-- The image of `n` under the run it lies in. -/
def runImage : List (Nat × Nat × Nat × Nat) → Nat → Option Nat
  | [], _ => none
  | (first, last, step, image) :: rest, n =>
    if n < first then none
    else if n ≤ last then
      if (n - first) % step = 0 then some (image + (n - first)) else none
    else runImage rest n

/-- The sequence that stands for `n` in an ascending table. -/
def expansion : List (Nat × List Nat) → Nat → Option (List Nat)
  | [], _ => none
  | (m, image) :: rest, n =>
    if n < m then none else if n = m then some image else expansion rest n

def upperChar (c : Char) : List Char :=
  match runImage upperRuns c.toNat with
  | some n => [Char.ofNat n]
  | none =>
    match expansion upperExpansions c.toNat with
    | some ns => ns.map Char.ofNat
    | none => [c]

/-- The lower case of one character, away from any word.  Only `İ` becomes two characters. -/
def lowerChar (c : Char) : List Char :=
  match runImage lowerRuns c.toNat with
  | some n => [Char.ofNat n]
  | none => if c = 'İ' then ['i', '\u0307'] else [c]

def upper (cs : List Char) : List Char := cs.flatMap upperChar

/-- Whether a cased character comes first once case-ignorable characters are passed over. -/
def startsCased (cs : List Char) : Bool :=
  match cs.dropWhile (fun c => inRanges caseIgnorableRanges c.toNat) with
  | [] => false
  | c :: _ => inRanges casedRanges c.toNat

/-- The lower case of the capital sigma between two texts; the text before it is given from its
last character to its first. -/
def lowerSigma (before after : List Char) : Char :=
  if startsCased before && !startsCased after then 'ς' else 'σ'

/-- A text in lower case after a text that is given from its last character to its first. -/
def lowerAfter : (before : List Char) → List Char → List Char
  | _, [] => []
  | before, c :: cs =>
    if c = 'Σ' then lowerSigma before cs :: lowerAfter (c :: before) cs
    else lowerChar c ++ lowerAfter (c :: before) cs

def lower (cs : List Char) : List Char := lowerAfter [] cs

/-- A text with the letters A to Z in lower case and all else as it is. -/
def lowerAscii (cs : List Char) : List Char := cs.map Char.toLower

/-- Whether two texts differ at most in the case of the letters A to Z. -/
def equalIgnoringCase (a b : String) : Bool := lowerAscii a.toList == lowerAscii b.toList

example : upper "straße".toList = "STRASSE".toList := by decide
example : lower "ΟΔΟΣ Σ".toList = "οδος σ".toList := by decide

end Text
end WireWrapper
