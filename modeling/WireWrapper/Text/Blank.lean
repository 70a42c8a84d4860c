/-!
# Blank characters, words and rendered text

A property of characters is stored as a list of closed ranges of code points in ascending order.
Blank means the Unicode property White_Space, no-break and ideographic spaces included.

* `inRanges`   whether a code point lies in one of the ranges;
* `isBlank`    whether a character is blank;
* `words`      the maximal runs of other characters, in order;
* `trim`       the text without blanks at either end;
* `compact`    the text without any blank;
* `collapse`   the words with one space between two neighbours: text as a browser renders it.
-/

namespace WireWrapper
namespace Text

/-- Whether `n` lies in one of the ascending ranges.  The walk ends at the first range that begins
past `n`. -/
def inRanges : List (Nat × Nat) → Nat → Bool
  | [], _ => false
  | (lo, hi) :: rest, n => if n < lo then false else if n ≤ hi then true else inRanges rest n

def blankRanges : List (Nat × Nat) := [
  (0x9, 0xD), (0x20, 0x20), (0x85, 0x85), (0xA0, 0xA0), (0x1680, 0x1680), (0x2000, 0x200A),
  (0x2028, 0x2029), (0x202F, 0x202F), (0x205F, 0x205F), (0x3000, 0x3000)]

/-- A space, a tab, a line break or another character that only separates. -/
def isBlank (c : Char) : Bool := inRanges blankRanges c.toNat

/-- Whether the text ends here or goes on with a blank. -/
def atWordEnd : List Char → Bool
  | [] => true
  | c :: _ => isBlank c

/-- Puts `c` in front of the first word. -/
def extendWord (c : Char) : List (List Char) → List (List Char)
  | [] => [[c]]
  | w :: ws => (c :: w) :: ws

/-- The maximal runs of characters that are not blank, in order. -/
def words : List Char → List (List Char)
  | [] => []
  | c :: cs =>
    if isBlank c then words cs
    else if atWordEnd cs then [c] :: words cs
    else extendWord c (words cs)

/-- The text from its first character that is not blank. -/
def trimStart (cs : List Char) : List Char := cs.dropWhile isBlank

/-- The text up to its last character that is not blank. -/
def trimEnd (cs : List Char) : List Char := (cs.reverse.dropWhile isBlank).reverse

def trim (cs : List Char) : List Char := trimEnd (trimStart cs)

/-- The text without its blanks. -/
def compact (cs : List Char) : List Char := cs.filter (!isBlank ·)

/-- The words of a text with one space between two neighbours. -/
def collapse (cs : List Char) : List Char := List.intercalate [' '] (words cs)

example : words " a  bc\t".toList = ["a".toList, "bc".toList] := by decide
example : trim " a b\n".toList = "a b".toList := by decide
example : collapse " a \n b ".toList = "a b".toList := by decide

end Text
end WireWrapper
