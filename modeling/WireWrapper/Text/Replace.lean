/-!
# Literal occurrences

* `occursIn`      whether a pattern stands somewhere in a text;
* `replace`       every occurrence of a pattern, taken from the left and without overlap, gives way
                  to another text;
* `pieces`        the parts of a text between its separators, empty parts included.

The empty pattern occurs before every character and at the end.
-/

namespace WireWrapper
namespace Text

/-- Whether `pattern` stands somewhere in the text. -/
def occursIn (pattern : List Char) : List Char → Bool
  | [] => pattern.isEmpty
  | c :: cs => pattern.isPrefixOf (c :: cs) || occursIn pattern cs

/-- Replaces the occurrences of a non-empty pattern; the first `skip` characters belong to an
occurrence that was replaced already. -/
def replaceFrom (pattern replacement : List Char) : (skip : Nat) → List Char → List Char
  | _, [] => []
  | skip + 1, _ :: cs => replaceFrom pattern replacement skip cs
  | 0, c :: cs =>
    if pattern.isPrefixOf (c :: cs) then
      replacement ++ replaceFrom pattern replacement (pattern.length - 1) cs
    else c :: replaceFrom pattern replacement 0 cs

/-- The text with every occurrence of `pattern` replaced. -/
def replace (pattern replacement cs : List Char) : List Char :=
  match pattern with
  | [] => replacement ++ cs.flatMap (· :: replacement)
  | _ :: _ => replaceFrom pattern replacement 0 cs

/-- One replacement after the other, each on the result of the one before. -/
def replaceAll (rules : List (String × String)) (cs : List Char) : List Char :=
  rules.foldl (fun text rule => replace rule.1.toList rule.2.toList text) cs

/-- The parts of a text between the characters that `isSeparator` accepts. -/
def pieces (isSeparator : Char → Bool) : List Char → List (List Char)
  | [] => [[]]
  | c :: cs =>
    if isSeparator c then [] :: pieces isSeparator cs
    else match pieces isSeparator cs with
      | [] => [[c]]
      | p :: ps => (c :: p) :: ps

theorem pieces_ne_nil (isSeparator : Char → Bool) (cs : List Char) :
    pieces isSeparator cs ≠ [] := by
  cases cs with
  | nil => simp [pieces]
  | cons c cs =>
    rw [pieces]
    split
    · simp
    · split <;> simp

example : replace "aa".toList "b".toList "aaaca".toList = "baca".toList := by decide
example : replace [] "-".toList "ab".toList = "-a-b-".toList := by decide
example : pieces (· == '_') "A__B".toList = ["A".toList, [], "B".toList] := by decide

end Text
end WireWrapper
