import WireWrapper.Text.Alphanumeric
import WireWrapper.Text.Case
import WireWrapper.Text.Replace

/-!
# Names in generated sources

* `Name.pascalCase`        `SPAWN_ENTITY` becomes `SpawnEntity`;
* `Name.capitalize`        the first character in upper case;
* `Name.lowerFirst`        the first character in lower case;
* `Name.capitalizeWords`   `Entity ID` becomes `EntityID`;
* `Name.accessor`          the same, with synonyms put in their standard form.

Only the first character of a word changes its case, and full case mapping may make several
characters of it.
-/

namespace WireWrapper
namespace Name

/-- A word with its first character in upper case. -/
def capitalizeChars : List Char → List Char
  | [] => []
  | c :: cs => Text.upperChar c ++ cs

/-- A word with its first character in upper case and the others in lower case. -/
def pascalWord : List Char → List Char
  | [] => []
  | c :: cs => Text.upperChar c ++ cs.flatMap Text.lowerChar

/-- A text with its first character in lower case. -/
def lowerFirstChars : List Char → List Char
  | [] => []
  | c :: cs => Text.lowerChar c ++ cs

/-- Whether a character may stand in an accessor name. -/
def isNameChar (c : Char) : Bool := Text.isAlphanumeric c || c == '_' || c == '$'

/-- The words of a free text, capitalized and joined; every other character ends a word and is
dropped. -/
def capitalizeWordsChars (cs : List Char) : List Char :=
  (Text.pieces (!isNameChar ·) cs).flatMap capitalizeChars

/-- An upper-snake identifier in Pascal case; hyphens separate words too. -/
def pascalCase (s : String) : String :=
  String.ofList ((Text.pieces (fun c => c == '-' || c == '_') s.toList).flatMap pascalWord)

def capitalize (s : String) : String := String.ofList (capitalizeChars s.toList)

def lowerFirst (s : String) : String := String.ofList (lowerFirstChars s.toList)

def capitalizeWords (s : String) : String := String.ofList (capitalizeWordsChars s.toList)

/-- The accessor name for a documented name: its words, capitalized and joined, with each synonym
replaced in turn. -/
def accessor (displayName : String) (synonyms : List (String × String)) : String :=
  String.ofList (Text.replaceAll synonyms (capitalizeWordsChars displayName.toList))

example : pascalCase "SPAWN_ENTITY" = "SpawnEntity" := by decide
example : capitalizeWords "Yaw (angle)" = "YawAngle" := by decide
example : accessor "eid" [("Eid", "EntityID")] = "EntityID" := by decide

end Name
end WireWrapper
