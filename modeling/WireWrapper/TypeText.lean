import WireWrapper.Text.Blank
import WireWrapper.Text.Case
import WireWrapper.Text.Replace

/-!
# Documented type text

Documentation writes types loosely: `VarInt`, `Unsigned Byte`, `Array of Position`.

* `Normalizer`               ordered replacements, and words that never name an element type;
* `Normalizer.normalize`     the type that such a text means, without blanks;
* `Normalizer.elementWord`   the word taken for the element type of an array.

The text is put in lower case, each replacement is made in turn, and the blanks go.  If the result
mentions an array, the longest word that is no stopword is taken for the element type.
-/

namespace WireWrapper

/-- How type text is read. -/
structure Normalizer where
  substitutions : List (String × String)
  stopwords : List String
deriving DecidableEq, Repr

namespace Normalizer

/-- The stock replacements, in the order in which they are made. -/
def stockSubstitutions : List (String × String) := [
  ("string", "String"),
  ("slot", "ItemStack"),
  ("inputitem1", "ItemStack"),
  ("inputitem2", "ItemStack"),
  ("metadata", "WrappedDataWatcher"),
  ("identifier", "MinecraftKey"),
  ("unsigned", ""),
  ("optional", ""),
  -- in front of `varint`, which is part of it
  ("varint enum", "enum"),
  ("varlong", "long"),
  ("varint", "int"),
  -- `boolean` shrinks before `bool` grows, so that it is never doubled
  ("boolean", "bool"),
  ("bool", "boolean"),
  ("uuid", "UUID")]

def stockStopwords : List String := ["array", "of"]

def stock : Normalizer := ⟨stockSubstitutions, stockStopwords⟩

def wordSize (w : List Char) : Nat := (String.ofList w).utf8ByteSize

/-- The longer of two words, the first one if they are equally long. -/
def longer (best w : List Char) : List Char := if wordSize best < wordSize w then w else best

/-- The longest word that is no stopword, the first of several; empty if there is none. -/
def elementWord (n : Normalizer) (cs : List Char) : List Char :=
  ((Text.words cs).filter fun w => !n.stopwords.contains (String.ofList w)).foldl longer []

/-- The text in lower case, with each replacement made. -/
def substitute (n : Normalizer) (raw : List Char) : List Char :=
  Text.replaceAll n.substitutions (Text.lower raw)

/-- The type that a substituted text means. -/
def ofSubstituted (n : Normalizer) (cs : List Char) : List Char :=
  let compacted := Text.compact cs
  if Text.occursIn "array".toList compacted then
    Text.replace "of".toList [] (Text.replace "array".toList [] (n.elementWord cs)) ++ ['[', ']']
  else compacted

/-- The type that a documented text means. -/
def normalize (n : Normalizer) (raw : String) : String :=
  String.ofList (n.ofSubstituted (n.substitute raw.toList))

example : stock.normalize "Unsigned Byte" = "byte" := by decide
example : stock.normalize "Array of VarInt" = "int[]" := by decide

end Normalizer
end WireWrapper
