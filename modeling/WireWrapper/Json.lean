import WireWrapper.Decimal

/-!
# JSON values

* `Json`        a value; an object keeps its members in the order written, repeated names included;
* `Json.render` its text without blanks.

A part of a text that is well formed and yet cannot be taken for a value stands as
`Json.unreadable`: a string that is no sequence of characters (an escape gives half of a surrogate
pair), an object with such a name, and an array or object inside of `Json.maxDepth` others.  Who
skips such a part does not notice it; who needs its value fails.
-/

namespace WireWrapper

/-- A JSON value.  A number is an `integer` when it is written without fraction and exponent and is
not `-0`. -/
inductive Json where
  | null
  | bool (value : Bool)
  | integer (value : Int)
  | real (value : Decimal)
  | text (value : String)
  | array (items : List Json)
  | object (members : List (String × Json))
  | unreadable
deriving Repr, Inhabited

namespace Json

/-- The most arrays and objects that may stand inside one another. -/
def maxDepth : Nat := 127

/-- One character of a string literal. -/
def renderChar (c : Char) : List Char :=
  if c = '"' then ['\\', '"']
  else if c = '\\' then ['\\', '\\']
  else if c < ' ' then
    ['\\', 'u', '0', '0', Nat.digitChar (c.toNat / 16), Nat.digitChar (c.toNat % 16)]
  else [c]

def renderText (s : String) : String :=
  "\"" ++ String.ofList (s.toList.flatMap renderChar) ++ "\""

mutual

def render : Json → String
  | null => "null"
  | bool b => if b then "true" else "false"
  | integer n => toString n
  | real d => toString d.mantissa ++ "e" ++ toString d.exponent
  | text s => renderText s
  | array items => "[" ++ renderItems items ++ "]"
  | object members => "\x7b" ++ renderMembers members ++ "\x7d"
  | unreadable => "null"

def renderItems : List Json → String
  | [] => ""
  | [j] => render j
  | j :: js => render j ++ "," ++ renderItems js

def renderMembers : List (String × Json) → String
  | [] => ""
  | [(name, j)] => renderText name ++ ":" ++ render j
  | (name, j) :: ms => renderText name ++ ":" ++ render j ++ "," ++ renderMembers ms

end

end Json
end WireWrapper
