import WireWrapper.Toml.Quoted
import WireWrapper.Toml.Scalar
import WireWrapper.Toml.Tree

/-!
# Reading TOML

Version 1.1 of the format: inline tables may go over several lines and end with a comma.  A byte
order mark at the start is passed over, and a carriage return counts only as part of a line break.
Keys have at most `maxParts` parts, and values are at most `maxDepth` deep.

* `Toml.readKey`     a dotted key;
* `Toml.readValue`   a value in front of the text, with its nesting depth;
* `Toml.readLine`    one line of a document, done to the tables under construction;
* `Toml.parse?`      a whole document, as the members of its root table.
-/

namespace WireWrapper
namespace Toml

/-- The most arrays and inline tables that may stand inside one another. -/
def maxDepth : Nat := 80

def skipSpaces : List Char → List Char := List.dropWhile fun c => c == ' ' || c == '\t'

/-- The text behind spaces, tabs, line breaks and comments; `none` when a comment holds a control
character. -/
def skipFiller : (inComment : Bool) → List Char → Option (List Char)
  | _, [] => some []
  | _, '\n' :: cs => skipFiller false cs
  | _, '\r' :: '\n' :: cs => skipFiller false cs
  | true, c :: cs => if isControl c then none else skipFiller true cs
  | false, ' ' :: cs => skipFiller false cs
  | false, '\t' :: cs => skipFiller false cs
  | false, '#' :: cs => skipFiller true cs
  | false, c :: cs => some (c :: cs)

/-- The lines that follow, when at most a comment is left on this one. -/
def nextLine : (inComment : Bool) → List Char → Option (List Char)
  | _, [] => some []
  | _, '\n' :: cs => some cs
  | _, '\r' :: '\n' :: cs => some cs
  | true, c :: cs => if isControl c then none else nextLine true cs
  | false, ' ' :: cs => nextLine false cs
  | false, '\t' :: cs => nextLine false cs
  | false, '#' :: cs => nextLine true cs
  | false, _ :: _ => none

def isBareKeyChar (c : Char) : Bool := c.isAlphanum || c == '_' || c == '-'

/-- One part of a key. -/
def readKeyPart : List Char → Option (String × List Char)
  | '"' :: cs => (readBasic (cs.length + 1) cs).map fun (s, rest) => (String.ofList s, rest)
  | '\'' :: cs => (readLiteral cs).map fun (s, rest) => (String.ofList s, rest)
  | cs =>
    match cs.span isBareKeyChar with
    | ([], _) => none
    | (s, rest) => some (String.ofList s, rest)

/-- A key of at most `parts` parts with dots between them: the way to its last part, that part, and
the text behind. -/
def readParts : (parts : Nat) → List Char → Option (List String × String × List Char)
  | 0, _ => none
  | parts + 1, cs => do
    let (part, cs) ← readKeyPart (skipSpaces cs)
    match skipSpaces cs with
    | '.' :: cs =>
      let (path, name, cs) ← readParts parts cs
      some (part :: path, name, cs)
    | cs => some ([], part, cs)

/-- The most parts that a dotted key may have. -/
def maxParts : Nat := 80

def readKey (cs : List Char) : Option (List String × String × List Char) := readParts maxParts cs

/-- A dotted key of an inline table up to its value; lines may end on either side of the equals
sign. -/
def readInlineKey (cs : List Char) : Option (List String × String × List Char) := do
  let (path, name, cs) ← readKey cs
  match ← skipFiller false cs with
  | '=' :: cs => (skipFiller false cs).map fun cs => (path, name, cs)
  | _ => none

/-- A character that does not end a number, a truth value or a moment. -/
def isScalarChar (c : Char) : Bool := !" \t\r\n=,[]\x7b\x7d#".toList.contains c

/-- The characters of a number, a truth value or a moment, where one space may part a date from its
time. -/
def spanScalar (cs : List Char) : List Char × List Char :=
  let (first, rest) := cs.span isScalarChar
  match rest with
  | ' ' :: c :: rest' =>
    if c.isDigit && afterDate? first == some [] then
      let (second, rest'') := (c :: rest').span isScalarChar
      (first ++ ' ' :: second, rest'')
    else (first, rest)
  | _ => (first, rest)

mutual

/-- A value in front of the text, inside `depth` arrays and inline tables. -/
def readValue : (fuel depth : Nat) → List Char → Option (Toml × List Char)
  | 0, _, _ => none
  | fuel + 1, depth, cs =>
    match cs with
    | '[' :: cs =>
      if depth < maxDepth then
        (readItems fuel (depth + 1) cs).map fun (items, cs) => (.array items, cs)
      else none
    | '{' :: cs =>
      if depth < maxDepth then
        (readMembers fuel (depth + 1) [] cs).map fun (ms, cs) => (.table (close ms), cs)
      else none
    | '"' :: _ => (readQuoted cs).map fun (s, cs) => (.text (String.ofList s), cs)
    | '\'' :: _ => (readQuoted cs).map fun (s, cs) => (.text (String.ofList s), cs)
    | cs =>
      let (word, rest) := spanScalar cs
      (scalar? word).map (·, rest)

/-- The items of an array up to its closing bracket. -/
def readItems : (fuel depth : Nat) → List Char → Option (List Toml × List Char)
  | 0, _, _ => none
  | fuel + 1, depth, cs =>
    match skipFiller false cs with
    | some (']' :: cs) => some ([], cs)
    | some cs =>
      match readValue fuel depth cs with
      | none => none
      | some (item, cs) =>
        match skipFiller false cs with
        | some (']' :: cs) => some ([item], cs)
        | some (',' :: cs) =>
          (readItems fuel depth cs).map fun (items, cs) => (item :: items, cs)
        | _ => none
    | none => none

/-- The members of an inline table up to its closing brace, added to those before. -/
def readMembers : (fuel depth : Nat) → Members → List Char → Option (Members × List Char)
  | 0, _, _, _ => none
  | fuel + 1, depth, ms, cs =>
    match skipFiller false cs with
    | some ('}' :: cs) => some (ms, cs)
    | some cs =>
      match readInlineKey cs with
      | none => none
      | some (path, name, cs) =>
        match readValue fuel depth cs with
        | none => none
        | some (value, cs) =>
          match assignHere? path name value ms with
          | none => none
          | some ms =>
            match skipFiller false cs with
            | some ('}' :: cs) => some (ms, cs)
            | some (',' :: cs) => readMembers fuel depth ms cs
            | _ => none
    | none => none

end

def readTopValue (cs : List Char) : Option (Toml × List Char) := readValue (2 * cs.length + 2) 0 cs

/-- The tables read so far, and the table that the last header opened. -/
structure Progress where
  root : Members
  here : List String

/-- One line that is not empty, done to the tables; with the lines that follow. -/
def readLine (p : Progress) (cs : List Char) : Option (Progress × List Char) :=
  match cs with
  | '[' :: '[' :: cs =>
    match readKey cs with
    | some (path, name, ']' :: ']' :: cs) => do
      let root ← openItem? path name p.root
      let rest ← nextLine false cs
      some (⟨root, path ++ [name]⟩, rest)
    | _ => none
  | '[' :: cs =>
    match readKey cs with
    | some (path, name, ']' :: cs) => do
      let root ← openTable? path name p.root
      let rest ← nextLine false cs
      some (⟨root, path ++ [name]⟩, rest)
    | _ => none
  | cs =>
    match readKey cs with
    | some (path, name, '=' :: cs) => do
      let (value, cs) ← readTopValue (skipSpaces cs)
      let root ← assign? p.here path name value p.root
      let rest ← nextLine false cs
      some (⟨root, p.here⟩, rest)
    | _ => none

def readLines : (fuel : Nat) → Progress → List Char → Option Members
  | 0, _, _ => none
  | fuel + 1, p, cs =>
    match skipFiller false cs with
    | none => none
    | some [] => some p.root
    | some cs =>
      match readLine p cs with
      | none => none
      | some (p, rest) => readLines fuel p rest

/-- The members of the root table of a document. -/
def parse? (s : String) : Option (List (String × Toml)) :=
  let cs := match s.toList with
    | '\uFEFF' :: cs => cs
    | cs => cs
  -- each line uses up a character
  (readLines (cs.length + 1) ⟨[], []⟩ cs).map close

end Toml
end WireWrapper
