import WireWrapper.Pattern
import WireWrapper.Text.Alphanumeric
import WireWrapper.Text.Blank
import WireWrapper.Text.Digits
import WireWrapper.Text.Replace

/-!
# Reading patterns

The common notation of regular expressions, without counted repetitions: a pattern that is read here
holds no closing brace.  Under the option `x` blanks and comments from `#` on are passed over.

* `Pattern.readEscape`     what a backslash begins;
* `Pattern.readSet`        a class of characters behind its opening bracket;
* `Pattern.readOpening`    what an opening parenthesis begins;
* `Pattern.readBranches`   alternatives up to the end of their group;
* `Pattern.parse?`         a whole pattern that is not too deep.
-/

namespace WireWrapper
namespace Pattern

/-- The text behind blanks and comments. -/
def skipSpaced : (inComment : Bool) → List Char → List Char
  | _, [] => []
  | true, c :: cs => skipSpaced (c != '\n') cs
  | false, c :: cs =>
    if Text.isBlank c then skipSpaced false cs
    else if c = '#' then skipSpaced true cs
    else c :: cs

/-- The text behind what does not count. -/
def skip (spaced : Bool) (cs : List Char) : List Char := if spaced then skipSpaced false cs else cs

/-- The next character that counts, where the mark of a comment is passed over like a blank. -/
def peek? (spaced : Bool) (cs : List Char) : Option Char :=
  if spaced then
    match cs.dropWhile Text.isBlank with
    | '#' :: cs => (cs.dropWhile Text.isBlank).head?
    | cs => cs.head?
  else cs.head?

/-! ## Escapes -/

def readHex (spaced : Bool) : (count : Nat) → List Char → Option (List Char × List Char)
  | 0, cs => some ([], cs)
  | count + 1, cs =>
    match skip spaced cs with
    | c :: cs =>
      if (Text.hexValue? c).isSome then
        (readHex spaced count cs).map fun (digits, cs) => (c :: digits, cs)
      else none
    | [] => none

def readCodePoint (spaced : Bool) (count : Nat) (cs : List Char) : Option (Pattern × List Char) := do
  let (digits, cs) ← readHex spaced count cs
  let c ← Text.charOfHex? digits
  some (.letter ⟨c, count == 2⟩, cs)

/-- A character that a backslash makes stand for itself. -/
def isMark (c : Char) : Bool := c < '\x80' && !c.isAlphanum && c != '<' && c != '>'

/-- A letter that stands in the text as it is. -/
def plain (c : Char) : Pattern := .letter ⟨c, false⟩

/-- What a backslash begins, by the text behind it. -/
def readEscape (spaced : Bool) : List Char → Option (Pattern × List Char)
  | [] => none
  | c :: cs =>
    match c with
    | 'x' => readCodePoint spaced 2 cs
    | 'u' => readCodePoint spaced 4 cs
    | 'U' => readCodePoint spaced 8 cs
    | 'd' => some (.shorthand false, cs)
    | 's' => some (.shorthand false, cs)
    | 'w' => some (.shorthand false, cs)
    | 'D' => some (.shorthand true, cs)
    | 'S' => some (.shorthand true, cs)
    | 'W' => some (.shorthand true, cs)
    | 'a' => some (plain '\x07', cs)
    | 'f' => some (plain '\x0c', cs)
    | 'n' => some (plain '\n', cs)
    | 'r' => some (plain '\r', cs)
    | 't' => some (plain '\t', cs)
    | 'v' => some (plain '\x0b', cs)
    | 'A' => some (.edge, cs)
    | 'z' => some (.edge, cs)
    | 'b' => some (.wordEdge, cs)
    | 'B' => some (.wordEdge, cs)
    | '<' => some (.wordEdge, cs)
    | '>' => some (.wordEdge, cs)
    | c => if isMark c then some (plain c, cs) else none

/-! ## Classes of characters -/

/-- The names of the classes of ASCII. -/
def classNames : List String := [
  "alnum", "alpha", "ascii", "blank", "cntrl", "digit", "graph", "lower", "print", "punct", "space",
  "upper", "word", "xdigit"]

/-- A class with a name, as in `[:alpha:]`, behind its opening bracket; and whether it is negated. -/
def readNamed : List Char → Option (Bool × List Char)
  | ':' :: cs =>
    let (negated, cs) := match cs with
      | '^' :: cs => (true, cs)
      | cs => (false, cs)
    let (name, rest) := cs.span (· != ':')
    match rest with
    | ':' :: ']' :: rest =>
      if classNames.contains (String.ofList name) then some (negated, rest) else none
    | _ => none
  | _ => none

/-- One character or shorthand of a class, before it is known to be one. -/
def readMember (spaced : Bool) : List Char → Option (Pattern × List Char)
  | '\\' :: cs => readEscape spaced cs
  | c :: cs => some (plain c, cs)
  | [] => none

/-- The set of a letter or a shorthand; nothing else may stand in a class. -/
def member? : Pattern → Option CharSet
  | .letter l => some (.letter l)
  | .shorthand negated => some (.shorthand negated)
  | _ => none

/-- The set of the letters from one to another. -/
def range? : Pattern → Pattern → Option CharSet
  | .letter low, .letter high => if low.char ≤ high.char then some (.range low high) else none
  | _, _ => none

/-- A member of a class or a range of them. -/
def readRange (spaced : Bool) (cs : List Char) : Option (CharSet × List Char) := do
  let (low, cs) ← readMember spaced cs
  match skip spaced cs with
  | '-' :: rest =>
    let next := peek? spaced rest
    -- a hyphen in front of a bracket or of another hyphen makes no range
    if next = some ']' || next = some '-' then (member? low).map (·, '-' :: rest)
    else
      let (high, rest) ← readMember spaced (skip spaced rest)
      (range? low high).map (·, rest)
  | cs => (member? low).map (·, cs)

/-- The set of a class, with what stands in front of an operator. -/
def joined (left : Option CharSet) (items : List CharSet) : CharSet :=
  match left with
  | some left => .combined left (unionOf items.reverse)
  | none => unionOf items.reverse

/-- The text of a class behind a caret, and whether there is one. -/
def readCaret (spaced : Bool) (cs : List Char) : Bool × List Char :=
  match skip spaced cs with
  | '^' :: cs => (true, cs)
  | cs => (false, cs)

/-- The set of a class up to its closing bracket, after the set in front of the last operator and the
members since, the last one first.  At the start hyphens stand for themselves, and so does a closing
bracket in the very first place. -/
def readMembers : (fuel : Nat) → (spaced start : Bool) → (left : Option CharSet) →
    (items : List CharSet) → List Char → Option (CharSet × List Char)
  | 0, _, _, _, _, _ => none
  | fuel + 1, spaced, start, left, items, cs =>
    let operator (cs : List Char) :=
      readMembers fuel spaced false (some (joined left items)) [] cs
    let literal (c : Char) (start : Bool) (cs : List Char) :=
      readMembers fuel spaced start left (.letter ⟨c, false⟩ :: items) cs
    match start, skip spaced cs with
    | true, '-' :: cs => literal '-' true cs
    | true, ']' :: cs =>
      if items.isEmpty then literal ']' false cs else some (joined left items, cs)
    | _, ']' :: cs => some (joined left items, cs)
    | _, '[' :: cs =>
      match readNamed cs with
      | some (negated, cs) =>
        readMembers fuel spaced false left (.named negated :: items) cs
      | none =>
        let (negated, cs) := readCaret spaced cs
        match readMembers fuel spaced true none [] cs with
        | some (inner, cs) =>
          readMembers fuel spaced false left (.bracket negated inner :: items) cs
        | none => none
    | _, '&' :: '&' :: cs => operator cs
    | _, '-' :: '-' :: cs => operator cs
    | _, '~' :: '~' :: cs => operator cs
    | _, cs =>
      match readRange spaced cs with
      | some (item, cs) => readMembers fuel spaced false left (item :: items) cs
      | none => none

/-- A class behind its opening bracket. -/
def readSet (spaced : Bool) (cs : List Char) : Option (CharSet × List Char) :=
  let (negated, cs) := readCaret spaced cs
  (readMembers (cs.length + 1) spaced true none [] cs).map fun (inner, cs) =>
    (.bracket negated inner, cs)

/-! ## Groups -/

/-- What reading depends on. -/
structure Context where
  /-- Whether blanks and comments are passed over. -/
  spaced : Bool
  /-- The names of the groups so far. -/
  names : List (List Char)

/-- What an opening parenthesis begins: options that hold from here, or a group. -/
inductive Opening where
  | options (o : Options)
  | group (o : Options) (name : Option (List Char))

/-- Options that are turned on, a hyphen, and options that are turned off; each of them once. -/
def options? (cs : List Char) : Option Options :=
  let given (on off : List Char) : Option Options :=
    if (on ++ off).all "imsUuRx".toList.contains && decide (on ++ off).Nodup then
      some (on.map (·, true) ++ off.map (·, false))
    else none
  match Text.pieces (· == '-') cs with
  | [on] => given on []
  | [on, off] => if off.isEmpty then none else given on off
  | _ => none

/-- Whether a group may have a name. -/
def isName : List Char → Bool
  | c :: cs =>
    (c == '_' || Text.isAlphabetic c) &&
      cs.all fun c => "_.[]".toList.contains c || Text.isAlphanumeric c
  | [] => false

/-- The name of a group behind its angle bracket; no two groups have the same. -/
def readName (names : List (List Char)) (cs : List Char) : Option (Opening × List Char) :=
  let (name, rest) := cs.span (· != '>')
  match rest with
  | '>' :: rest =>
    if isName name && !names.contains name then some (.group [] (some name), rest) else none
  | _ => none

/-- What an opening parenthesis begins, by the text behind it. -/
def readOpening (ctx : Context) (cs : List Char) : Option (Opening × List Char) :=
  match skip ctx.spaced cs with
  | '?' :: 'P' :: '<' :: cs => readName ctx.names cs
  | '?' :: '<' :: cs => readName ctx.names cs
  | '?' :: cs => do
    let (given, rest) := cs.span fun c => c != ':' && c != ')'
    let o ← options? given
    match rest with
    | ':' :: rest => some (.group o none, rest)
    | ')' :: rest => if o.isEmpty then none else some (.options o, rest)
    | _ => none
  | cs => some (.group [] none, cs)

/-- Whether blanks and comments are passed over after some options. -/
def spacedAfter (spaced : Bool) (o : Options) : Bool := (o.lookup 'x').getD spaced

/-- What is no group, class or repetition. -/
def readItem (spaced : Bool) : List Char → Option (Pattern × List Char)
  | '\\' :: cs => readEscape spaced cs
  | '.' :: cs => some (.dot, cs)
  | '^' :: cs => some (.edge, cs)
  | '$' :: cs => some (.edge, cs)
  | '\x7b' :: _ => none
  | c :: cs => some (plain c, cs)
  | [] => none

/-- The last pattern of a list repeated; the list begins with it. -/
def repeatLast? : List Pattern → Option (List Pattern)
  | [] => none
  -- options cannot be repeated
  | .options _ :: _ => none
  | p :: items => some (.repeated p :: items)

/-- The text without the mark of a short repetition in front. -/
def dropShort : List Char → List Char
  | '?' :: cs => cs
  | cs => cs

/-- Alternatives up to the end of their group, after those before and the items of the last one, both
of them with the last one first. -/
def readBranches : (fuel : Nat) → Context → (branches items : List Pattern) → List Char →
    Option (Pattern × Context × List Char)
  | 0, _, _, _, _ => none
  | fuel + 1, ctx, branches, items, cs =>
    let branch := concatOf items.reverse
    let finished := eitherOf (branch :: branches).reverse
    let repetition (cs : List Char) :=
      match repeatLast? items with
      | some items => readBranches fuel ctx branches items (dropShort cs)
      | none => none
    match skip ctx.spaced cs with
    | [] => some (finished, ctx, [])
    | ')' :: cs => some (finished, ctx, ')' :: cs)
    | '|' :: cs => readBranches fuel ctx (branch :: branches) [] cs
    | '*' :: cs => repetition cs
    | '+' :: cs => repetition cs
    | '?' :: cs => repetition cs
    | '(' :: cs =>
      match readOpening ctx cs with
      | none => none
      | some (.options o, cs) =>
        readBranches fuel ⟨spacedAfter ctx.spaced o, ctx.names⟩ branches (.options o :: items) cs
      | some (.group o name, cs) =>
        match readBranches fuel ⟨spacedAfter ctx.spaced o, name.toList ++ ctx.names⟩ [] [] cs with
        | some (p, inner, ')' :: cs) =>
          readBranches fuel ⟨ctx.spaced, inner.names⟩ branches (.group o p :: items) cs
        | _ => none
    | '[' :: cs =>
      match readSet ctx.spaced cs with
      | some (chars, cs) => readBranches fuel ctx branches (.oneOf chars :: items) cs
      | none => none
    | cs =>
      match readItem ctx.spaced cs with
      | some (p, cs) => readBranches fuel ctx branches (p :: items) cs
      | none => none

def maxDepth : Nat := 250

/-- The pattern that a text writes. -/
def parse? (cs : List Char) : Option Pattern :=
  -- every step takes a character
  match readBranches (cs.length + 1) ⟨false, []⟩ [] [] cs with
  | some (p, _, []) => if p.depth ≤ maxDepth then some p else none
  | _ => none

example : (parse? "a(b|[^]c-e])*?".toList).isSome = true := by decide
example : (parse? "*a".toList).isSome = false ∧ (parse? "(a".toList).isSome = false := by
  decide
example : (parse? "[b-a]".toList).isSome = false := by decide

end Pattern
end WireWrapper
