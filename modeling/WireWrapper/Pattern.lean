/-!
# Search patterns

A pattern is a regular expression: letters, classes of characters in brackets, edges of lines and
words, repetitions, groups and alternatives, and options that hold from where they stand.

* `Letter`          one character;
* `CharSet`         what stands in the brackets of a class;
* `Options`         switches that are turned on or off;
* `Pattern`         a pattern;
* `Pattern.depth`   how many of its parts stand inside one another.
-/

namespace WireWrapper

structure Letter where
  char : Char
  /-- Whether it is written as a byte, by two hexadecimal digits. -/
  isByte : Bool
deriving DecidableEq, Repr

inductive CharSet where
  | empty
  | letter (l : Letter)
  | range (low high : Letter)
  /-- A class of ASCII by its name. -/
  | named (negated : Bool)
  /-- The digits, the blanks or the characters of words. -/
  | shorthand (negated : Bool)
  | union (sets : List CharSet)
  /-- Two sets with an operator between them. -/
  | combined (left right : CharSet)
  | bracket (negated : Bool) (inner : CharSet)
deriving Repr, Inhabited

/-- Options by their letters, each turned on or off. -/
abbrev Options := List (Char × Bool)

inductive Pattern where
  | empty
  | letter (l : Letter)
  /-- Any character. -/
  | dot
  /-- An edge of a line or of the whole text. -/
  | edge
  /-- An edge of a word, or none. -/
  | wordEdge
  /-- One of the digits, the blanks or the characters of words. -/
  | shorthand (negated : Bool)
  /-- One of a class of characters. -/
  | oneOf (chars : CharSet)
  /-- Options for what follows in the same group. -/
  | options (o : Options)
  | repeated (p : Pattern)
  /-- A group, with options for what is in it. -/
  | group (o : Options) (p : Pattern)
  | concat (ps : List Pattern)
  | either (ps : List Pattern)
deriving Repr, Inhabited

mutual

/-- How many brackets, unions and operators stand inside one another. -/
def CharSet.depth : CharSet → Nat
  | union sets => CharSet.depthAll sets + 1
  | combined left right => max left.depth right.depth + 1
  | bracket _ inner => inner.depth + 1
  | _ => 0

def CharSet.depthAll : List CharSet → Nat
  | [] => 0
  | s :: sets => max s.depth (CharSet.depthAll sets)

end

namespace Pattern

mutual

/-- How many parts stand inside one another. -/
def depth : Pattern → Nat
  | oneOf chars => chars.depth
  | repeated p => depth p + 1
  | group _ p => depth p + 1
  | concat ps => depthAll ps + 1
  | either ps => depthAll ps + 1
  | _ => 0

def depthAll : List Pattern → Nat
  | [] => 0
  | p :: ps => max (depth p) (depthAll ps)

end

/-- The set that a list of sets makes up. -/
def unionOf : List CharSet → CharSet
  | [] => .empty
  | [s] => s
  | sets => .union sets

def concatOf : List Pattern → Pattern
  | [] => .empty
  | [p] => p
  | ps => .concat ps

def eitherOf : List Pattern → Pattern
  | [p] => p
  | ps => .either ps

end Pattern
end WireWrapper
