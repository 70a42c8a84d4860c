import WireWrapper.Pattern

/-!
# Patterns that can be searched for

A search runs on bytes and keeps no tables of Unicode.  What a pattern may hold depends on two
options, the case of letters (`i`) and characters against bytes (`u`, on at first).

* As characters: nothing that needs a table, that is no letter when case does not matter, no
  shorthand and no edge of a word.
* As bytes: nothing that can match a part of a character, that is no byte above ASCII, no negated
  class and no dot; and only ASCII in a class.

The statements:

* `Mode`                   the state of the two options;
* `CharSet.isAdmitted`     whether a set can be searched for in a mode;
* `Pattern.modeAfter?`     the mode behind a pattern, if the pattern can be searched for;
* `Pattern.isSearchable`   whether it can in the mode at the start.
-/

namespace WireWrapper

/-- Whether the case of letters does not matter, and whether characters count and not bytes. -/
structure Mode where
  ignoreCase : Bool
  unicode : Bool
deriving DecidableEq, Repr

namespace Mode

def stock : Mode := ⟨false, true⟩

def after (m : Mode) (o : Options) : Mode :=
  ⟨(o.lookup 'i').getD m.ignoreCase, (o.lookup 'u').getD m.unicode⟩

/-- Whether a letter can be searched for. -/
def admits (m : Mode) (l : Letter) : Bool :=
  if m.unicode then !m.ignoreCase else !l.isByte || l.char < '\x80'

/-- Whether a letter can be searched for as part of a class. -/
def admitsInSet (m : Mode) (l : Letter) : Bool :=
  if m.unicode then !m.ignoreCase else l.char < '\x80'

end Mode

mutual

/-- Whether a set can be searched for. -/
def CharSet.isAdmitted (m : Mode) : CharSet → Bool
  | empty => true
  | letter l => m.admitsInSet l
  | range low high => m.admitsInSet low && m.admitsInSet high
  | named negated => if m.unicode then !m.ignoreCase else !negated
  | shorthand negated => !m.unicode && !negated
  | union sets => CharSet.allAdmitted m sets
  | combined left right => left.isAdmitted m && right.isAdmitted m
  | bracket negated inner => (m.unicode || !negated) && inner.isAdmitted m

def CharSet.allAdmitted (m : Mode) : List CharSet → Bool
  | [] => true
  | s :: sets => s.isAdmitted m && CharSet.allAdmitted m sets

end

namespace Pattern

/-- The mode if a condition holds. -/
def keep? (condition : Bool) (m : Mode) : Option Mode := if condition then some m else none

mutual

/-- The mode behind a pattern that can be searched for.  Options hold up to the end of their group,
over its alternatives too. -/
def modeAfter? (m : Mode) : Pattern → Option Mode
  | empty => some m
  | letter l => keep? (m.admits l) m
  | dot => keep? m.unicode m
  | edge => some m
  | wordEdge => keep? (!m.unicode) m
  | shorthand negated => keep? (!m.unicode && !negated) m
  | oneOf chars => keep? (chars.isAdmitted m) m
  | options o => some (m.after o)
  | repeated p => modeAfter? m p
  | group o p => (modeAfter? (m.after o) p).map fun _ => m
  | concat ps => modeAfterAll? m ps
  | either ps => modeAfterAll? m ps

def modeAfterAll? (m : Mode) : List Pattern → Option Mode
  | [] => some m
  | p :: ps =>
    match modeAfter? m p with
    | some m => modeAfterAll? m ps
    | none => none

end

/-- Whether a pattern can be searched for. -/
def isSearchable (p : Pattern) : Bool := (p.modeAfter? .stock).isSome

end Pattern
end WireWrapper
