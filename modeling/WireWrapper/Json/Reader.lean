import WireWrapper.Json
import WireWrapper.Text.Digits

/-!
# Reading JSON

One value with blanks around it and nothing else.  A raw control character in a string, an unknown
escape, a leading zero, a comma before a closing bracket and a byte order mark are errors.

* `Json.readString`   the rest of a string literal as code units;
* `Json.joinUnits?`   code units as characters, if surrogates come in pairs;
* `Json.readNumber`   a number;
* `Json.readValue`    a value in front of the remaining text, with its nesting depth;
* `Json.parse?`       a whole text.

Each reader gives what it read and the text that follows, or nothing when the text is malformed.
-/

namespace WireWrapper
namespace Json

/-- The text from its first character that is not a JSON blank. -/
def skipBlanks : List Char → List Char :=
  List.dropWhile fun c => c == ' ' || c == '\t' || c == '\n' || c == '\r'

/-- The character that a one-letter escape stands for. -/
def escaped? : Char → Option Char
  | '"' => some '"'
  | '\\' => some '\\'
  | '/' => some '/'
  | 'b' => some '\x08'
  | 'f' => some '\x0c'
  | 'n' => some '\n'
  | 'r' => some '\r'
  | 't' => some '\t'
  | _ => none

/-- The rest of a string literal behind its opening quote, as code units: a character gives its code
point, a `\u` escape the four digits it holds. -/
def readString : List Char → Option (List Nat × List Char)
  | [] => none
  | '"' :: cs => some ([], cs)
  | '\\' :: 'u' :: d₁ :: d₂ :: d₃ :: d₄ :: cs =>
    match Text.ofHex? [d₁, d₂, d₃, d₄], readString cs with
    | some unit, some (units, rest) => some (unit :: units, rest)
    | _, _ => none
  | '\\' :: e :: cs =>
    match escaped? e, readString cs with
    | some c, some (units, rest) => some (c.toNat :: units, rest)
    | _, _ => none
  | c :: cs =>
    if c < ' ' then none
    else (readString cs).map fun (units, rest) => (c.toNat :: units, rest)

/-- Whether a code unit is the first half of a surrogate pair. -/
def isHighSurrogate (n : Nat) : Bool := 0xD800 ≤ n && n ≤ 0xDBFF

/-- Whether a code unit is the second half of a surrogate pair. -/
def isLowSurrogate (n : Nat) : Bool := 0xDC00 ≤ n && n ≤ 0xDFFF

/-- Code units as characters.  Half a surrogate pair is no character. -/
def joinUnits? : List Nat → Option (List Char)
  | [] => some []
  | [n] => if isHighSurrogate n || isLowSurrogate n then none else some [Char.ofNat n]
  | n :: m :: ns =>
    if isHighSurrogate n then
      if isLowSurrogate m then
        (joinUnits? ns).map (Char.ofNat (0x10000 + (n - 0xD800) * 0x400 + (m - 0xDC00)) :: ·)
      else none
    else if isLowSurrogate n then none
    else (joinUnits? (m :: ns)).map (Char.ofNat n :: ·)

def unitsText? (units : List Nat) : Option String := (joinUnits? units).map String.ofList

/-- The digits in front of a text and what follows them. -/
def spanDigits (cs : List Char) : List Char × List Char := cs.span Char.isDigit

/-- The digits behind the decimal point, none when there is no point. -/
def readFraction : List Char → Option (List Char × List Char)
  | '.' :: cs =>
    match spanDigits cs with
    | ([], _) => none
    | (digits, rest) => some (digits, rest)
  | cs => some ([], cs)

def readExponent : List Char → Option (Option Int × List Char)
  | c :: cs =>
    if c = 'e' || c = 'E' then
      let (negative, cs) : Bool × List Char := match cs with
        | '-' :: cs => (true, cs)
        | '+' :: cs => (false, cs)
        | cs => (false, cs)
      match spanDigits cs with
      | ([], _) => none
      | (digits, rest) =>
        let n : Int := Decimal.ofDigits digits
        some (some (if negative then -n else n), rest)
    else some (none, c :: cs)
  | [] => some (none, [])

def readUnsigned (negative : Bool) (cs : List Char) : Option (Json × List Char) := do
  let (whole, cs) ← match cs with
    | '0' :: cs => some (['0'], cs)
    | cs => match spanDigits cs with
      | ([], _) => none
      | (digits, rest) => some (digits, rest)
  let (fraction, cs) ← readFraction cs
  let (exponent, cs) ← readExponent cs
  let d := Decimal.ofParts negative whole fraction (exponent.getD 0)
  if fraction.isEmpty && exponent.isNone && !(negative && d.mantissa == 0) then
    some (.integer d.mantissa, cs)
  else some (.real d, cs)

def readNumber : List Char → Option (Json × List Char)
  | '-' :: cs => readUnsigned true cs
  | cs => readUnsigned false cs

/-- An array or object that has `depth` others around it. -/
def nested (depth : Nat) (j : Json) : Json := if depth < maxDepth then j else .unreadable

/-- An object, if all its names can be read. -/
def ofMembers? (members : List (Option String × Json)) : Json :=
  match members.mapM fun (name, j) => name.map (·, j) with
  | some members => .object members
  | none => .unreadable

mutual

/-- A value in front of the text, inside `depth` arrays and objects. -/
def readValue : (fuel depth : Nat) → List Char → Option (Json × List Char)
  | 0, _, _ => none
  | fuel + 1, depth, cs =>
    match skipBlanks cs with
    | 'n' :: 'u' :: 'l' :: 'l' :: cs => some (.null, cs)
    | 't' :: 'r' :: 'u' :: 'e' :: cs => some (.bool true, cs)
    | 'f' :: 'a' :: 'l' :: 's' :: 'e' :: cs => some (.bool false, cs)
    | '"' :: cs => (readString cs).map fun (units, cs) =>
        (match unitsText? units with
          | some s => .text s
          | none => .unreadable, cs)
    | '[' :: cs =>
      match skipBlanks cs with
      | ']' :: cs => some (nested depth (.array []), cs)
      | cs => (readItems fuel (depth + 1) cs).map fun (items, cs) =>
          (nested depth (.array items), cs)
    | '{' :: cs =>
      match skipBlanks cs with
      | '}' :: cs => some (nested depth (.object []), cs)
      | cs => (readMembers fuel (depth + 1) cs).map fun (members, cs) =>
          (nested depth (ofMembers? members), cs)
    | cs => readNumber cs

def readItems : (fuel depth : Nat) → List Char → Option (List Json × List Char)
  | 0, _, _ => none
  | fuel + 1, depth, cs =>
    match readValue fuel depth cs with
    | none => none
    | some (item, cs) =>
      match skipBlanks cs with
      | ']' :: cs => some ([item], cs)
      | ',' :: cs => (readItems fuel depth cs).map fun (items, cs) => (item :: items, cs)
      | _ => none

def readMembers : (fuel depth : Nat) → List Char → Option (List (Option String × Json) × List Char)
  | 0, _, _ => none
  | fuel + 1, depth, cs =>
    match skipBlanks cs with
    | '"' :: cs =>
      match readString cs with
      | none => none
      | some (units, cs) =>
        match skipBlanks cs with
        | ':' :: cs =>
          match readValue fuel depth cs with
          | none => none
          | some (j, cs) =>
            match skipBlanks cs with
            | '}' :: cs => some ([(unitsText? units, j)], cs)
            | ',' :: cs => (readMembers fuel depth cs).map fun (members, cs) =>
                ((unitsText? units, j) :: members, cs)
            | _ => none
        | _ => none
    | _ => none

end

/-- The value that a text writes. -/
def parse? (s : String) : Option Json :=
  let cs := s.toList
  -- at least every second step of the readers uses up a character
  match readValue (2 * cs.length + 2) 0 cs with
  | some (j, rest) => if (skipBlanks rest).isEmpty then some j else none
  | none => none

end Json
end WireWrapper
