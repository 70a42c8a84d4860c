import WireWrapper.Text.Digits

/-!
# Quoted text in TOML

Four kinds of quotes.  In double quotes a backslash escapes; in single quotes every character stands
for itself.  Three quotes open a text of several lines, where a line break directly behind the
quotes does not count, any other stands for itself, and up to two quotes may stand anywhere, also at
the end.

* `Toml.escape?`          what an escape stands for, and the text after it;
* `Toml.readBasic`        the rest of a one-line text in double quotes;
* `Toml.readLiteral`      the rest of a one-line text in single quotes;
* `Toml.readLongBasic`    the rest of a text in three double quotes;
* `Toml.readLongLiteral`  the rest of a text in three single quotes.
-/

namespace WireWrapper
namespace Toml

/-- A control character other than a tab. -/
def isControl (c : Char) : Bool := (c < ' ' && c != '\t') || c == '\x7f'

/-- The character that hexadecimal digits write, before the text after them. -/
def hexEscape? (digits rest : List Char) : Option (Char × List Char) :=
  (Text.charOfHex? digits).map (·, rest)

/-- What stands behind a backslash: the character meant, and the text after the escape. -/
def escape? : List Char → Option (Char × List Char)
  | 'b' :: cs => some ('\x08', cs)
  | 't' :: cs => some ('\t', cs)
  | 'n' :: cs => some ('\n', cs)
  | 'f' :: cs => some ('\x0c', cs)
  | 'r' :: cs => some ('\r', cs)
  | 'e' :: cs => some ('\x1b', cs)
  | '"' :: cs => some ('"', cs)
  | '\\' :: cs => some ('\\', cs)
  | 'x' :: a :: b :: cs => hexEscape? [a, b] cs
  | 'u' :: a :: b :: c :: d :: cs => hexEscape? [a, b, c, d] cs
  | 'U' :: a :: b :: c :: d :: e :: f :: g :: h :: cs => hexEscape? [a, b, c, d, e, f, g, h] cs
  | _ => none

def withChar (c : Char) (r : Option (List Char × List Char)) : Option (List Char × List Char) :=
  r.map fun (cs, rest) => (c :: cs, rest)

/-- The rest of a one-line text in double quotes. -/
def readBasic : (fuel : Nat) → List Char → Option (List Char × List Char)
  | 0, _ => none
  | _ + 1, [] => none
  | _ + 1, '"' :: cs => some ([], cs)
  | fuel + 1, '\\' :: cs =>
    match escape? cs with
    | some (c, rest) => withChar c (readBasic fuel rest)
    | none => none
  | fuel + 1, c :: cs => if isControl c then none else withChar c (readBasic fuel cs)

/-- The rest of a one-line text in single quotes. -/
def readLiteral : List Char → Option (List Char × List Char)
  | [] => none
  | '\'' :: cs => some ([], cs)
  | c :: cs => if isControl c then none else withChar c (readLiteral cs)

/-- The text behind spaces, tabs and line breaks. -/
def skipBreaks : List Char → List Char
  | ' ' :: cs => skipBreaks cs
  | '\t' :: cs => skipBreaks cs
  | '\n' :: cs => skipBreaks cs
  | '\r' :: '\n' :: cs => skipBreaks cs
  | cs => cs

def endsLine : List Char → Bool
  | ' ' :: cs => endsLine cs
  | '\t' :: cs => endsLine cs
  | '\n' :: _ => true
  | '\r' :: '\n' :: _ => true
  | _ => false

def dropBreak : List Char → List Char
  | '\n' :: cs => cs
  | '\r' :: '\n' :: cs => cs
  | cs => cs

/-- The rest of a text in three double quotes. -/
def readLongBasic : (fuel : Nat) → List Char → Option (List Char × List Char)
  | 0, _ => none
  | _ + 1, [] => none
  -- one or two quotes may stand in front of the three that close the text
  | _ + 1, '"' :: '"' :: '"' :: '"' :: '"' :: cs => some (['"', '"'], cs)
  | _ + 1, '"' :: '"' :: '"' :: '"' :: cs => some (['"'], cs)
  | _ + 1, '"' :: '"' :: '"' :: cs => some ([], cs)
  | fuel + 1, '\\' :: cs =>
    -- a backslash at the end of a line takes the break with it, and all blanks behind
    if endsLine cs then readLongBasic fuel (skipBreaks cs)
    else match escape? cs with
      | some (c, rest) => withChar c (readLongBasic fuel rest)
      | none => none
  | fuel + 1, '\r' :: '\n' :: cs => withChar '\r' (withChar '\n' (readLongBasic fuel cs))
  | fuel + 1, c :: cs =>
    if isControl c && c != '\n' then none else withChar c (readLongBasic fuel cs)

/-- The rest of a text in three single quotes. -/
def readLongLiteral : List Char → Option (List Char × List Char)
  | [] => none
  | '\'' :: '\'' :: '\'' :: '\'' :: '\'' :: cs => some (['\'', '\''], cs)
  | '\'' :: '\'' :: '\'' :: '\'' :: cs => some (['\''], cs)
  | '\'' :: '\'' :: '\'' :: cs => some ([], cs)
  | '\r' :: '\n' :: cs => withChar '\r' (withChar '\n' (readLongLiteral cs))
  | c :: cs => if isControl c && c != '\n' then none else withChar c (readLongLiteral cs)

/-- A quoted text of any kind in front of the text; `none` when the text is malformed or starts with
no quote. -/
def readQuoted : List Char → Option (List Char × List Char)
  | '"' :: '"' :: '"' :: cs => readLongBasic (cs.length + 1) (dropBreak cs)
  | '\'' :: '\'' :: '\'' :: cs => readLongLiteral (dropBreak cs)
  | '"' :: cs => readBasic (cs.length + 1) cs
  | '\'' :: cs => readLiteral cs
  | _ => none

end Toml
end WireWrapper
