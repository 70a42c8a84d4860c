import WireWrapper.Text.Digits
import WireWrapper.Toml

/-!
# Numbers, truth values and moments in TOML

* `Toml.ungroup?`   a number without the underscores between its digits;
* `Toml.based?`     an integer in base 16, 8 or 2;
* `Toml.integer?`   a decimal integer;
* `Toml.real?`      a number with a fraction or an exponent;
* `Toml.isMoment`   a date, a time, or both with or without an offset;
* `Toml.scalar?`    any of these, a truth value, an infinity or no number.

Leading zeros, doubled underscores and days that no calendar has are refused.  The first characters
of a text decide what it is read as.  Behind an underscore, what is read as an integer may go on with
anything: it is then `unreadable`, which is an error only where its value is asked for.
-/

namespace WireWrapper
namespace Toml

/-- The text behind a number's first character, or behind a part of it, without its underscores.  An
underscore has to stand in front of a digit, and behind one unless it is allowed `here`. -/
def ungroupAfter? (isDigit : Char → Bool) : (here : Bool) → List Char → Option (List Char)
  | _, [] => some []
  | _, ['_'] => none
  | here, '_' :: c :: cs =>
    if here && isDigit c then (ungroupAfter? isDigit true cs).map (c :: ·) else none
  | _, c :: cs => (ungroupAfter? isDigit (isDigit c) cs).map (c :: ·)

/-- A number without its underscores.  The first one may stand directly behind a sign. -/
def ungroup? (isDigit : Char → Bool) : List Char → Option (List Char)
  | [] => some []
  | c :: cs => if c = '_' then none else (ungroupAfter? isDigit true cs).map (c :: ·)

/-- A text without its sign, and whether the sign is a minus. -/
def splitSign : List Char → Bool × List Char
  | '-' :: cs => (true, cs)
  | '+' :: cs => (false, cs)
  | cs => (false, cs)

/-- The value of digits in a base up to 16. -/
def ofBase (base : Nat) (digits : List Char) : Nat :=
  digits.foldl (fun n c => base * n + (Text.hexValue? c).getD 0) 0

def isDigitOf (base : Nat) (c : Char) : Bool := (Text.hexValue? c).any (· < base)

/-- The integer that the digits behind the mark of a base write. -/
def based? (base : Nat) (cs : List Char) : Option Toml :=
  if cs.isEmpty then some .unreadable
  else if cs.all fun c => isDigitOf base c || c == '_' then
    (ungroup? (isDigitOf base) cs).map fun ds => .integer (ofBase base ds)
  else none

/-- A decimal integer.  Underscores may have hexadecimal digits about them, which leaves the integer
without a value. -/
def integer? (cs : List Char) : Option Toml :=
  (ungroup? (isDigitOf 16) cs).map fun cs =>
    let (negative, ds) := splitSign cs
    if ds.all Char.isDigit then
      let n : Int := ofBase 10 ds
      .integer (if negative then -n else n)
    else .unreadable

/-- The digits behind a decimal point and the text after them. -/
def fraction? : List Char → Option (List Char × List Char)
  | '.' :: cs =>
    match cs.span Char.isDigit with
    | ([], _) => none
    | parts => some parts
  | cs => some ([], cs)

/-- An exponent that takes up the whole text; the empty text is the exponent 0. -/
def exponent? : List Char → Option Int
  | [] => some 0
  | c :: cs =>
    if c = 'e' || c = 'E' then
      let (negative, ds) := splitSign cs
      if !ds.isEmpty && ds.all Char.isDigit then
        let n : Int := Decimal.ofDigits ds
        some (if negative then -n else n)
      else none
    else none

/-- A number that is written with a fraction or an exponent; `zero` tells whether its first digit
may not be followed by another one. -/
def real? (zero : Bool) (cs : List Char) : Option Toml := do
  let cs ← ungroup? Char.isDigit cs
  let (negative, cs) := splitSign cs
  let (whole, rest) := cs.span Char.isDigit
  if whole.isEmpty || (zero && 1 < whole.length) then none
  else
    let (fraction, rest) ← fraction? rest
    let exponent ← exponent? rest
    some (.real (.ofParts negative whole fraction exponent))

def daysIn (year month : Nat) : Nat :=
  if month = 2 then
    if year % 4 = 0 && (year % 100 != 0 || year % 400 = 0) then 29 else 28
  else if month = 4 || month = 6 || month = 9 || month = 11 then 30
  else 31

/-- The number that digits alone write. -/
def plain? (cs : List Char) : Option Nat :=
  if cs.all Char.isDigit then some (Decimal.ofDigits cs) else none

def afterDate? : List Char → Option (List Char)
  | y₁ :: y₂ :: y₃ :: y₄ :: '-' :: m₁ :: m₂ :: '-' :: d₁ :: d₂ :: rest => do
    let year ← plain? [y₁, y₂, y₃, y₄]
    let month ← plain? [m₁, m₂]
    let day ← plain? [d₁, d₂]
    if 1 ≤ month && month ≤ 12 && 1 ≤ day && day ≤ daysIn year month then some rest else none
  | _ => none

/-- What follows hours and minutes in front of the text. -/
def afterMinutes? : List Char → Option (List Char)
  | h₁ :: h₂ :: ':' :: m₁ :: m₂ :: rest => do
    let hour ← plain? [h₁, h₂]
    let minute ← plain? [m₁, m₂]
    if hour ≤ 23 && minute ≤ 59 then some rest else none
  | _ => none

/-- What follows the digits of a second's fraction, if there is a point. -/
def afterFraction? : List Char → Option (List Char)
  | '.' :: c :: cs => if c.isDigit then some (cs.dropWhile Char.isDigit) else none
  | '.' :: [] => none
  | cs => some cs

/-- What follows a time in front of the text; seconds may be left out. -/
def afterTime? (cs : List Char) : Option (List Char) := do
  match ← afterMinutes? cs with
  | ':' :: s₁ :: s₂ :: rest =>
    let second ← plain? [s₁, s₂]
    if second ≤ 60 then afterFraction? rest else none
  | ':' :: _ => none
  | rest => some rest

/-- Whether the text is nothing or an offset. -/
def isOffset : List Char → Bool
  | [] => true
  | ['Z'] => true
  | ['z'] => true
  | '+' :: cs => afterMinutes? cs == some []
  | '-' :: cs => afterMinutes? cs == some []
  | _ => false

/-- Whether the text is a date, a time, or both with or without an offset. -/
def isMoment (cs : List Char) : Bool :=
  match afterDate? cs with
  | some [] => true
  | some (c :: rest) =>
    (c == 'T' || c == 't' || c == ' ') && ((afterTime? rest).map isOffset).getD false
  | none => afterTime? cs == some []

/-- A number or a moment by its text, without its sign, that is neither zero nor in another base. -/
def numeric? (cs value : List Char) : Option Toml :=
  let zero := value.head? == some '0'
  match value.dropWhile Char.isDigit with
  | [] => if zero then none else integer? cs
  | c :: rest =>
    if c = '-' || c = ':' then if isMoment cs then some .moment else none
    else if (c :: rest).any fun c => c == '.' || c == 'e' || c == 'E' then real? zero cs
    else if c = '_' && !zero then integer? cs
    else none

def number? (cs : List Char) : Option Toml :=
  let (_, value) := splitSign cs
  let signed := value.length < cs.length
  match value with
  | ['0'] => some (.integer 0)
  | '0' :: 'x' :: ds => if signed then none else based? 16 ds
  | '0' :: 'o' :: ds => if signed then none else based? 8 ds
  | '0' :: 'b' :: ds => if signed then none else based? 2 ds
  | c :: _ => if c.isDigit || c == '_' then numeric? cs value else none
  | [] => none

/-- A number, a truth value or a moment. -/
def scalar? (cs : List Char) : Option Toml :=
  if cs = "true".toList then some (.bool true)
  else if cs = "false".toList then some (.bool false)
  else
    let (_, value) := splitSign cs
    if value = "inf".toList || value = "nan".toList then some .special
    else number? cs

example : ungroup? Char.isDigit "1_000".toList = some "1000".toList := by decide
example : (number? "01".toList).isNone ∧ (number? "1__0".toList).isNone := by decide
example : isMoment "1979-05-27 07:32Z".toList = true := by decide

end Toml
end WireWrapper
