import WireWrapper.Decimal
import WireWrapper.Diagnostic
import WireWrapper.Pattern.Mode
import WireWrapper.Pattern.Reader
import WireWrapper.Text.Alphanumeric
import WireWrapper.Text.Blank
import WireWrapper.Text.Case
import WireWrapper.Text.Replace

/-!
# Directives on events

A directive is a level for every target, or `target[span{field=value}]=level`, where the brackets,
what stands in them, and the level may be left out: it is for the targets that begin with a text.
One that asks for a span, or for the value of a field, is for events within such spans; there are
none here, so it lets nothing pass.

* `Directive`            one of them;
* `Directive.level?`     a level by name or by its place;
* `Piece`                the text of a directive with the blanks around it;
* `Directive.ofPiece?`   the directive that it writes;
* `Directive.covers`     whether a directive is for an event;
* `Directive.isWider`    the order of directives: the narrowest one for an event decides.
-/

namespace WireWrapper

structure FieldTest where
  name : String
  /-- The number or the pattern that its value has to match, if the value matters. -/
  value : Option String
deriving DecidableEq, Repr

/-- A least level for the events of some targets, spans and fields. -/
structure Directive where
  /-- How the targets begin; none for every target. -/
  target : Option String
  span : Option String
  field : Option FieldTest
  level : LogLevel
deriving DecidableEq, Repr

namespace Directive

def ofLevel (level : LogLevel) : Directive := ⟨none, none, none, level⟩

/-- A level by its place, counted from `off` and the most urgent one. -/
def levelAt? : Nat → Option LogLevel
  | 0 => some .off
  | 1 => some .error
  | 2 => some .warn
  | 3 => some .info
  | 4 => some .debug
  | 5 => some .trace
  | _ => none

/-- The digits of a number behind a plus sign that may be left out. -/
def digitsOf? (cs : List Char) : Option (List Char) :=
  let digits := match cs with
    | '+' :: cs => cs
    | cs => cs
  if !digits.isEmpty && digits.all Char.isDigit then some digits else none

/-- A level by name in any case, or by its place. -/
def level? (cs : List Char) : Option LogLevel :=
  match digitsOf? cs with
  | some digits => levelAt? (Decimal.ofDigits digits)
  | none =>
    match String.ofList (Text.lowerAscii cs) with
    | "trace" => some .trace
    | "debug" => some .debug
    | "info" => some .info
    | "warn" => some .warn
    | "error" => some .error
    | "off" => some .off
    | _ => none

/-- The level behind an equals sign.  An empty one lets everything pass. -/
def levelAfter? (cs : List Char) : Option LogLevel := if cs.isEmpty then some .trace else level? cs

/-- An exponent of ten that takes up the whole text, or nothing. -/
def isExponent : List Char → Bool
  | [] => true
  | c :: cs =>
    let digits := match cs with
      | '-' :: cs => cs
      | '+' :: cs => cs
      | cs => cs
    (c == 'e' || c == 'E') && !digits.isEmpty && digits.all Char.isDigit

def isPlusNumber : List Char → Bool
  | '+' :: cs =>
    let (whole, rest) := cs.span Char.isDigit
    let (fraction, rest) := match rest with
      | '.' :: rest => rest.span Char.isDigit
      | rest => ([], rest)
    (!(whole ++ fraction).isEmpty && isExponent rest) ||
      ["inf", "infinity", "nan"].contains (String.ofList (Text.lowerAscii cs))
  | _ => false

/-- Whether a text may stand for the value of a field: a number, or a pattern for it.  All numbers
but those with a plus sign are patterns too. -/
def isValue (cs : List Char) : Bool :=
  isPlusNumber cs || (Pattern.parse? cs).any (·.isSearchable)

/-- A field name, with the value of the field behind an equals sign. -/
def fieldTest? (cs : List Char) : Option FieldTest :=
  match Text.pieces (· == '=') cs with
  | name :: value :: _ =>
    if isValue value then some ⟨String.ofList name, some (String.ofList value)⟩ else none
  | _ => if cs.isEmpty then none else some ⟨String.ofList cs, none⟩

/-- A piece of a setting, with the blanks around it and without them.  A directive is read without
them, but what its parts say stands at the same places of the piece with them: blanks in front put
every part off, and blanks behind belong to the last one. -/
structure Piece where
  whole : List Char
  body : List Char

namespace Piece

def of (cs : List Char) : Piece := ⟨cs, Text.trim cs⟩

def size (cs : List Char) : Nat := (String.ofList cs).utf8ByteSize

def dropBytes : Nat → List Char → List Char
  | 0, cs => cs
  | _, [] => []
  | n, c :: cs => dropBytes (n - c.utf8Size) cs

def takeBytes : Nat → List Char → List Char
  | 0, _ => []
  | _, [] => []
  | n, c :: cs => c :: takeBytes (n - c.utf8Size) cs

/-- What a part says that begins where `rest` is left of the body, and goes on to the end. -/
def textFrom (p : Piece) (rest : List Char) : List Char :=
  dropBytes (size p.body - size rest) p.whole

/-- What a part says that begins where `rest` is left of the body, and ends where `stop` is. -/
def textBetween (p : Piece) (rest stop : List Char) : List Char :=
  takeBytes (size rest - size stop) (p.textFrom rest)

end Piece

/-- What stands behind the brackets: nothing, or a level. -/
def levelBehind? (p : Piece) : List Char → Option LogLevel
  | [] => some .trace
  | '=' :: cs => levelAfter? (p.textFrom cs)
  | _ => none

/-- A directive from the text behind its opening bracket. -/
def inBrackets? (p : Piece) (target : Option String) (cs : List Char) : Option Directive :=
  let rest := cs.dropWhile fun c => c != ']' && c != '\x7b'
  let span := p.textBetween cs rest
  match rest with
  | ']' :: rest => do
    let level ← levelBehind? p rest
    some ⟨target, some (String.ofList span), none, level⟩
  | '\x7b' :: cs =>
    let rest := cs.dropWhile (· != '\x7d')
    match rest with
    | '\x7d' :: ']' :: behind => do
      let field ← fieldTest? (p.textBetween cs rest)
      let level ← levelBehind? p behind
      some ⟨target, if span.isEmpty then none else some (String.ofList span), some field, level⟩
    | _ => none
  | _ => none

/-- Whether a directive without brackets in front may begin with a character. -/
def isStart (c : Char) : Bool := Text.isAlphanumeric c || c == '-' || c == ':' || c == '_'

/-- The directive of a piece.  A target without a level lets everything pass. -/
def ofPiece? (p : Piece) : Option Directive :=
  match p.body with
  | [] => none
  | '[' :: cs => inBrackets? p none cs
  | c :: cs =>
    if !isStart c then none
    else
      let rest := cs.dropWhile fun c => c != '=' && c != '['
      let target := String.ofList (p.textBetween (c :: cs) rest)
      match rest with
      | [] =>
        match level? p.whole with
        | some level => some (ofLevel level)
        | none => some ⟨some (String.ofList p.whole), none, none, .trace⟩
      | '[' :: rest => inBrackets? p (some target) rest
      | _ :: rest => (levelAfter? (p.textFrom rest)).map fun level => ⟨some target, none, none, level⟩

def parse? (cs : List Char) : Option Directive := ofPiece? (.of cs)

/-- Whether a directive is for events only within some spans. -/
def needsSpan (d : Directive) : Bool := d.span.isSome || d.field.any (·.value.isSome)

/-- Whether a directive is for an event. -/
def covers (d : Directive) (e : Event) : Bool :=
  !d.needsSpan &&
    d.target.all (fun target => target.toList.isPrefixOf e.target.toList) &&
    d.field.all (fun field => e.declared.contains field.name)

/-- The bytes of a target; more than for none at all. -/
def targetSize (d : Directive) : Nat :=
  match d.target with
  | some target => target.utf8ByteSize + 1
  | none => 0

/-- Whether of two directives for one event the first one is wider: it has the shorter target or,
with equal targets, no field or the field with the lesser name. -/
def isWider (d d' : Directive) : Bool :=
  if d.targetSize = d'.targetSize then
    match d.field, d'.field with
    | none, some _ => true
    | some field, some field' => field.name < field'.name
    | _, none => false
  else d.targetSize < d'.targetSize

end Directive
end WireWrapper
