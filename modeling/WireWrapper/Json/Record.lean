import WireWrapper.Json

/-!
# Records as JSON

A record stands as an object of its members by name, or as an array of its members in their declared
order.  In an object unknown names are passed over and a known name may stand only once; in an array
members at the end may be left out if they have a default, and nothing may follow the last one.

* `Json.recordOf?`           a value that has the shape of a record;
* `Json.valuesOf`            every value that a record gives for one member;
* `required`, `optional`     the one value of a member, read; or its default;
* `text?`, `bool?`, `below?` plain values; `listOf?` lists, `pairOf?` pairs, `orNull?` null or a value;
* `choiceOf?`                one of several names.

Readers answer `none` when the value has another shape.
-/

namespace WireWrapper
namespace Json

def text? : Json → Option String
  | .text s => some s
  | _ => none

def bool? : Json → Option Bool
  | .bool b => some b
  | _ => none

/-- An integer from 0 up to, and without, `bound`. -/
def below? (bound : Nat) : Json → Option Nat
  | .integer n => if 0 ≤ n ∧ n < bound then some n.toNat else none
  | _ => none

def orNull? {α : Type} (read : Json → Option α) : Json → Option (Option α)
  | .null => some none
  | j => (read j).map some

def listOf? {α : Type} (read : Json → Option α) : Json → Option (List α)
  | .array items => items.mapM read
  | _ => none

/-- An array of exactly two values. -/
def pairOf? {α β : Type} (first : Json → Option α) (second : Json → Option β) :
    Json → Option (α × β)
  | .array [a, b] => (first a).bind fun a => (second b).map fun b => (a, b)
  | _ => none

/-- A name, given as a text or as an object whose one member has that name and the value `null`. -/
def choiceOf? {α : Type} (choose : String → Option α) : Json → Option α
  | .text s => choose s
  | .object [(s, .null)] => choose s
  | _ => none

/-- An object, or an array of at most `width` values. -/
def recordOf? (width : Nat) : Json → Option Unit
  | .object _ => some ()
  | .array items => if items.length ≤ width then some () else none
  | _ => none

/-- The values of the member `name`, which comes at `position` when the record is an array. -/
def valuesOf (j : Json) (name : String) (position : Nat) : List Json :=
  match j with
  | .object members => (members.filter (·.1 == name)).map (·.2)
  | .array items => items[position]?.toList
  | _ => []

def required {α : Type} (j : Json) (name : String) (position : Nat) (read : Json → Option α) :
    Option α :=
  match j.valuesOf name position with
  | [v] => read v
  | _ => none

def optional {α : Type} (j : Json) (name : String) (position : Nat) (fallback : α)
    (read : Json → Option α) : Option α :=
  match j.valuesOf name position with
  | [] => some fallback
  | [v] => read v
  | _ => none

def ofTexts (ss : List String) : Json := .array (ss.map .text)

/-- A text or `null`. -/
def ofText? : Option String → Json
  | some s => .text s
  | none => .null

def ofNat (n : Nat) : Json := .integer n

def ofList {α : Type} (write : α → Json) (xs : List α) : Json := .array (xs.map write)

end Json
end WireWrapper
