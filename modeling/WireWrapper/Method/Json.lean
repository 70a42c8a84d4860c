import WireWrapper.Json.Record
import WireWrapper.Message.Json
import WireWrapper.Method

/-!
# Methods as JSON

* `Instruction.ofJson?`   an instruction, whose `kind` says which other members it has; as an array
                          it starts with its kind;
* `MethodBody.ofJson?`    a method, whose name may be left out;
* `toJson`                the records of both.

The kind may stand behind the other members, so an instruction is taken in whole before it is
understood: every part of it has to be readable, unknown members too.
-/

namespace WireWrapper
namespace Json

mutual

/-- Whether a value can be held for later: all of it is readable and its numbers are finite. -/
def isHoldable : Json → Bool
  | .integer n => (Decimal.mk n 0).fitsByParts
  | .real d => d.fitsByParts
  | .array items => itemsHoldable items
  | .object members => membersHoldable members
  | .unreadable => false
  | _ => true

def itemsHoldable : List Json → Bool
  | [] => true
  | j :: js => isHoldable j && itemsHoldable js

def membersHoldable : List (String × Json) → Bool
  | [] => true
  | (_, j) :: ms => isHoldable j && membersHoldable ms

end

/-- One of several names in a value that was held: besides `null`, an empty object may stand for the
missing value. -/
def heldChoiceOf? {α : Type} (choose : String → Option α) : Json → Option α
  | .object [(s, .object [])] => choose s
  | j => choiceOf? choose j

/-- A number of 8 bits. -/
def word8? (j : Json) : Option UInt8 := (j.below? UInt8.size).map UInt8.ofNat

end Json

/-- The word for a kind of instruction. -/
def Instruction.kind : Instruction → String
  | line _ => "line_number"
  | field _ _ _ => "field"
  | other _ => "other"

namespace Instruction

/-- An instruction of a given kind from its other members. -/
def ofKind? (kind : String) (j : Json) : Option Instruction :=
  match kind with
  | "line_number" => do
    j.recordOf? 1
    let number ← j.required "line" 0 Json.word32?
    return .line number
  | "field" => do
    j.recordOf? 3
    let access ← j.required "opcode" 0 (Json.heldChoiceOf? FieldAccess.ofWord?)
    let owner ← j.required "owner" 1 Json.text?
    let name ← j.required "name" 2 Json.text?
    return .field access owner name
  | "other" => do
    j.recordOf? 1
    let code ← j.required "opcode" 0 Json.word8?
    return .other code
  | _ => none

def ofJson? (j : Json) : Option Instruction :=
  if j.isHoldable then
    match j with
    | .object members =>
      match Json.valuesOf (.object members) "kind" 0 with
      | [.text kind] => ofKind? kind (.object (members.filter (·.1 != "kind")))
      | _ => none
    | .array (.text kind :: items) => ofKind? kind (.array items)
    | _ => none
  else none

def toJson : Instruction → Json
  | .line number => .object [
      ("kind", .text "line_number"),
      ("line", .ofNat number.toNat)]
  | .field access owner name => .object [
      ("kind", .text "field"),
      ("opcode", .text access.word),
      ("owner", .text owner),
      ("name", .text name)]
  | .other code => .object [
      ("kind", .text "other"),
      ("opcode", .ofNat code.toNat)]

end Instruction

namespace MethodBody

def ofJson? (j : Json) : Option MethodBody := do
  j.recordOf? 3
  let declaringType ← j.required "declaring_type" 0 Json.text?
  let name ← j.optional "name" 1 "" Json.text?
  let instructions ← j.required "instructions" 2 (Json.listOf? Instruction.ofJson?)
  return ⟨declaringType, name, instructions⟩

def toJson (m : MethodBody) : Json := .object [
  ("declaring_type", .text m.declaringType),
  ("name", .text m.name),
  ("instructions", .ofList Instruction.toJson m.instructions)]

end MethodBody
end WireWrapper
