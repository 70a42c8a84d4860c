import WireWrapper.Json.Record
import WireWrapper.Message

/-!
# Messages as JSON

* `MessageKey.ofJson?`, `MessageKey.toJson`     `category`, `direction` and `id`;
* `MessageType.ofJson?`, `MessageType.toJson`   `key` and `name`.
-/

namespace WireWrapper

/-- A number of 32 bits. -/
def Json.word32? (j : Json) : Option UInt32 := (j.below? UInt32.size).map UInt32.ofNat

def MessageKey.ofJson? (j : Json) : Option MessageKey := do
  j.recordOf? 3
  let category ← j.required "category" 0 (Json.choiceOf? Category.ofWord?)
  let direction ← j.required "direction" 1 (Json.choiceOf? Direction.ofWord?)
  let id ← j.required "id" 2 Json.word32?
  return ⟨category, direction, id⟩

def MessageKey.toJson (key : MessageKey) : Json := .object [
  ("category", .text key.category.word),
  ("direction", .text key.direction.word),
  ("id", .ofNat key.id.toNat)]

def MessageType.ofJson? (j : Json) : Option MessageType := do
  j.recordOf? 2
  let key ← j.required "key" 0 MessageKey.ofJson?
  let name ← j.required "name" 1 Json.text?
  return ⟨key, name⟩

def MessageType.toJson (m : MessageType) : Json := .object [
  ("key", m.key.toJson),
  ("name", .text m.name)]

end WireWrapper
