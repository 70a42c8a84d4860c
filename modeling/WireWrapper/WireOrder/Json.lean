import WireWrapper.Field.Json
import WireWrapper.WireOrder

/-!
# Scan results as JSON

* `ScanResult.ofJson?`, `ScanResult.toJson`   the two orders of a message's fields.
-/

namespace WireWrapper
namespace ScanResult

def ofJson? (j : Json) : Option ScanResult := do
  j.recordOf? 2
  let networkOrder ← j.required "network_order" 0 (Json.listOf? FieldDescriptor.ofJson?)
  let memoryOrder ← j.required "memory_order" 1 (Json.listOf? FieldDescriptor.ofJson?)
  return ⟨networkOrder, memoryOrder⟩

def toJson (r : ScanResult) : Json := .object [
  ("network_order", .ofList FieldDescriptor.toJson r.networkOrder),
  ("memory_order", .ofList FieldDescriptor.toJson r.memoryOrder)]

end ScanResult
end WireWrapper
