import WireWrapper.Json.Record
import WireWrapper.Modifier

/-!
# Modifiers as JSON

* `Modifier.ofJson?`, `Modifier.toJson`   one binding; it is no wrapper unless it says so.
-/

namespace WireWrapper
namespace Modifier

def ofJson? (j : Json) : Option Modifier := do
  j.recordOf? 4
  let runtimeType ← j.required "runtime_type" 0 Json.text?
  let outputType ← j.required "output_type" 1 Json.text?
  let accessor ← j.required "accessor" 2 Json.text?
  let isWrapper ← j.optional "wrapper" 3 false Json.bool?
  return ⟨runtimeType, outputType, accessor, isWrapper⟩

def toJson (m : Modifier) : Json := .object [
  ("runtime_type", .text m.runtimeType),
  ("output_type", .text m.outputType),
  ("accessor", .text m.accessor),
  ("wrapper", .bool m.isWrapper)]

end Modifier
end WireWrapper
