import WireWrapper.Message
import WireWrapper.Json.Record

/-!
# Fields as JSON

* `FieldDescriptor.ofJson?`, `FieldDescriptor.toJson`   a field of a compiled type;
* `DocField.ofJson?`, `DocField.toJson`                 a documented field, whose `display_name` may
                                                        be left out or `null`.
-/

namespace WireWrapper

/-- A field of a compiled type from a record.  Its position is a number of 64 bits. -/
def FieldDescriptor.ofJson? (j : Json) : Option FieldDescriptor := do
  j.recordOf? 4
  let declaringType ← j.required "declaring_type" 0 Json.text?
  let runtimeType ← j.required "runtime_type" 1 Json.text?
  let name ← j.required "name" 2 Json.text?
  let ordinal ← j.required "ordinal" 3 (Json.below? UInt64.size)
  return ⟨declaringType, runtimeType, name, ordinal⟩

def FieldDescriptor.toJson (f : FieldDescriptor) : Json := .object [
  ("declaring_type", .text f.declaringType),
  ("runtime_type", .text f.runtimeType),
  ("name", .text f.name),
  ("ordinal", .ofNat f.ordinal)]

def DocField.ofJson? (j : Json) : Option DocField := do
  j.recordOf? 3
  let displayName ← j.optional "display_name" 0 none (Json.orNull? Json.text?)
  let typeText ← j.required "type_text" 1 Json.text?
  let notes ← j.required "notes" 2 Json.text?
  return ⟨displayName, typeText, notes⟩

def DocField.toJson (doc : DocField) : Json := .object [
  ("display_name", .ofText? doc.displayName),
  ("type_text", .text doc.typeText),
  ("notes", .text doc.notes)]

end WireWrapper
