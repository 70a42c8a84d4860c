import WireWrapper.Hierarchy
import WireWrapper.Json.Record

/-!
# Hierarchies as JSON

* `Hierarchy.ofJson?`   `types`, an object from type names to `superclass` and `fields`;
* `Hierarchy.toJson`    the same record, types in the order of their names.

A type's superclass may be left out or `null`, and a field is an instance field unless it says
otherwise.  A type name may come twice; the later one counts.
-/

namespace WireWrapper

def FieldDecl.ofJson? (j : Json) : Option FieldDecl := do
  j.recordOf? 3
  let name ← j.required "name" 0 Json.text?
  let runtimeType ← j.required "runtime_type" 1 Json.text?
  let isStatic ← j.optional "static" 2 false Json.bool?
  return ⟨name, runtimeType, isStatic⟩

def FieldDecl.toJson (f : FieldDecl) : Json := .object [
  ("name", .text f.name),
  ("runtime_type", .text f.runtimeType),
  ("static", .bool f.isStatic)]

def TypeInfo.ofJson? (j : Json) : Option TypeInfo := do
  j.recordOf? 2
  let superclass ← j.optional "superclass" 0 none (Json.orNull? Json.text?)
  let fields ← j.optional "fields" 1 [] (Json.listOf? FieldDecl.ofJson?)
  return ⟨superclass, fields⟩

def TypeInfo.toJson (info : TypeInfo) : Json := .object [
  ("superclass", .ofText? info.superclass),
  ("fields", .ofList FieldDecl.toJson info.fields)]

namespace Hierarchy

/-- Types by name from an object. -/
def typesOfJson? : Json → Option (List (String × TypeInfo))
  | .object members => members.mapM fun (name, j) => (TypeInfo.ofJson? j).map (name, ·)
  | _ => none

def ofJson? (j : Json) : Option Hierarchy := do
  j.recordOf? 1
  let types ← j.optional "types" 0 [] typesOfJson?
  return ofTypes types

def toJson (h : Hierarchy) : Json :=
  .object [("types", .object (h.types.toList.map fun (name, info) => (name, info.toJson)))]

end Hierarchy
end WireWrapper
