import WireWrapper.Document
import WireWrapper.Json.Record

/-!
# Documentation trees as JSON

* `Document.ofJson?`   a tree from nested records, in which lists may be left out and a cell is a
                       datum unless it says otherwise;
* `Document.toJson`    the records with all members.
-/

namespace WireWrapper

def Cell.ofJson? (j : Json) : Option Cell := do
  j.recordOf? 2
  let text ← j.required "text" 0 Json.text?
  let isHeader ← j.optional "header" 1 false Json.bool?
  return ⟨text, isHeader⟩

def Cell.toJson (c : Cell) : Json := .object [
  ("text", .text c.text),
  ("header", .bool c.isHeader)]

def Row.ofJson? (j : Json) : Option Row := do
  j.recordOf? 1
  let cells ← j.optional "cells" 0 [] (Json.listOf? Cell.ofJson?)
  return ⟨cells⟩

def Row.toJson (row : Row) : Json := .object [("cells", .ofList Cell.toJson row.cells)]

def Table.ofJson? (j : Json) : Option Table := do
  j.recordOf? 1
  let rows ← j.optional "rows" 0 [] (Json.listOf? Row.ofJson?)
  return ⟨rows⟩

def Table.toJson (table : Table) : Json := .object [("rows", .ofList Row.toJson table.rows)]

namespace Section

/-- A section from the values of its members, once its subsections are read. -/
def assemble (j : Json) (subsections : Option (List Section)) : Option Section := do
  j.recordOf? 3
  let heading ← j.required "heading" 0 Json.text?
  let tables ← j.optional "tables" 1 [] (Json.listOf? Table.ofJson?)
  return ⟨heading, tables, ← subsections⟩

mutual

def ofJson? : Json → Option Section
  | .object members => assemble (.object members) <|
      match subsectionsIn members with
      | [] => some []
      | [subsections] => subsections
      | _ => none
  | .array [a, b, .array items] => assemble (.array [a, b, .array items]) (allOfJson? items)
  | .array [a, b] => assemble (.array [a, b]) (some [])
  | .array [a] => assemble (.array [a]) (some [])
  | _ => none

/-- The lists of subsections that the members of a record give. -/
def subsectionsIn : List (String × Json) → List (Option (List Section))
  | [] => []
  | (name, j) :: ms =>
    if name = "subsections" then listOfJson? j :: subsectionsIn ms else subsectionsIn ms

def listOfJson? : Json → Option (List Section)
  | .array items => allOfJson? items
  | _ => none

def allOfJson? : List Json → Option (List Section)
  | [] => some []
  | j :: js =>
    match ofJson? j, allOfJson? js with
    | some s, some ss => some (s :: ss)
    | _, _ => none

end

mutual

def toJson : Section → Json
  | ⟨heading, tables, subsections⟩ => .object [
      ("heading", .text heading),
      ("tables", .ofList Table.toJson tables),
      ("subsections", .array (allToJson subsections))]

def allToJson : List Section → List Json
  | [] => []
  | s :: ss => toJson s :: allToJson ss

end

end Section

namespace Document

def ofJson? (j : Json) : Option Document := do
  j.recordOf? 1
  let sections ← j.optional "sections" 0 [] (Json.listOf? Section.ofJson?)
  return ⟨sections⟩

def toJson (d : Document) : Json := .object [("sections", .ofList Section.toJson d.sections)]

end Document
end WireWrapper
