import WireWrapper.Config
import WireWrapper.Diagnostic
import WireWrapper.Document
import WireWrapper.Registry

/-!
# Documented fields

The documentation has one section for each category.  Inside it a heading `Serverbound` or
`Clientbound` names the direction of the messages that follow, up to the next such heading, wherever
that stands.  A message is a table with a cell for its number, whose rows list its fields.

* `packetId?`            the number that a cell holds, `0x2A` or `Play 0x2A` say: every `0x` goes, the
                         blanks at the ends go, and the text behind the last space is read in base 16;
* `Labels`               the headings and headers that count, in heading form;
* `Labels.readMessage`   a table of a message: its number, and the fields that its rows list;
* `Labels.readTable`     a table under a category and a direction, done to the fields found so far;
* `Labels.walk`          a section and all below it;
* `Labels.fieldsOf`      the documented fields of every registered message in a document.

A table that cannot be attributed to a registered message is dropped with a warning; of two tables
for one message the later one counts.
-/

namespace WireWrapper

/-! ## numbers of messages -/

/-- The part of a text behind its last space. -/
def afterLastSpace (cs : List Char) : List Char := (cs.reverse.takeWhile (· != ' ')).reverse

/-- The digits of a number, without a plus sign. -/
def dropPlus : List Char → List Char
  | '+' :: cs => cs
  | cs => cs

/-- The number that a cell holds, if it is one of 32 bits. -/
def packetId? (cell : String) : Option UInt32 :=
  let stripped := Text.replace "0x".toList [] cell.toList
  match Text.ofHex? (dropPlus (afterLastSpace (Text.trim stripped))) with
  | some n => if n < UInt32.size then some (UInt32.ofNat n) else none
  | none => none

example : packetId? "Play 0x2A" = some 0x2A ∧ packetId? "x" = none := by decide

/-! ## tables and sections -/

/-- The documented fields of messages. -/
abbrev DocumentedFields := KeyMap (List DocField)

/-- The column of the first field name when no header names it. -/
def stockNameColumn : Nat := 3

/-- The headings and headers that count, in heading form. -/
structure Labels where
  packetId : String
  fieldName : String
  serverbound : String
  clientbound : String
deriving DecidableEq, Repr

/-- Where a walk through a document is, and what it has found. -/
structure Walk where
  direction : Option Direction
  found : DocumentedFields

/-- A cell as it is rendered: one space for every run of blanks, none at the ends. -/
def renderedCell (s : String) : String := String.ofList (Text.collapse s.toList)

/-- The field in three data cells of a row, the first of them at `start`. -/
def Row.docField (row : Row) (start : Nat) : DocField where
  displayName := ((row.dataCell? start).map renderedCell).filter (!·.isEmpty)
  typeText := renderedCell ((row.dataCell? (start + 1)).getD "")
  notes := renderedCell ((row.dataCell? (start + 2)).getD "")

/-- The place of the first header cell with a label, among the header cells of a table. -/
def Table.headerColumn? (table : Table) (label : String) : Option Nat :=
  table.headers.findIdx? fun cell => headingForm cell.text == label

namespace Labels

def target : String := "wrapgen_codegen::reader"

def ofConfig (c : Config) : Labels where
  packetId := headingForm c.packetIdLabel
  fieldName := headingForm c.fieldNameLabel
  serverbound := headingForm c.serverboundLabel
  clientbound := headingForm c.clientboundLabel

def direction? (l : Labels) (heading : String) : Option Direction :=
  if headingForm heading = l.serverbound then some .client
  else if headingForm heading = l.clientbound then some .server
  else none

/-- The column of the first field name in the first data row of a table. -/
def nameColumn (l : Labels) (table : Table) : Nat :=
  (table.headerColumn? l.fieldName).getD stockNameColumn

/-- The fields that the data rows of a table list. -/
def fieldsIn (l : Labels) (table : Table) (first : Row) (rest : List Row) : List DocField :=
  -- the first row starts with cells that describe the message
  first.docField (l.nameColumn table) :: rest.map (·.docField 0)

def keep (m : MessageType) (fields : List DocField) (found : DocumentedFields) :
    Logged DocumentedFields := do
  .log (.ofMessage .debug target "read message table"
    [("message_type", .text m.reference), ("fields", .integer fields.length)])
  .logWhen (found.contains m.key) (.ofMessage .warn target
    "message documented twice, keeping the last table" [("message_type", .text m.reference)])
  pure (found.insert m.key fields)

/-- A table whose first data row and category and direction are known. -/
def readMessage (l : Labels) (r : Registry) (category : Category) (direction : Direction)
    (table : Table) (idColumn : Nat) (first : Row) (rest : List Row) (found : DocumentedFields) :
    Logged DocumentedFields :=
  let idText := (first.dataCell? idColumn).getD ""
  match packetId? idText with
  | none => do
    .log (.ofMessage .warn target "unparsable message id, table discarded"
      [("id", .text idText), ("category", .text category.javaName),
        ("direction", .text direction.javaName)])
    pure found
  | some id =>
    let key : MessageKey := ⟨category, direction, id⟩
    match r.resolve? key with
    | none => do
      .log (.ofMessage .warn target "unknown message type, table discarded"
        [("message_key", .text key.display)])
      pure found
    | some m => keep m (l.fieldsIn table first rest) found

/-- A table under a category and a direction.  A table without a cell for a number is no message. -/
def readTable (l : Labels) (r : Registry) (category : Option Category)
    (direction : Option Direction) (table : Table) (found : DocumentedFields) :
    Logged DocumentedFields :=
  match category, direction, table.headerColumn? l.packetId with
  | some category, some direction, some idColumn =>
    match table.dataRows with
    | [] => do
      .log (.ofMessage .debug target "message table has no data rows" [])
      pure found
    | first :: rest => l.readMessage r category direction table idColumn first rest found
  | _, _, _ => pure found

def readTables (l : Labels) (r : Registry) (category : Option Category)
    (direction : Option Direction) : List Table → DocumentedFields → Logged DocumentedFields
  | [], found => pure found
  | table :: tables, found => do
    let found ← l.readTable r category direction table found
    l.readTables r category direction tables found

mutual

/-- The tables of a section, then its subsections. -/
def walk (l : Labels) (r : Registry) (category : Option Category) : Section → Walk → Logged Walk
  | ⟨_, tables, subsections⟩, w => do
    let found ← l.readTables r category w.direction tables w.found
    l.walkAll r category subsections { w with found }

/-- Subsections in turn, each behind the direction that its heading names. -/
def walkAll (l : Labels) (r : Registry) (category : Option Category) :
    List Section → Walk → Logged Walk
  | [], w => pure w
  | s :: ss, w => do
    let w ← l.walk r category s { w with direction := (l.direction? s.heading).or w.direction }
    l.walkAll r category ss w

end

/-- The top-level sections of a document in turn, each with the category that its heading names. -/
def walkDocument (l : Labels) (r : Registry) : List Section → Walk → Logged Walk
  | [], w => pure w
  | s :: ss, w => do
    let category := Category.ofHeading? s.heading
    .logWhen category.isNone
      (.ofMessage .debug target "not a protocol section" [("heading", .text s.heading)])
    let w ← l.walk r category s w
    l.walkDocument r ss w

/-- The documented fields of every registered message in a document. -/
def fieldsOf (l : Labels) (r : Registry) (d : Document) : Logged DocumentedFields := do
  let w ← l.walkDocument r d.sections ⟨none, ∅⟩
  .log (.ofMessage .debug target "parsed documentation" [("messages", .integer w.found.size)])
  pure w.found

end Labels
end WireWrapper
