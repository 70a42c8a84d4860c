import Mathlib.Data.List.Basic
import WireWrapper.Proofs.Documented.LastTable
import WireWrapper.Proofs.Text.Rendered
import WireWrapper.Proofs.Text.Replaced
import WireWrapper.Proofs.Warnings

/-!
# Documents as they are rendered

A page shows one space where its source has a run of blanks.  A reader that only looks at the page
reads the same fields; but headers and numbers are compared in another form, where only the ends are
trimmed.  So a line break inside the header of the number hides the whole table, and one inside a
number makes it unreadable.  Apart from these cells rendering changes nothing, and in them it changes
nothing either where single spaces stand between the words.

* `Document.mapText`, `Document.rendered`   a document with other texts in its cells;
* `visits_mapText`, `readings_mapText`      the tables of such a document;
* `IsSpaced`                                single spaces between the words, blanks only at the ends;
* `packetId?_trim`                          blanks at the ends of a number do not matter;
* `Labels.ReadsRendered`                    the headers and the number of a table outlive rendering;
* `listing?_rendered`                       then it lists the same;
* `fieldsOf_rendered`                       documents, and when a table is of this kind;
* `wrapped_header_lost`                     a line break in a header.
-/

namespace WireWrapper

/-! ## other texts in cells -/

def Cell.mapText (f : String → String) (cell : Cell) : Cell := ⟨f cell.text, cell.isHeader⟩

def Row.mapText (f : String → String) (row : Row) : Row := ⟨row.cells.map (·.mapText f)⟩

def Table.mapText (f : String → String) (table : Table) : Table := ⟨table.rows.map (·.mapText f)⟩

mutual

def Section.mapText (f : String → String) : Section → Section
  | ⟨heading, tables, subsections⟩ =>
    ⟨heading, tables.map (·.mapText f), Section.mapTextAll f subsections⟩

def Section.mapTextAll (f : String → String) : List Section → List Section
  | [] => []
  | s :: ss => s.mapText f :: Section.mapTextAll f ss

end

def Document.mapText (f : String → String) (d : Document) : Document :=
  ⟨Section.mapTextAll f d.sections⟩

def Visit.mapText (f : String → String) : Visit → Visit
  | .chapter text => .chapter text
  | .heading text => .heading text
  | .table t => .table (t.mapText f)

/-- a document as a page shows it -/
def Document.rendered (d : Document) : Document := d.mapText renderedCell

def Table.rendered (t : Table) : Table := t.mapText renderedCell

section
variable (f : String → String)

theorem Row.dataCell?_mapText (row : Row) (i : Nat) :
    (row.mapText f).dataCell? i = (row.dataCell? i).map f := by
  have hdata : (row.mapText f).dataCells = row.dataCells.map (·.mapText f) := List.filter_map
  rw [Row.dataCell?, hdata, List.getElem?_map, Row.dataCell?, Option.map_map, Option.map_map]
  rfl

theorem Table.headers_mapText (t : Table) :
    (t.mapText f).headers = t.headers.map (·.mapText f) := by
  rw [Table.headers, Table.mapText, List.flatMap_map, Table.headers]
  have hcells : (t.rows.flatMap fun row => (row.mapText f).cells)
      = (t.rows.flatMap (·.cells)).map (·.mapText f) := List.map_flatMap.symm
  rw [hcells, List.filter_map]
  rfl

theorem Table.dataRows_mapText (t : Table) :
    (t.mapText f).dataRows = t.dataRows.map (·.mapText f) := by
  rw [Table.dataRows, Table.mapText, List.filter_map, Table.dataRows]
  refine congrArg _ (List.filter_congr fun row _ => ?_)
  exact List.any_map

theorem Section.heading_mapText (s : Section) : (s.mapText f).heading = s.heading := by
  obtain ⟨heading, tables, subsections⟩ := s
  rw [Section.mapText]

mutual

theorem Section.visits_mapText (s : Section) :
    (s.mapText f).visits = s.visits.map (·.mapText f) := by
  obtain ⟨heading, tables, subsections⟩ := s
  rw [Section.mapText, Section.visits, Section.visits, Section.visitsAll_mapText subsections,
    List.map_append, List.map_map, List.map_map]
  rfl

theorem Section.visitsAll_mapText (ss : List Section) :
    Section.visitsAll (Section.mapTextAll f ss) = (Section.visitsAll ss).map (·.mapText f) := by
  match ss with
  | [] => rfl
  | s :: ss =>
    rw [Section.mapTextAll, Section.visitsAll, Section.visitsAll, Section.heading_mapText,
      Section.visits_mapText s, Section.visitsAll_mapText ss, List.map_cons, List.map_append]
    rfl

end

theorem Document.visits_mapText (d : Document) :
    (d.mapText f).visits = d.visits.map (·.mapText f) := by
  obtain ⟨ss⟩ := d
  show (Section.mapTextAll f ss).flatMap (fun s => Visit.chapter s.heading :: s.visits)
    = (ss.flatMap fun s => Visit.chapter s.heading :: s.visits).map (·.mapText f)
  induction ss with
  | nil => rfl
  | cons s ss ih =>
    rw [Section.mapTextAll, List.flatMap_cons, ih, List.flatMap_cons, Section.heading_mapText,
      Section.visits_mapText, List.map_append]
    rfl

end

/-! ## texts that outlive rendering -/

theorem renderedCell_renderedCell (s : String) : renderedCell (renderedCell s) = renderedCell s := by
  rw [renderedCell, renderedCell, String.toList_ofList, Text.collapse_collapse]

/-- single spaces between the words of a text, and other blanks at its ends only -/
def IsSpaced (s : String) : Prop := Text.trim s.toList = Text.collapse s.toList

instance (s : String) : Decidable (IsSpaced s) := decEq (Text.trim s.toList) _

theorem IsSpaced.renderedCell {s : String} (h : IsSpaced s) :
    renderedCell s = String.ofList (Text.trim s.toList) := congrArg String.ofList h.symm

theorem headingForm_trim (s : String) :
    headingForm (String.ofList (Text.trim s.toList)) = headingForm s := by
  rw [headingForm, String.toList_ofList, Text.trim_trim, headingForm]

theorem packetId?_trim (s : String) :
    packetId? (String.ofList (Text.trim s.toList)) = packetId? s := by
  obtain ⟨front, back, hfront, hback, hs⟩ := Text.exists_trim s.toList
  -- neither character of the mark is blank, so blanks at the ends are still there, and still at the
  -- ends, once the marks are gone
  have hzero : ∀ c ∈ front, c ≠ '0' := by
    rintro c hc rfl
    exact absurd (hfront '0' hc) (by decide)
  have hmark : ∀ c ∈ back, c ∉ ['0', 'x'] := by
    intro c hc hmem
    have hblank := hback c hc
    rcases List.mem_cons.mp hmem with rfl | hmem
    · exact absurd hblank (by decide)
    · rw [List.mem_singleton.mp hmem] at hblank
      exact absurd hblank (by decide)
  have hreplace : Text.replace ['0', 'x'] [] s.toList
      = front ++ Text.replace ['0', 'x'] [] (Text.trim s.toList) ++ back := by
    show Text.replaceFrom ['0', 'x'] [] 0 s.toList
      = front ++ Text.replaceFrom ['0', 'x'] [] 0 (Text.trim s.toList) ++ back
    conv => lhs; rw [hs]
    rw [Text.replaceFrom_append_right hmark [] _ (Nat.zero_le _),
      Text.replaceFrom_append_left hzero]
  have hzerox : "0x".toList = ['0', 'x'] := by decide
  rw [packetId?, packetId?, hzerox, hreplace, Text.trim_append hfront hback, String.toList_ofList]

/-! ## tables -/

theorem findIdx?_congr {α : Type} {p q : α → Bool} {xs : List α} (h : ∀ x ∈ xs, p x = q x) :
    xs.findIdx? p = xs.findIdx? q := by
  induction xs with
  | nil => rfl
  | cons x xs ih =>
    rw [List.findIdx?_cons, List.findIdx?_cons, h x List.mem_cons_self,
      ih fun y hy => h y (List.mem_cons_of_mem x hy)]

theorem Table.headerColumn?_rendered {t : Table} {label : String}
    (h : ∀ cell ∈ t.headers, headingForm (renderedCell cell.text) = label ↔
      headingForm cell.text = label) :
    t.rendered.headerColumn? label = t.headerColumn? label := by
  rw [Table.headerColumn?, Table.rendered, Table.headers_mapText, List.findIdx?_map,
    Table.headerColumn?]
  refine findIdx?_congr fun cell hcell => ?_
  show (headingForm (renderedCell cell.text) == label) = (headingForm cell.text == label)
  rw [Bool.eq_iff_iff, beq_iff_eq, beq_iff_eq]
  exact h cell hcell

theorem Row.docField_rendered (row : Row) (start : Nat) :
    (row.mapText renderedCell).docField start = row.docField start := by
  have hname : ∀ cell : Option String,
      (cell.map renderedCell).map renderedCell = cell.map renderedCell := by
    intro cell
    cases cell with
    | none => rfl
    | some s => exact congrArg some (renderedCell_renderedCell s)
  have htext : ∀ cell : Option String,
      renderedCell ((cell.map renderedCell).getD "") = renderedCell (cell.getD "") := by
    intro cell
    cases cell with
    | none => rfl
    | some s => exact renderedCell_renderedCell s
  rw [Row.docField, Row.dataCell?_mapText, Row.dataCell?_mapText, Row.dataCell?_mapText, hname,
    htext, htext, Row.docField]

namespace Labels
variable (l : Labels) (r : Registry)

/-- the text that is read as the number of a table -/
def numberText? (t : Table) : Option String := do
  let column ← t.headerColumn? l.packetId
  let first ← t.dataRows.head?
  pure ((first.dataCell? column).getD "")

/-- a table whose headers match the labels rendered where they match them as they are, and whose
number is rendered the same number -/
structure ReadsRendered (t : Table) : Prop where
  packetId : ∀ cell ∈ t.headers,
    headingForm (renderedCell cell.text) = l.packetId ↔ headingForm cell.text = l.packetId
  fieldName : ∀ cell ∈ t.headers,
    headingForm (renderedCell cell.text) = l.fieldName ↔ headingForm cell.text = l.fieldName
  number : ∀ text ∈ l.numberText? t, packetId? (renderedCell text) = packetId? text

/-- a table with single spaces between the words of its headers and of its number -/
structure SpacedHeaders (t : Table) : Prop where
  headers : ∀ cell ∈ t.headers, IsSpaced cell.text
  number : ∀ text ∈ l.numberText? t, IsSpaced text

theorem SpacedHeaders.readsRendered {t : Table} (h : l.SpacedHeaders t) : l.ReadsRendered t := by
  have hheading : ∀ cell ∈ t.headers,
      headingForm (renderedCell cell.text) = headingForm cell.text := by
    intro cell hcell
    rw [(h.headers cell hcell).renderedCell, headingForm_trim]
  refine ⟨fun cell hcell => ?_, fun cell hcell => ?_, fun text htext => ?_⟩
  · rw [hheading cell hcell]
  · rw [hheading cell hcell]
  · rw [(h.number text htext).renderedCell, packetId?_trim]

variable {l}

theorem fieldsIn_rendered {t : Table} (h : l.ReadsRendered t) (first : Row) (rest : List Row) :
    l.fieldsIn t.rendered (first.mapText renderedCell) (rest.map (·.mapText renderedCell))
      = l.fieldsIn t first rest := by
  rw [fieldsIn, nameColumn, Table.headerColumn?_rendered h.fieldName, Row.docField_rendered,
    List.map_map, fieldsIn, nameColumn]
  exact congrArg _ (List.map_congr_left fun row _ => row.docField_rendered 0)

/-- **A table of this kind lists the same once it is rendered.** -/
theorem listing?_rendered {t : Table} (h : l.ReadsRendered t) (c : Cursor) :
    l.listing? (c, t.rendered) = l.listing? (c, t) := by
  have hnumber := h.number
  unfold numberText? at hnumber
  rw [listing?, listing?, Table.headerColumn?_rendered h.packetId, Table.rendered,
    Table.dataRows_mapText]
  cases c.category with
  | none => rfl
  | some category =>
    cases c.direction with
    | none => rfl
    | some direction =>
      cases hcolumn : t.headerColumn? l.packetId with
      | none => rfl
      | some idColumn =>
        cases hrows : t.dataRows with
        | nil => rfl
        | cons first rest =>
          rw [hcolumn, hrows] at hnumber
          have hid : packetId? (((first.mapText renderedCell).dataCell? idColumn).getD "")
              = packetId? ((first.dataCell? idColumn).getD "") := by
            rw [Row.dataCell?_mapText, ← hnumber _ rfl]
            cases first.dataCell? idColumn <;> rfl
          simp only [List.map_cons, List.head?_cons, List.tail_cons, Option.bind_eq_bind,
            Option.bind_some, hid]
          rw [← fieldsIn_rendered h first rest]
          rfl

/-! ## documents -/

variable (l)

theorem readings_mapText (f : String → String) (c : Cursor) (vs : List Visit) :
    l.readings c (vs.map (·.mapText f))
      = (l.readings c vs).map fun reading => (reading.1, reading.2.mapText f) := by
  induction vs generalizing c with
  | nil => rfl
  | cons v vs ih =>
    cases v with
    | chapter heading =>
      show l.readings c (.chapter heading :: vs.map (·.mapText f)) = _
      rw [readings_chapter, readings_chapter, ih]
    | heading heading =>
      show l.readings c (.heading heading :: vs.map (·.mapText f)) = _
      rw [readings_heading, readings_heading, ih]
    | table t =>
      show l.readings c (.table (t.mapText f) :: vs.map (·.mapText f)) = _
      rw [readings_table, readings_table, ih, List.map_cons]

/-- **Rendering changes nothing** in a document whose tables have headers and numbers that outlive
it, whatever stands in all other cells; and those do whose words have single spaces in between. -/
theorem fieldsOf_rendered (d : Document) :
    ((∀ reading ∈ l.readings .start d.visits,
        reading.1.category.isSome → reading.1.direction.isSome → l.ReadsRendered reading.2) →
      (l.fieldsOf r d.rendered).value = (l.fieldsOf r d).value) ∧
    ∀ t, l.SpacedHeaders t → l.ReadsRendered t := by
  refine ⟨fun h => ?_, fun t ht => ht.readsRendered⟩
  have hstore : ∀ found, ∀ reading ∈ l.readings .start d.visits,
      l.store r found (reading.1, reading.2.rendered) = l.store r found reading := by
    rintro found ⟨⟨category, direction⟩, t⟩ hmem
    have hlisting : l.listing? (⟨category, direction⟩, t.rendered)
        = l.listing? (⟨category, direction⟩, t) := by
      cases category with
      | none => rfl
      | some category =>
        cases direction with
        | none => rfl
        | some direction => exact listing?_rendered (h _ hmem rfl rfl) _
    rw [store, store, hlisting]
  rw [fieldsOf_value, fieldsOf_value, Document.rendered, Document.visits_mapText,
    readings_mapText, List.foldl_map]
  exact List.foldl_ext _ _ _ fun found reading hmem => hstore found reading hmem

end Labels

/-! ## line breaks in cells -/

/-- a table with line breaks in its number, its name and its notes -/
def wrappedTable (idHeader : String) : Table :=
  ⟨[⟨[idHeader, "Field Name", "Field Type", " Notes "].map (⟨·, true⟩)⟩,
    ⟨["0x00\n", "Entity\n ID", "VarInt", "of the\nentity"].map (⟨·, false⟩)⟩]⟩

def wrappedDocument (idHeader : String) : Document :=
  ⟨[⟨"Play", [], [⟨"Clientbound", [wrappedTable idHeader], []⟩]⟩]⟩

theorem fieldsOf_rendered_wrapped :
    (∀ reading ∈ (Labels.ofConfig .stock).readings .start (wrappedDocument "Packet ID").visits,
      reading.1.category.isSome ∧ reading.1.direction.isSome ∧
        (Labels.ofConfig .stock).ReadsRendered reading.2) ∧
    ((Labels.ofConfig .stock).fieldsOf spawnRegistry (wrappedDocument "Packet ID").rendered).value
      = ((Labels.ofConfig .stock).fieldsOf spawnRegistry (wrappedDocument "Packet ID")).value ∧
    ((Labels.ofConfig .stock).fieldsOf spawnRegistry (wrappedDocument "Packet ID")).value[
        (⟨.play, .server, 0⟩ : MessageKey)]?
      = some [⟨some "Entity ID", "VarInt", "of the entity"⟩] := by
  obtain ⟨hrendered, hspaced⟩ :=
    Labels.fieldsOf_rendered (Labels.ofConfig .stock) spawnRegistry (wrappedDocument "Packet ID")
  have hreads : (Labels.ofConfig .stock).ReadsRendered (wrappedTable "Packet ID") := by
    have hnumber : (Labels.ofConfig .stock).numberText? (wrappedTable "Packet ID")
        = some "0x00\n" := by decide
    refine hspaced _ ⟨by decide, fun text htext => ?_⟩
    rw [hnumber] at htext
    rw [← Option.mem_some.mp htext]
    decide
  have hreadings : (Labels.ofConfig .stock).readings .start (wrappedDocument "Packet ID").visits
      = [(⟨some .play, some .server⟩, wrappedTable "Packet ID")] := by
    rfl
  have hall : ∀ reading ∈
      (Labels.ofConfig .stock).readings .start (wrappedDocument "Packet ID").visits,
      reading.1.category.isSome ∧ reading.1.direction.isSome ∧
        (Labels.ofConfig .stock).ReadsRendered reading.2 := by
    intro reading hmem
    rw [hreadings] at hmem
    rw [List.mem_singleton.mp hmem]
    exact ⟨rfl, rfl, hreads⟩
  refine ⟨hall, hrendered fun reading hmem _ _ => (hall reading hmem).2.2, ?_⟩
  rw [Labels.getElem?_fieldsOf]
  decide

/-- a line break in the header of the number: the table is lost, and nothing says so; as a page shows
it, it lists the field -/
theorem wrapped_header_lost :
    ((Labels.ofConfig .stock).fieldsOf spawnRegistry (wrappedDocument "Packet\nID")).value[
        (⟨.play, .server, 0⟩ : MessageKey)]? = none ∧
    ((Labels.ofConfig .stock).fieldsOf spawnRegistry (wrappedDocument "Packet\nID")).warnings = 0 ∧
    ((Labels.ofConfig .stock).fieldsOf spawnRegistry (wrappedDocument "Packet\nID").rendered).value[
        (⟨.play, .server, 0⟩ : MessageKey)]?
      = some [⟨some "Entity ID", "VarInt", "of the entity"⟩] := by
  refine ⟨?_, ?_, ?_⟩
  · rw [Labels.getElem?_fieldsOf]
    decide
  · decide
  · rw [Labels.getElem?_fieldsOf]
    decide

end WireWrapper
