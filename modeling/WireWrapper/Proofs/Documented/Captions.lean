import WireWrapper.Proofs.Documented.LastTable

/-!
# Rows on top of a table

The columns of the id and of the first name are counted among all header cells of a table, but used
among the data cells of one row.  So a row of further headers on top of a table, a caption say, moves
both columns by as many cells as it has, and the table is read that far to the right: only where the
first data row shows the same number and the same field there, the caption changes nothing.

* `Labels.IsCaption`, `Table.captioned`   such a row, and a table with a row on top;
* `Document.Differ`                       two documents that differ in one table, wherever it stands;
* `headerColumn?_captioned`               the columns behind a caption;
* `Cursor.listingAt`                      what rows list when these columns are read;
* `listingAt_eq_iff`                      when two pairs of columns list the same;
* `fieldsOf_captioned`                    a table with a caption, and the document around it.
-/

namespace WireWrapper

/-- a row of header cells only, none of which marks a column -/
def Labels.IsCaption (l : Labels) (row : Row) : Prop :=
  ∀ cell ∈ row.cells, cell.isHeader = true ∧ headingForm cell.text ≠ l.packetId ∧
    headingForm cell.text ≠ l.fieldName

instance (l : Labels) (row : Row) : Decidable (l.IsCaption row) := List.decidableBAll _ row.cells

/-- a table with one more row on top -/
def Table.captioned (t : Table) (row : Row) : Table := ⟨row :: t.rows⟩

/-! ## documents that differ in one table -/

/-- two sections that differ in one table, at any depth -/
inductive Section.Differ (t t' : Table) : Section → Section → Prop
  | table (heading before after subsections) :
      Section.Differ t t' ⟨heading, before ++ t :: after, subsections⟩
        ⟨heading, before ++ t' :: after, subsections⟩
  | inside (heading tables before after) {s s'} : Section.Differ t t' s s' →
      Section.Differ t t' ⟨heading, tables, before ++ s :: after⟩
        ⟨heading, tables, before ++ s' :: after⟩

/-- two documents that differ in one table -/
inductive Document.Differ (t t' : Table) : Document → Document → Prop
  | inside (before after) {s s'} : Section.Differ t t' s s' →
      Document.Differ t t' ⟨before ++ s :: after⟩ ⟨before ++ s' :: after⟩

theorem Section.visitsAll_append (ss ts : List Section) :
    Section.visitsAll (ss ++ ts) = Section.visitsAll ss ++ Section.visitsAll ts := by
  induction ss with
  | nil => rfl
  | cons s ss ih => simp [Section.visitsAll, ih]

section
variable {t t' : Table}

theorem Section.Differ.heading_eq {s s' : Section} (h : Section.Differ t t' s s') :
    s'.heading = s.heading := by
  cases h <;> rfl

theorem Section.Differ.visits {s s' : Section} (h : Section.Differ t t' s s') :
    ∃ vs ws, s.visits = vs ++ .table t :: ws ∧ s'.visits = vs ++ .table t' :: ws := by
  induction h with
  | table heading before after subsections =>
    exact ⟨before.map .table, after.map .table ++ Section.visitsAll subsections,
      by simp [Section.visits], by simp [Section.visits]⟩
  | @inside heading tables before after s s' h ih =>
    obtain ⟨vs, ws, hs, hs'⟩ := ih
    refine ⟨tables.map .table ++ (Section.visitsAll before ++ .heading s.heading :: vs),
      ws ++ Section.visitsAll after, ?_, ?_⟩
    · simp [Section.visits, Section.visitsAll_append, Section.visitsAll, hs]
    · simp [Section.visits, Section.visitsAll_append, Section.visitsAll, hs', h.heading_eq]

theorem Document.Differ.visits {d d' : Document} (h : Document.Differ t t' d d') :
    ∃ vs ws, d.visits = vs ++ .table t :: ws ∧ d'.visits = vs ++ .table t' :: ws := by
  cases h with | @inside before after s s' h =>
  obtain ⟨vs, ws, hs, hs'⟩ := h.visits
  refine ⟨(before.flatMap fun s => .chapter s.heading :: s.visits) ++ .chapter s.heading :: vs,
    ws ++ after.flatMap fun s => .chapter s.heading :: s.visits, ?_, ?_⟩
  · simp [Document.visits, hs]
  · simp [Document.visits, hs', h.heading_eq]

/-- **One table in place of another** is read under the same cursor, and so are all others. -/
theorem Document.Differ.readings (l : Labels) {d d' : Document} (h : Document.Differ t t' d d') :
    ∃ c before after, l.readings .start d.visits = before ++ (c, t) :: after ∧
      l.readings .start d'.visits = before ++ (c, t') :: after := by
  obtain ⟨vs, ws, hd, hd'⟩ := h.visits
  refine ⟨vs.foldl l.turn .start, l.readings .start vs,
    l.readings (vs.foldl l.turn .start) ws, ?_, ?_⟩
  · rw [hd, Labels.readings_append, Labels.readings_table]
  · rw [hd', Labels.readings_append, Labels.readings_table]

end

/-! ## columns -/

/-- the number that a row shows in a column -/
def Row.id? (row : Row) (column : Nat) : Option UInt32 :=
  packetId? ((row.dataCell? column).getD "")

/-- what rows list under a cursor, if the number and the first name are looked for in these columns -/
def Cursor.listingAt (c : Cursor) (rows : List Row) (idColumn nameColumn : Nat) :
    Option (MessageKey × List DocField) := do
  let category ← c.category
  let direction ← c.direction
  let first ← rows.head?
  let id ← first.id? idColumn
  pure (⟨category, direction, id⟩, first.docField nameColumn :: rows.tail.map (·.docField 0))

/-- two pairs of columns that show the same, where they are looked at -/
def Cursor.ReadsAlike (c : Cursor) (rows : List Row) (idColumn nameColumn idColumn' nameColumn' : Nat) :
    Prop :=
  c.category.isSome → c.direction.isSome → ∀ first, rows.head? = some first →
    first.id? idColumn' = first.id? idColumn ∧
      ((first.id? idColumn).isSome → first.docField nameColumn' = first.docField nameColumn)

theorem listingAt_eq_iff {c : Cursor} {rows : List Row} {i n i' n' : Nat} :
    c.listingAt rows i' n' = c.listingAt rows i n ↔ c.ReadsAlike rows i n i' n' := by
  obtain ⟨category, direction⟩ := c
  unfold Cursor.listingAt Cursor.ReadsAlike
  cases category with
  | none => simp
  | some category =>
    cases direction with
    | none => simp
    | some direction =>
      cases rows with
      | nil => simp
      | cons first rest =>
        cases hid : first.id? i with
        | none => cases hid' : first.id? i' <;> simp [hid, hid']
        | some id => cases hid' : first.id? i' <;> simp [hid, hid']

namespace Labels
variable (l : Labels)

/-- how far the column of the first name moves behind further header cells: not at all if no header
names it -/
def nameShift (t : Table) (cells : Nat) : Nat :=
  if (t.headerColumn? l.fieldName).isSome then cells else 0

theorem listing?_eq_listingAt {c : Cursor} {t : Table} {i : Nat}
    (hi : t.headerColumn? l.packetId = some i) :
    l.listing? (c, t) = c.listingAt t.dataRows i (l.nameColumn t) := by
  unfold listing? Cursor.listingAt
  simp only [hi]
  rfl

section
variable {l} {row : Row} (hrow : l.IsCaption row)
include hrow

theorem dataRows_captioned (t : Table) : (t.captioned row).dataRows = t.dataRows := by
  have hnone : row.cells.any (!·.isHeader) = false := by
    rw [List.any_eq_false]
    intro cell hcell
    simp [(hrow cell hcell).1]
  simp [Table.dataRows, Table.captioned, hnone]

theorem headers_captioned (t : Table) : (t.captioned row).headers = row.cells ++ t.headers := by
  have hall : row.cells.filter (·.isHeader) = row.cells :=
    List.filter_eq_self.mpr fun cell hcell => (hrow cell hcell).1
  simp [Table.headers, Table.captioned, hall]

/-- **Columns behind a caption** are as many further as it has cells. -/
theorem headerColumn?_captioned (t : Table) {label : String}
    (hlabel : label = l.packetId ∨ label = l.fieldName) :
    (t.captioned row).headerColumn? label = (t.headerColumn? label).map (· + row.cells.length) := by
  have hnone : row.cells.findIdx? (fun cell => headingForm cell.text == label) = none := by
    rw [List.findIdx?_eq_none_iff]
    intro cell hcell
    obtain ⟨-, hid, hname⟩ := hrow cell hcell
    rcases hlabel with rfl | rfl
    · exact beq_false_of_ne hid
    · exact beq_false_of_ne hname
  rw [Table.headerColumn?, headers_captioned hrow, List.findIdx?_append, hnone, Option.none_or,
    Table.headerColumn?]

theorem nameColumn_captioned (t : Table) :
    l.nameColumn (t.captioned row) = l.nameColumn t + l.nameShift t row.cells.length := by
  rw [nameColumn, headerColumn?_captioned hrow t (.inr rfl), nameColumn, nameShift]
  cases t.headerColumn? l.fieldName <;> rfl

theorem listing?_captioned {c : Cursor} {t : Table} {i : Nat}
    (hi : t.headerColumn? l.packetId = some i) :
    l.listing? (c, t.captioned row) = c.listingAt t.dataRows (i + row.cells.length)
      (l.nameColumn t + l.nameShift t row.cells.length) := by
  have hcolumn : (t.captioned row).headerColumn? l.packetId = some (i + row.cells.length) := by
    rw [headerColumn?_captioned hrow t (.inl rfl), hi, Option.map_some]
  rw [listing?_eq_listingAt l hcolumn, dataRows_captioned hrow, nameColumn_captioned hrow]

end

theorem fieldsOf_of_listing_eq {d d' : Document} {c : Cursor} {t t' : Table}
    {before after : List (Cursor × Table)}
    (hd : l.readings .start d.visits = before ++ (c, t) :: after)
    (hd' : l.readings .start d'.visits = before ++ (c, t') :: after)
    (hlisting : l.listing? (c, t') = l.listing? (c, t)) (r : Registry) :
    (l.fieldsOf r d').value = (l.fieldsOf r d).value := by
  have hstore : ∀ found, l.store r found (c, t') = l.store r found (c, t) := by
    intro found
    rw [store, hlisting, store]
  rw [fieldsOf_value, fieldsOf_value, hd, hd', List.foldl_append, List.foldl_append,
    List.foldl_cons, List.foldl_cons, hstore]

/-- **A caption on top of a table** moves what is read of it, and nothing of the other tables: the id
and, if a header names it, the first name are read as many cells further as the caption has.  The
table lists the same if and only if the first data row shows the same there, and then the document has
the same fields. -/
theorem fieldsOf_captioned {row : Row} {t : Table} {i : Nat} {d d' : Document}
    (hrow : l.IsCaption row) (hi : t.headerColumn? l.packetId = some i)
    (hd : Document.Differ t (t.captioned row) d d') :
    ∃ c before after,
      l.readings .start d.visits = before ++ (c, t) :: after ∧
      l.readings .start d'.visits = before ++ (c, t.captioned row) :: after ∧
      l.listing? (c, t) = c.listingAt t.dataRows i (l.nameColumn t) ∧
      l.listing? (c, t.captioned row) = c.listingAt t.dataRows (i + row.cells.length)
        (l.nameColumn t + l.nameShift t row.cells.length) ∧
      (l.listing? (c, t.captioned row) = l.listing? (c, t) ↔
        c.ReadsAlike t.dataRows i (l.nameColumn t) (i + row.cells.length)
          (l.nameColumn t + l.nameShift t row.cells.length)) ∧
      (l.listing? (c, t.captioned row) = l.listing? (c, t) →
        ∀ r, (l.fieldsOf r d').value = (l.fieldsOf r d).value) := by
  obtain ⟨c, before, after, hbefore, hafter⟩ := hd.readings l
  have hplain := listing?_eq_listingAt l (c := c) hi
  have hmoved := listing?_captioned hrow (c := c) hi
  refine ⟨c, before, after, hbefore, hafter, hplain, hmoved, ?_, ?_⟩
  · rw [hplain, hmoved]
    exact listingAt_eq_iff
  · exact l.fieldsOf_of_listing_eq hbefore hafter

end Labels

def tableDocument (t : Table) : Document := ⟨[⟨"Play", [], [⟨"Clientbound", [t], []⟩]⟩]⟩

theorem tableDocument_differ (t t' : Table) :
    Document.Differ t t' (tableDocument t) (tableDocument t') :=
  .inside [] [] (.inside "Play" [] [] [] (.table "Clientbound" [] [] []))

/-- the name of the message across the table -/
def spawnCaption : Row := ⟨[⟨"Spawn Entity", true⟩]⟩

/-- a table that shows its number twice and does not say where the names start -/
def doubledTable : Table :=
  ⟨[⟨[⟨"Packet ID", true⟩]⟩,
    ⟨["0x00", "Play 0x00", "Client", "Entity ID", "VarInt", ""].map (⟨·, false⟩)⟩]⟩

theorem fieldsOf_captioned_doubled :
    (Labels.ofConfig .stock).IsCaption spawnCaption ∧
    doubledTable.headerColumn? (Labels.ofConfig .stock).packetId = some 0 ∧
    Document.Differ doubledTable (doubledTable.captioned spawnCaption)
      (tableDocument doubledTable) (tableDocument (doubledTable.captioned spawnCaption)) ∧
    ∀ r, ((Labels.ofConfig .stock).fieldsOf r
        (tableDocument (doubledTable.captioned spawnCaption))).value
      = ((Labels.ofConfig .stock).fieldsOf r (tableDocument doubledTable)).value := by
  have hrow : (Labels.ofConfig .stock).IsCaption spawnCaption := by decide +kernel
  have hcolumn : doubledTable.headerColumn? (Labels.ofConfig .stock).packetId = some 0 := by
    decide +kernel
  have hdiffer := tableDocument_differ doubledTable (doubledTable.captioned spawnCaption)
  obtain ⟨c, before, after, -, -, -, -, halike, hsame⟩ :=
    Labels.fieldsOf_captioned (Labels.ofConfig .stock) hrow hcolumn hdiffer
  refine ⟨hrow, hcolumn, hdiffer, hsame (halike.mpr fun _ _ first hfirst => ?_)⟩
  obtain rfl := Option.some.inj hfirst
  decide +kernel

/-- A caption of one cell: the number is looked for among the names, and the table is lost. -/
theorem caption_loses_table :
    (Labels.ofConfig .stock).IsCaption spawnCaption ∧
    (oneFieldTable "0x00" "Entity ID").headerColumn? (Labels.ofConfig .stock).packetId = some 0 ∧
    ((Labels.ofConfig .stock).fieldsOf spawnRegistry
        (tableDocument (oneFieldTable "0x00" "Entity ID"))).value[(⟨.play, .server, 0⟩ : MessageKey)]?
      = some [⟨some "Entity ID", "VarInt", ""⟩] ∧
    ((Labels.ofConfig .stock).fieldsOf spawnRegistry
        (tableDocument ((oneFieldTable "0x00" "Entity ID").captioned spawnCaption))).value[
          (⟨.play, .server, 0⟩ : MessageKey)]? = none := by
  rw [Labels.getElem?_fieldsOf, Labels.getElem?_fieldsOf]
  decide +kernel

end WireWrapper
