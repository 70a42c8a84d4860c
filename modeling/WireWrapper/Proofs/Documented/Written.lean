import WireWrapper.Proofs.Documented.LastTable
import WireWrapper.Proofs.PacketId

/-!
# Documents written for a reader

The fields of messages can be written down as a document: a top-level section for each category,
inside it a section for each direction, inside it a table for each message.  In what order, under
which spelling of the headings, and with what in the cells that no reader looks at, is left open;
whatever is chosen, the stock reader finds the fields that were written, all of them and no others.

* `Layout`                   all that may be chosen;
* `Layout.document`          the document that is written;
* `Layout.Fits`              nothing is left out, and the headings name their categories;
* `DocField.IsRendered`      texts as a page shows them, the only ones that can be read back;
* `mem_readings_document`    the tables of a written document and their cursors;
* `listing?_table`           a written table lists what was written;
* `fieldsOf_document`        a written document reads back.
-/

namespace WireWrapper

/-! ## rows -/

def Cell.datum (text : String) : Cell := ⟨text, false⟩

/-- the labels of a reader without settings of its own -/
def Labels.stock : Labels := .ofConfig .stock

/-- the headers above every table -/
def headerRow : Row :=
  ⟨["Packet ID", "State", "Bound To", "Field Name", "Field Type", "Notes"].map (⟨·, true⟩)⟩

/-- the cells of a field; an absent name leaves a blank -/
def DocField.cells (f : DocField) (blank : String) : List Cell :=
  [.datum (f.displayName.getD blank), .datum f.typeText, .datum f.notes]

/-- texts as a page shows them: without blanks at the ends, one space between two words, and a name
only if there is something to show -/
structure DocField.IsRendered (f : DocField) : Prop where
  name : ∀ name ∈ f.displayName, name.isEmpty = false ∧ renderedCell name = name
  typeText : renderedCell f.typeText = f.typeText
  notes : renderedCell f.notes = f.notes

instance (f : DocField) : Decidable f.IsRendered :=
  decidable_of_iff
    ((∀ name ∈ f.displayName, name.isEmpty = false ∧ renderedCell name = name) ∧
      renderedCell f.typeText = f.typeText ∧ renderedCell f.notes = f.notes)
    ⟨fun h => ⟨h.1, h.2.1, h.2.2⟩, fun h => ⟨h.name, h.typeText, h.notes⟩⟩

/-- whether a page shows nothing of a text -/
def IsBlankText (s : String) : Prop := ∀ c ∈ s.toList, Text.isBlank c = true

instance (s : String) : Decidable (IsBlankText s) :=
  List.decidableBAll (fun c => Text.isBlank c = true) s.toList

theorem renderedCell_blank {s : String} (h : IsBlankText s) : renderedCell s = "" := by
  have hwords : ∀ cs : List Char, (∀ c ∈ cs, Text.isBlank c = true) → Text.words cs = [] := by
    intro cs hcs
    induction cs with
    | nil => rfl
    | cons c cs ih =>
      rw [Text.words, if_pos (hcs c List.mem_cons_self)]
      exact ih fun d hd => hcs d (List.mem_cons_of_mem c hd)
  rw [renderedCell, Text.collapse, hwords s.toList h]
  rfl

/-! ## documents -/

/-- the choices of a writer: the order of the categories, their headings, the order of the directions
in each of them, the order of the tables, and texts for the cells that hold no field -/
structure Layout where
  categories : List Category
  heading : Category → String
  directions : Category → List Direction
  keys : List MessageKey
  state : MessageKey → String
  boundTo : MessageKey → String
  blank : MessageKey → Nat → String

def Direction.heading : Direction → String
  | client => "Serverbound"
  | server => "Clientbound"

namespace Layout
variable (w : Layout) (found : DocumentedFields)

/-- what stands in front of the first field of a message -/
def front (key : MessageKey) : List Cell :=
  [.datum (idText key.id), .datum (w.state key), .datum (w.boundTo key)]

/-- the rows of the fields behind the first one; `n` counts the rows in front -/
def laterRows (key : MessageKey) : (n : Nat) → List DocField → List Row
  | _, [] => []
  | n, f :: fs => ⟨f.cells (w.blank key n)⟩ :: laterRows key (n + 1) fs

/-- the data rows of a message: one for each field -/
def rows (key : MessageKey) : List DocField → List Row
  | [] => []
  | f :: fs => ⟨w.front key ++ f.cells (w.blank key 0)⟩ :: w.laterRows key 1 fs

def table (key : MessageKey) : Table := ⟨headerRow :: w.rows key (found[key]?.getD [])⟩

/-- the keys of one category and one direction -/
def keysOf (category : Category) (direction : Direction) : List MessageKey :=
  w.keys.filter fun key => key.category = category ∧ key.direction = direction

def directionSection (category : Category) (direction : Direction) : Section :=
  ⟨direction.heading, (w.keysOf category direction).map (w.table found), []⟩

def categorySection (category : Category) : Section :=
  ⟨w.heading category, [], (w.directions category).map (w.directionSection found category)⟩

def document : Document := ⟨w.categories.map (w.categorySection found)⟩

/-- a layout for the fields of some messages: each of them has a table in a section of its own
category and direction, and no other message has -/
structure Fits : Prop where
  headings : ∀ category ∈ w.categories, Category.ofHeading? (w.heading category) = some category
  categories : ∀ key ∈ found, key.category ∈ w.categories
  directions : ∀ key ∈ found, key.direction ∈ w.directions key.category
  keys : ∀ key, key ∈ w.keys ↔ key ∈ found
  blank : ∀ key n, IsBlankText (w.blank key n)

end Layout

/-! ## reading rows -/

theorem Row.dataCells_eq {cells : List Cell} (h : ∀ cell ∈ cells, cell.isHeader = false) :
    Row.dataCells ⟨cells⟩ = cells := by
  rw [Row.dataCells, List.filter_eq_self]
  intro cell hcell
  rw [h cell hcell]
  rfl

theorem DocField.cells_data {f : DocField} {blank : String} :
    ∀ cell ∈ f.cells blank, cell.isHeader = false := by
  simp [DocField.cells, Cell.datum]

/-- **A field reads back from its cells**, whatever data cells stand in front of them. -/
theorem Row.docField_cells {f : DocField} (hf : f.IsRendered) {blank : String}
    (hblank : IsBlankText blank) (front : List Cell)
    (hfront : ∀ cell ∈ front, cell.isHeader = false) :
    Row.docField ⟨front ++ f.cells blank⟩ front.length = f := by
  have hdata : Row.dataCells ⟨front ++ f.cells blank⟩ = front ++ f.cells blank := by
    refine Row.dataCells_eq fun cell hcell => ?_
    rcases List.mem_append.mp hcell with h | h
    · exact hfront cell h
    · exact DocField.cells_data cell h
  have hcell : ∀ k, Row.dataCell? ⟨front ++ f.cells blank⟩ (front.length + k)
      = (f.cells blank)[k]?.map (·.text) := by
    intro k
    rw [Row.dataCell?, hdata, List.getElem?_append_right (by omega), Nat.add_sub_cancel_left]
  have hname : ((some (f.displayName.getD blank)).map renderedCell).filter (!·.isEmpty)
      = f.displayName := by
    cases hn : f.displayName with
    | none =>
      show (some (renderedCell blank)).filter _ = none
      rw [renderedCell_blank hblank]
      rfl
    | some name =>
      obtain ⟨hne, hshown⟩ := hf.name name hn
      show (some (renderedCell name)).filter _ = some name
      rw [hshown, Option.filter_some, hne]
      rfl
  have h0 := hcell 0
  rw [Nat.add_zero] at h0
  rw [Row.docField, h0, hcell 1, hcell 2]
  obtain ⟨displayName, typeText, notes⟩ := f
  have htype : renderedCell typeText = typeText := hf.typeText
  have hnotes : renderedCell notes = notes := hf.notes
  show DocField.mk (((some (displayName.getD blank)).map renderedCell).filter (!·.isEmpty))
    (renderedCell typeText) (renderedCell notes) = _
  rw [htype, hnotes]
  exact congrArg (DocField.mk · typeText notes) hname

namespace Layout
variable (w : Layout)

theorem front_data (key : MessageKey) : ∀ cell ∈ w.front key, cell.isHeader = false := by
  simp [front, Cell.datum]

theorem laterRows_docField (key : MessageKey) (hblank : ∀ n, IsBlankText (w.blank key n))
    (fs : List DocField) (hfs : ∀ f ∈ fs, f.IsRendered) (n : Nat) :
    (w.laterRows key n fs).map (·.docField 0) = fs := by
  induction fs generalizing n with
  | nil => rfl
  | cons f fs ih =>
    have hf := Row.docField_cells (hfs f List.mem_cons_self) (hblank n) [] fun _ h => by cases h
    rw [laterRows, List.map_cons, ih fun g hg => hfs g (List.mem_cons_of_mem f hg)]
    exact congrArg (· :: fs) hf

theorem rows_data (key : MessageKey) (fields : List DocField) :
    ∀ row ∈ w.rows key fields, row.cells ≠ [] ∧ ∀ cell ∈ row.cells, cell.isHeader = false := by
  have hlater : ∀ (fs : List DocField) (n : Nat), ∀ row ∈ w.laterRows key n fs,
      row.cells ≠ [] ∧ ∀ cell ∈ row.cells, cell.isHeader = false := by
    intro fs
    induction fs with
    | nil => intro n row hrow; cases hrow
    | cons f fs ih =>
      intro n row hrow
      rcases List.mem_cons.mp hrow with rfl | hrow
      · exact ⟨List.cons_ne_nil _ _, DocField.cells_data⟩
      · exact ih (n + 1) row hrow
  intro row hrow
  cases fields with
  | nil => cases hrow
  | cons f fs =>
    rcases List.mem_cons.mp hrow with rfl | hrow
    · refine ⟨List.cons_ne_nil _ _, fun cell hcell => ?_⟩
      rcases List.mem_append.mp hcell with h | h
      · exact w.front_data key cell h
      · exact DocField.cells_data cell h
    · exact hlater fs 1 row hrow

variable (found : DocumentedFields)

/-! ## reading tables -/

theorem headers_table (key : MessageKey) : (w.table found key).headers = headerRow.cells := by
  have hdata : ((w.rows key (found[key]?.getD [])).flatMap (·.cells)).filter (·.isHeader) = [] := by
    rw [List.filter_eq_nil_iff]
    intro cell hcell
    obtain ⟨row, hrow, hcell⟩ := List.mem_flatMap.mp hcell
    rw [(w.rows_data key _ row hrow).2 cell hcell]
    exact Bool.false_ne_true
  rw [table, Table.headers, List.flatMap_cons, List.filter_append, hdata, List.append_nil]
  rfl

theorem dataRows_table (key : MessageKey) :
    (w.table found key).dataRows = w.rows key (found[key]?.getD []) := by
  rw [table, Table.dataRows, List.filter_cons_of_neg (by decide), List.filter_eq_self]
  intro row hrow
  obtain ⟨hne, hdata⟩ := w.rows_data key _ row hrow
  obtain ⟨cell, hcell⟩ := List.exists_mem_of_ne_nil row.cells hne
  rw [List.any_eq_true]
  exact ⟨cell, hcell, by rw [hdata cell hcell]; rfl⟩

theorem idColumn_table (key : MessageKey) :
    (w.table found key).headerColumn? Labels.stock.packetId = some 0 := by
  rw [Table.headerColumn?, headers_table]
  decide +kernel

theorem nameColumn_table (key : MessageKey) : Labels.stock.nameColumn (w.table found key) = 3 := by
  rw [Labels.nameColumn, Table.headerColumn?, headers_table]
  decide +kernel

theorem idCell (key : MessageKey) (f : DocField) (blank : String) :
    Row.dataCell? ⟨w.front key ++ f.cells blank⟩ 0 = some (idText key.id) := rfl

variable {w found}

/-- **A written table lists what was written**, under the category and the direction of its key. -/
theorem listing?_table {key : MessageKey} {fields : List DocField}
    (hkey : found[key]? = some fields) (hne : fields ≠ [])
    (hfields : ∀ f ∈ fields, f.IsRendered) (hblank : ∀ n, IsBlankText (w.blank key n)) :
    Labels.stock.listing? (⟨some key.category, some key.direction⟩, w.table found key)
      = some (key, fields) := by
  obtain ⟨f, fs, rfl⟩ := List.exists_cons_of_ne_nil hne
  have hrows : (w.table found key).dataRows
      = ⟨w.front key ++ f.cells (w.blank key 0)⟩ :: w.laterRows key 1 fs := by
    rw [dataRows_table, hkey]
    rfl
  have hfirst : Row.docField ⟨w.front key ++ f.cells (w.blank key 0)⟩ 3 = f :=
    Row.docField_cells (hfields f List.mem_cons_self) (hblank 0) (w.front key) (w.front_data key)
  have hlater := w.laterRows_docField key hblank fs
    (fun g hg => hfields g (List.mem_cons_of_mem f hg)) 1
  simp only [Labels.listing?, idColumn_table, hrows, List.head?_cons, List.tail_cons, idCell,
    Option.bind_eq_bind, Option.bind_some, Option.getD_some, packetId?_idText, Labels.fieldsIn,
    nameColumn_table, hfirst, hlater]
  rfl

/-! ## reading documents -/

theorem direction?_heading (d : Direction) : Labels.stock.direction? d.heading = some d := by
  cases d <;> decide +kernel

variable (w found)

/-- each subsection sets the direction for its own tables, whatever was in force in front of it -/
theorem readings_directions (category : Category) (ds : List Direction) (c : Cursor) :
    Labels.stock.readings c (Section.visitsAll (ds.map (w.directionSection found category)))
      = ds.flatMap fun d =>
          (w.keysOf category d).map fun key => (⟨c.category, some d⟩, w.table found key) := by
  induction ds generalizing c with
  | nil => rfl
  | cons d ds ih =>
    have hd : Labels.stock.direction? (w.directionSection found category d).heading = some d :=
      direction?_heading d
    rw [List.map_cons, Section.visitsAll, Labels.readings_heading, hd, Option.some_or,
      directionSection, Section.visits, List.append_assoc, Labels.readings_tables, List.map_map]
    show _ ++ Labels.stock.readings _ ([] ++ Section.visitsAll _) = _
    rw [List.nil_append, ih, List.flatMap_cons]
    rfl

theorem readings_categories (cs : List Category)
    (hcs : ∀ category ∈ cs, Category.ofHeading? (w.heading category) = some category) (c : Cursor) :
    Labels.stock.readings c ((cs.map (w.categorySection found)).flatMap fun s =>
        Visit.chapter s.heading :: s.visits)
      = cs.flatMap fun category => (w.directions category).flatMap fun d =>
          (w.keysOf category d).map fun key => (⟨some category, some d⟩, w.table found key) := by
  induction cs generalizing c with
  | nil => rfl
  | cons category cs ih =>
    have hheading : Category.ofHeading? (w.categorySection found category).heading = some category :=
      hcs category List.mem_cons_self
    rw [List.map_cons, List.flatMap_cons, List.cons_append, Labels.readings_chapter, hheading,
      Labels.readings_append, ih fun next hnext => hcs next (List.mem_cons_of_mem category hnext),
      List.flatMap_cons]
    exact congrArg (· ++ _) (w.readings_directions found category (w.directions category) _)

variable {w found}

/-- the tables of a written document: one for each key, under the cursor of this key -/
theorem mem_readings_document (hw : w.Fits found) (reading : Cursor × Table) :
    reading ∈ Labels.stock.readings .start (w.document found).visits
      ↔ ∃ key ∈ found, reading = (⟨some key.category, some key.direction⟩, w.table found key) := by
  rw [document, Document.visits, w.readings_categories found w.categories hw.headings]
  constructor
  · intro h
    obtain ⟨category, -, h⟩ := List.mem_flatMap.mp h
    obtain ⟨d, -, h⟩ := List.mem_flatMap.mp h
    obtain ⟨key, hkey, rfl⟩ := List.mem_map.mp h
    obtain ⟨hmem, hplace⟩ := List.mem_filter.mp hkey
    obtain ⟨rfl, rfl⟩ := of_decide_eq_true hplace
    exact ⟨key, (hw.keys key).mp hmem, rfl⟩
  · rintro ⟨key, hkey, rfl⟩
    refine List.mem_flatMap.mpr ⟨key.category, hw.categories key hkey, ?_⟩
    refine List.mem_flatMap.mpr ⟨key.direction, hw.directions key hkey, ?_⟩
    refine List.mem_map.mpr ⟨key, ?_, rfl⟩
    exact List.mem_filter.mpr ⟨(hw.keys key).mpr hkey, decide_eq_true ⟨rfl, rfl⟩⟩

theorem mem_listings_document (hw : w.Fits found)
    (hfields : ∀ (key : MessageKey) (fields : List DocField), found[key]? = some fields →
      fields ≠ [] ∧ ∀ f ∈ fields, f.IsRendered)
    (key : MessageKey) (fields : List DocField) :
    fields ∈ Labels.stock.listings (w.document found) key ↔ found[key]? = some fields := by
  have hlists : ∀ written listed, found[written]? = some listed →
      Labels.stock.listingFor? key
        (⟨some written.category, some written.direction⟩, w.table found written)
        = if written = key then some listed else none := by
    intro written listed h
    obtain ⟨hne, hrendered⟩ := hfields written listed h
    rw [Labels.listingFor?, listing?_table h hne hrendered (hw.blank written), Option.bind_some]
  rw [Labels.listings, List.mem_filterMap]
  constructor
  · rintro ⟨reading, hreading, hlisted⟩
    obtain ⟨written, hwritten, rfl⟩ := (mem_readings_document hw reading).mp hreading
    obtain ⟨listed, h⟩ := Option.isSome_iff_exists.mp
      (Std.ExtTreeMap.mem_iff_isSome_getElem?.mp hwritten)
    rw [hlists written listed h] at hlisted
    split at hlisted
    · next hkey => rw [← hkey, h, hlisted]
    · cases hlisted
  · intro h
    have hreading := (mem_readings_document hw _).mpr ⟨key, KeyMap.mem_of_getElem? h, rfl⟩
    exact ⟨_, hreading, (hlists key fields h).trans (if_pos rfl)⟩

/-- **A written document reads back**: from it the stock reader finds the fields that were written,
for exactly the messages they were written for. -/
theorem fieldsOf_document (r : Registry) (found : DocumentedFields) (w : Layout)
    (hregistered : ∀ key ∈ found, (r.resolve? key).isSome)
    (hfields : ∀ (key : MessageKey) (fields : List DocField), found[key]? = some fields →
      fields ≠ [] ∧ ∀ f ∈ fields, f.IsRendered)
    (hw : w.Fits found) :
    ((Labels.ofConfig Config.stock).fieldsOf r (w.document found)).value = found := by
  refine Std.ExtTreeMap.ext_getElem? fun key => ?_
  show (Labels.stock.fieldsOf r (w.document found)).value[key]? = _
  have hmem := mem_listings_document hw hfields key
  rw [Labels.getElem?_fieldsOf]
  cases hkey : found[key]? with
  | none =>
    have hnil : Labels.stock.listings (w.document found) key = [] := by
      refine List.eq_nil_iff_forall_not_mem.mpr fun fields h => ?_
      rw [hmem, hkey] at h
      cases h
    rw [hnil]
    exact ite_self none
  | some fields =>
    have hlisted : Labels.stock.listings (w.document found) key ≠ [] :=
      List.ne_nil_of_mem ((hmem fields).mpr hkey)
    -- the fields of the last table are those of any other table for the key
    have hsame := (hmem _).mp (List.getLast_mem hlisted)
    rw [if_pos (hregistered key (KeyMap.mem_of_getElem? hkey)),
      List.getLast?_eq_some_getLast hlisted, ← hsame, hkey]

end Layout

/-- two messages, and a field without a name -/
def pingFields : DocumentedFields :=
  ((∅ : DocumentedFields).insert ⟨.status, .client, 0x1FF⟩ [⟨none, "Long", ""⟩]).insert
    ⟨.play, .server, 0⟩ [⟨some "Entity ID", "VarInt", ""⟩, ⟨some "Yaw", "Angle", "in steps"⟩]

/-- the later category first, under a heading in lower case, with a direction that stays empty -/
def pingLayout : Layout where
  categories := [.play, .status]
  heading category := if category = .play then " play" else "Status"
  directions category := if category = .play then [.server, .client] else [.client]
  keys := [⟨.play, .server, 0⟩, ⟨.status, .client, 0x1FF⟩]
  state key := key.category.javaName
  boundTo key := key.direction.javaName
  blank _ n := if n = 0 then "" else " \t"

def pingRegistry : Registry :=
  (Registry.empty.insert ⟨⟨.status, .client, 0x1FF⟩, "PING"⟩).insert ⟨⟨.play, .server, 0⟩, "SPAWN"⟩

theorem mem_pingLayout_keys (key : MessageKey) : key ∈ pingLayout.keys ↔ key ∈ pingFields := by
  have hkeys : pingFields.keys = pingLayout.keys.reverse := by decide +kernel
  rw [← Std.ExtTreeMap.mem_keys, hkeys, List.mem_reverse]

theorem pingLayout_fits : pingLayout.Fits pingFields where
  headings := by decide +kernel
  categories key hkey := by
    have hplaced : ∀ key ∈ pingLayout.keys, key.category ∈ pingLayout.categories := by decide
    exact hplaced key ((mem_pingLayout_keys key).mpr hkey)
  directions key hkey := by
    have hplaced : ∀ key ∈ pingLayout.keys,
        key.direction ∈ pingLayout.directions key.category := by decide
    exact hplaced key ((mem_pingLayout_keys key).mpr hkey)
  keys := mem_pingLayout_keys
  blank _ n := by
    show IsBlankText (if n = 0 then "" else " \t")
    split <;> decide

theorem fieldsOf_document_ping :
    (∀ key ∈ pingFields, (pingRegistry.resolve? key).isSome) ∧
    (∀ (key : MessageKey) (fields : List DocField), pingFields[key]? = some fields →
      fields ≠ [] ∧ ∀ f ∈ fields, f.IsRendered) ∧
    pingLayout.Fits pingFields ∧
    ((Labels.ofConfig Config.stock).fieldsOf pingRegistry (pingLayout.document pingFields)).value
      = pingFields := by
  have hregistered : ∀ key ∈ pingFields, (pingRegistry.resolve? key).isSome := by
    have hkeys : ∀ key ∈ pingLayout.keys, (pingRegistry.resolve? key).isSome := by decide +kernel
    exact fun key hkey => hkeys key ((mem_pingLayout_keys key).mpr hkey)
  have hfields : ∀ (key : MessageKey) (fields : List DocField), pingFields[key]? = some fields →
      fields ≠ [] ∧ ∀ f ∈ fields, f.IsRendered := by
    have hlists : ∀ entry ∈ pingFields.toList,
        entry.2 ≠ [] ∧ ∀ f ∈ entry.2, f.IsRendered := by decide +kernel
    exact fun key fields h =>
      hlists (key, fields) (Std.ExtTreeMap.mem_toList_iff_getElem?_eq_some.mpr h)
  exact ⟨hregistered, hfields, pingLayout_fits,
    Layout.fieldsOf_document pingRegistry pingFields pingLayout hregistered hfields pingLayout_fits⟩

end WireWrapper
