import WireWrapper.Proofs.Documented.LastTable
import WireWrapper.Proofs.Warnings

/-!
# No message table is lost without a warning

A table counts as that of a message if it stands under a category and a direction, has the header of
the number and a row of data.  Each of these either adds an entry to what was found or costs exactly
one warning: its number cannot be read, nobody knows its key, or it takes the place of an earlier
table for the same key.

* `Labels.isMessageTable`     the tables that count, without a look at their number;
* `readTable_balance`         one table: an entry more, or a warning;
* `visits_balance`            a row of visits, by induction with the fields found so far free;
* `Labels.listing?_rows`      a table lists one field for each row of data;
* `fieldsOf_balance`          entries and warnings of a whole document, and what the entries are.
-/

namespace WireWrapper
namespace Labels
variable (l : Labels) (r : Registry)

/-- whether a table is taken for that of a message, under the cursor in force -/
def isMessageTable (reading : Cursor × Table) : Bool :=
  reading.1.category.isSome && reading.1.direction.isSome &&
    reading.2.headers.any (fun cell => headingForm cell.text == l.packetId) &&
    !reading.2.dataRows.isEmpty

theorem headerColumn?_isSome (table : Table) (label : String) :
    (table.headerColumn? label).isSome
      = table.headers.any fun cell => headingForm cell.text == label :=
  List.findIdx?_isSome

/-! ## one table -/

theorem keep_balance (m : MessageType) (fields : List DocField) (found : DocumentedFields) :
    (keep m fields found).value.size + (keep m fields found).warnings = found.size + 1 := by
  have hwarnings : (keep m fields found).warnings = if found.contains m.key then 1 else 0 := by
    rw [keep, Logged.warnings_bind, Logged.warnings_bind, Logged.warnings_log,
      Logged.warnings_logWhen, Logged.warnings_pure]
    cases found.contains m.key <;> rfl
  rw [hwarnings, keep_value, Std.ExtTreeMap.size_insert]
  split <;> omega

theorem readMessage_balance (category : Category) (direction : Direction) (table : Table)
    (idColumn : Nat) (first : Row) (rest : List Row) (found : DocumentedFields) :
    (l.readMessage r category direction table idColumn first rest found).value.size
        + (l.readMessage r category direction table idColumn first rest found).warnings
      = found.size + 1 := by
  unfold readMessage
  dsimp only
  cases packetId? ((first.dataCell? idColumn).getD "") with
  | none => rfl
  | some id =>
    dsimp only
    cases r.resolve? ⟨category, direction, id⟩ with
    | none => rfl
    | some m => exact keep_balance m (l.fieldsIn table first rest) found

/-- one table: an entry more or a warning if it is that of a message, else neither -/
theorem readTable_balance (c : Cursor) (t : Table) (found : DocumentedFields) :
    (l.readTable r c.category c.direction t found).value.size
        + (l.readTable r c.category c.direction t found).warnings
      = found.size + if l.isMessageTable (c, t) then 1 else 0 := by
  have hheader := headerColumn?_isSome t l.packetId
  unfold readTable isMessageTable
  rw [← hheader]
  cases c.category with
  | none => rfl
  | some category =>
    cases c.direction with
    | none => rfl
    | some direction =>
      cases t.headerColumn? l.packetId with
      | none => rfl
      | some idColumn =>
        cases t.dataRows with
        | nil => rfl
        | cons first rest => exact l.readMessage_balance r category direction t idColumn first rest found

/-! ## documents -/

theorem visits_balance (vs : List Visit) (p : Pass) :
    (vs.foldlM (l.visit r) p).value.found.size + (vs.foldlM (l.visit r) p).warnings
      = p.found.size + (l.readings p.toCursor vs).countP l.isMessageTable := by
  induction vs generalizing p with
  | nil => rfl
  | cons v vs ih =>
    -- a heading costs no warning; a table is settled on the spot
    have hstep : (l.visit r p v).value.found.size + (l.visit r p v).warnings
          + (l.readings (l.visit r p v).value.toCursor vs).countP l.isMessageTable
        = p.found.size + (l.readings p.toCursor (v :: vs)).countP l.isMessageTable := by
      cases v with
      | chapter heading =>
        have hquiet : (l.visit r p (.chapter heading)).warnings = 0 := by
          rw [visit_chapter, Logged.warnings_bind, Logged.warnings_logWhen, Logged.warnings_pure,
            Event.isWarning_ofMessage]
          cases (Category.ofHeading? heading).isNone <;> rfl
        rw [hquiet, readings_chapter]
        rfl
      | heading heading =>
        rw [readings_heading]
        rfl
      | table t =>
        have htable := l.readTable_balance r p.toCursor t p.found
        rw [visit_table, Logged.warnings_bind, Logged.warnings_pure, readings_table,
          List.countP_cons]
        show (l.readTable r p.category p.direction t p.found).value.size + _
          + (l.readings p.toCursor vs).countP l.isMessageTable = _
        omega
    have hrest := ih (l.visit r p v).value
    rw [List.foldlM_cons, Logged.warnings_bind, Logged.value_bind]
    omega

/-- the tables of messages in a document, each with the cursor in force -/
def messageTables (d : Document) : List (Cursor × Table) :=
  (l.readings .start d.visits).filter l.isMessageTable

theorem fieldsOf_size_add_warnings (d : Document) :
    (l.fieldsOf r d).value.size + (l.fieldsOf r d).warnings = (l.messageTables d).length := by
  have hpass := l.visits_balance r d.visits ⟨.start, ∅⟩
  have hfinish : ∀ found, (finish found).warnings = 0 := fun _ => rfl
  rw [fieldsOf_eq_pass, Logged.value_bind, Logged.warnings_bind, hfinish, messageTables,
    ← List.countP_eq_length_filter]
  rw [Std.ExtTreeMap.size_empty, Nat.zero_add] at hpass
  exact hpass

/-! ## entries -/

theorem listing?_rows {reading : Cursor × Table} {key : MessageKey} {fields : List DocField}
    (h : l.listing? reading = some (key, fields)) :
    l.isMessageTable reading = true ∧ fields ≠ [] ∧
      fields.length = reading.2.dataRows.length := by
  have hheader := headerColumn?_isSome reading.2 l.packetId
  unfold isMessageTable
  rw [← hheader]
  unfold listing? at h
  simp only [Option.bind_eq_bind, Option.bind_eq_some_iff] at h
  obtain ⟨category, hcategory, direction, hdirection, idColumn, hcolumn, first, hfirst, id, -, h⟩ :=
    h
  obtain ⟨rest, hrows⟩ := List.head?_eq_some_iff.mp hfirst
  obtain ⟨-, rfl⟩ := Prod.mk.inj (Option.some.inj h)
  rw [hcategory, hdirection, hcolumn, hrows, fieldsIn]
  exact ⟨rfl, List.cons_ne_nil _ _, by simp⟩

/-- an entry is what the last table for its key lists -/
theorem getElem?_fieldsOf_split {d : Document} {key : MessageKey} {fields : List DocField}
    (h : (l.fieldsOf r d).value[key]? = some fields) :
    ∃ before reading after, l.readings .start d.visits = before ++ reading :: after ∧
      l.listing? reading = some (key, fields) ∧ ∀ later ∈ after, l.listingFor? key later = none := by
  rw [getElem?_fieldsOf] at h
  split at h
  · rw [listings, List.getLast?_filterMap, List.findSome?_eq_some_iff] at h
    obtain ⟨after, reading, before, hsplit, hlisted, hafter⟩ := h
    refine ⟨before.reverse, reading, after.reverse, ?_, ?_, ?_⟩
    · rw [← List.reverse_reverse (l.readings .start d.visits), hsplit]
      simp
    · rw [listingFor?, Option.bind_eq_some_iff] at hlisted
      obtain ⟨⟨described, listed⟩, hlisting, hkey⟩ := hlisted
      dsimp only at hkey
      split at hkey
      · next hdescribed => rw [hlisting, hdescribed, Option.some.inj hkey]
      · cases hkey
    · intro later hlater
      exact hafter later (List.mem_reverse.mp hlater)
  · cases h

/-- **Entries and warnings together are the tables of messages**, and an entry has one field for each
row of data of its table, the last one for its key. -/
theorem fieldsOf_balance (d : Document) :
    (l.fieldsOf r d).value.size + (l.fieldsOf r d).warnings = (l.messageTables d).length ∧
    ∀ key fields, (l.fieldsOf r d).value[key]? = some fields →
      ∃ before reading after, l.readings .start d.visits = before ++ reading :: after ∧
        l.listing? reading = some (key, fields) ∧
        (∀ later ∈ after, l.listingFor? key later = none) ∧
        l.isMessageTable reading = true ∧ fields ≠ [] ∧
        fields.length = reading.2.dataRows.length := by
  refine ⟨l.fieldsOf_size_add_warnings r d, fun key fields hentry => ?_⟩
  obtain ⟨before, reading, after, hsplit, hlisting, hlast⟩ := l.getElem?_fieldsOf_split r hentry
  exact ⟨before, reading, after, hsplit, hlisting, hlast, l.listing?_rows hlisting⟩

end Labels

/-- Three tables of messages, the fourth stands under no category: one entry, and a warning for the
message nobody knows and another for the one that is listed again. -/
theorem fieldsOf_balance_spawn :
    ((Labels.ofConfig .stock).fieldsOf spawnRegistry spawnDocument).value.size
        + ((Labels.ofConfig .stock).fieldsOf spawnRegistry spawnDocument).warnings = 3 ∧
    ((Labels.ofConfig .stock).fieldsOf spawnRegistry spawnDocument).warnings = 2 ∧
    ((Labels.ofConfig .stock).fieldsOf spawnRegistry spawnDocument).value[
        (⟨.play, .server, 0⟩ : MessageKey)]? = some [⟨some "Entity ID", "VarInt", ""⟩] ∧
    ∃ before reading after,
      (Labels.ofConfig .stock).readings .start spawnDocument.visits
        = before ++ reading :: after ∧
      reading.2.dataRows.length = 1 := by
  obtain ⟨hsum, hentries⟩ :=
    Labels.fieldsOf_balance (Labels.ofConfig .stock) spawnRegistry spawnDocument
  have htables : ((Labels.ofConfig .stock).messageTables spawnDocument).length = 3 := by
    decide
  have hwarnings : ((Labels.ofConfig .stock).fieldsOf spawnRegistry spawnDocument).warnings = 2 := by
    decide
  have hentry : ((Labels.ofConfig .stock).fieldsOf spawnRegistry spawnDocument).value[
      (⟨.play, .server, 0⟩ : MessageKey)]? = some [⟨some "Entity ID", "VarInt", ""⟩] := by
    rw [Labels.getElem?_fieldsOf]
    decide
  obtain ⟨before, reading, after, hsplit, -, -, -, -, hlength⟩ := hentries _ _ hentry
  exact ⟨hsum.trans htables, hwarnings, hentry, before, reading, after, hsplit, hlength.symm⟩

end WireWrapper
