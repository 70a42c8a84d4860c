import WireWrapper.Proofs.Documented.ReadingOrder

/-!
# The last table of a message counts

What a reader finds depends on the tables of a document and on what is in force at each of them.
Some tables list the fields of a message; of all tables for one registered message the last one
counts, and every other table might as well not be there.

* `Labels.readings`      the tables of a document in order, each with the cursor in force;
* `Labels.listing?`      the key and the fields that a table lists under a cursor;
* `Labels.listings`      the field lists that the tables of a document give for a key;
* `Labels.store`         what becomes of the fields found so far when a table is read;
* `Document.eraseTable`  a document without one of its tables;
* `fieldsOf_last_table`  the pass, the last table for each key, and the tables that do not count.
-/

namespace WireWrapper
namespace Labels
variable (l : Labels) (r : Registry)

/-! ## tables under their cursors -/

/-- the tables among visits, each with the cursor in force -/
def readings : Cursor → List Visit → List (Cursor × Table)
  | _, [] => []
  | c, .chapter heading :: vs => readings (l.turn c (.chapter heading)) vs
  | c, .heading heading :: vs => readings (l.turn c (.heading heading)) vs
  | c, .table t :: vs => (c, t) :: readings c vs

theorem readings_table (c : Cursor) (t : Table) (vs : List Visit) :
    l.readings c (.table t :: vs) = (c, t) :: l.readings c vs := rfl

theorem readings_heading (c : Cursor) (heading : String) (vs : List Visit) :
    l.readings c (.heading heading :: vs)
      = l.readings ⟨c.category, (l.direction? heading).or c.direction⟩ vs := by
  rw [readings, turn]

theorem readings_chapter (c : Cursor) (heading : String) (vs : List Visit) :
    l.readings c (.chapter heading :: vs)
      = l.readings ⟨Category.ofHeading? heading, c.direction⟩ vs := by
  rw [readings, turn]

theorem readings_append (c : Cursor) (vs ws : List Visit) :
    l.readings c (vs ++ ws) = l.readings c vs ++ l.readings (vs.foldl l.turn c) ws := by
  induction vs generalizing c with
  | nil => rfl
  | cons v vs ih =>
    cases v with
    | chapter heading => rw [List.cons_append, readings, readings, ih, List.foldl_cons]
    | heading heading => rw [List.cons_append, readings, readings, ih, List.foldl_cons]
    | table t =>
      rw [List.cons_append, readings_table, readings_table, ih, List.foldl_cons, turn,
        List.cons_append]

theorem readings_tables (c : Cursor) (tables : List Table) (vs : List Visit) :
    l.readings c (tables.map Visit.table ++ vs) = tables.map (c, ·) ++ l.readings c vs := by
  induction tables with
  | nil => rfl
  | cons t tables ih => rw [List.map_cons, List.cons_append, readings_table, ih]; rfl

/-! ## what a table lists -/

/-- the key that a table describes under a cursor, and the fields that it lists: none without a
category, a direction, a header for the number, a data row, or a number in it -/
def listing? (reading : Cursor × Table) : Option (MessageKey × List DocField) := do
  let category ← reading.1.category
  let direction ← reading.1.direction
  let idColumn ← reading.2.headerColumn? l.packetId
  let first ← reading.2.dataRows.head?
  let id ← packetId? ((first.dataCell? idColumn).getD "")
  pure (⟨category, direction, id⟩, l.fieldsIn reading.2 first reading.2.dataRows.tail)

/-- the fields that a table lists for a key, if it describes this key -/
def listingFor? (key : MessageKey) (reading : Cursor × Table) : Option (List DocField) :=
  (l.listing? reading).bind fun (described, fields) =>
    if described = key then some fields else none

/-- the field lists that the tables of a document give for a key, in order -/
def listings (d : Document) (key : MessageKey) : List (List DocField) :=
  (l.readings .start d.visits).filterMap (l.listingFor? key)

/-- the fields found so far and one more table: what it lists for a registered key takes the place
of what was listed before -/
def store (found : DocumentedFields) (reading : Cursor × Table) : DocumentedFields :=
  match l.listing? reading with
  | none => found
  | some (key, fields) => if (r.resolve? key).isSome then found.insert key fields else found

theorem keep_value (m : MessageType) (fields : List DocField) (found : DocumentedFields) :
    (keep m fields found).value = found.insert m.key fields := rfl

theorem readMessage_value (category : Category) (direction : Direction) (table : Table)
    (idColumn : Nat) (first : Row) (rest : List Row) (found : DocumentedFields) :
    (l.readMessage r category direction table idColumn first rest found).value
      = match packetId? ((first.dataCell? idColumn).getD "") with
        | none => found
        | some id =>
          if (r.resolve? ⟨category, direction, id⟩).isSome then
            found.insert ⟨category, direction, id⟩ (l.fieldsIn table first rest)
          else found := by
  unfold readMessage
  dsimp only
  cases packetId? ((first.dataCell? idColumn).getD "") with
  | none => rfl
  | some id =>
    dsimp only
    cases hm : r.resolve? ⟨category, direction, id⟩ with
    | none => rfl
    | some m =>
      dsimp only
      rw [keep_value, Registry.resolve?_key hm, Option.isSome_some, if_pos rfl]

theorem readTable_value (c : Cursor) (t : Table) (found : DocumentedFields) :
    (l.readTable r c.category c.direction t found).value = l.store r found (c, t) := by
  unfold readTable store listing?
  cases c.category with
  | none => rfl
  | some category =>
    cases c.direction with
    | none => rfl
    | some direction =>
      cases t.headerColumn? l.packetId with
      | none => rfl
      | some idColumn =>
        cases t.dataRows with
        | nil => rfl
        | cons first rest =>
          refine (l.readMessage_value r category direction t idColumn first rest found).trans ?_
          simp only [Option.bind_eq_bind, Option.bind_some, List.head?_cons, List.tail_cons]
          cases packetId? ((first.dataCell? idColumn).getD "") with
          | none => rfl
          | some id => rfl

theorem visits_found (vs : List Visit) (p : Pass) :
    (vs.foldlM (l.visit r) p).value.found
      = (l.readings p.toCursor vs).foldl (l.store r) p.found := by
  induction vs generalizing p with
  | nil => rfl
  | cons v vs ih =>
    rw [List.foldlM_cons, Logged.value_bind, ih]
    cases v with
    | chapter heading =>
      rw [visit_chapter, Logged.value_bind, Logged.value_pure, readings_chapter]
    | heading heading =>
      rw [visit_heading, Logged.value_pure, readings_heading]
    | table t =>
      rw [visit_table, Logged.value_bind, Logged.value_pure, readTable_value, readings_table,
        List.foldl_cons]

theorem fieldsOf_value (d : Document) :
    (l.fieldsOf r d).value = (l.readings .start d.visits).foldl (l.store r) ∅ := by
  rw [fieldsOf_eq_pass]
  exact l.visits_found r d.visits ⟨.start, ∅⟩

/-! ## the last table -/

theorem getElem?_store (found : DocumentedFields) (reading : Cursor × Table) (key : MessageKey) :
    (l.store r found reading)[key]?
      = (if (r.resolve? key).isSome then l.listingFor? key reading else none).or found[key]? := by
  rw [store, listingFor?]
  rcases l.listing? reading with _ | ⟨described, fields⟩
  · simp
  show (if (r.resolve? described).isSome then found.insert described fields else found)[key]?
    = (if (r.resolve? key).isSome then (if described = key then some fields else none)
        else none).or found[key]?
  by_cases hkey : described = key
  · obtain rfl := hkey
    by_cases hr : (r.resolve? described).isSome
    · rw [if_pos hr, if_pos hr, if_pos rfl, KeyMap.getElem?_insert, if_pos rfl, Option.some_or]
    · rw [if_neg hr, if_neg hr, Option.none_or]
  · rw [if_neg hkey, ite_self, Option.none_or]
    split
    · rw [KeyMap.getElem?_insert, if_neg hkey]
    · rfl

/-- **The last table for a registered key counts.**  Induction on the readings with the fields found
so far free: what stands behind a table overrides it. -/
theorem getElem?_foldl_store (readings : List (Cursor × Table)) (found : DocumentedFields)
    (key : MessageKey) :
    (readings.foldl (l.store r) found)[key]?
      = (if (r.resolve? key).isSome then (readings.filterMap (l.listingFor? key)).getLast?
          else none).or found[key]? := by
  induction readings generalizing found with
  | nil => simp
  | cons reading readings ih =>
    -- the rest decides if it lists the key at all, else this table, else what was found before
    rw [List.foldl_cons, ih, getElem?_store]
    by_cases hr : (r.resolve? key).isSome
    · rw [if_pos hr, if_pos hr, if_pos hr]
      cases hl : l.listingFor? key reading with
      | none => rw [List.filterMap_cons_none hl, Option.none_or]
      | some fields =>
        rw [List.filterMap_cons_some hl, List.getLast?_cons]
        cases (readings.filterMap (l.listingFor? key)).getLast? <;> rfl
    · rw [if_neg hr, if_neg hr, if_neg hr, Option.none_or]

theorem getElem?_fieldsOf (d : Document) (key : MessageKey) :
    (l.fieldsOf r d).value[key]?
      = if (r.resolve? key).isSome then (l.listings d key).getLast? else none := by
  rw [fieldsOf_value, getElem?_foldl_store, Std.ExtTreeMap.getElem?_empty, Option.or_none, listings]

end Labels

/-! ## a document without one of its tables -/

def Visit.isTable : Visit → Bool
  | .table _ => true
  | _ => false

def Visit.eraseTable : (n : Nat) → List Visit → List Visit
  | _, [] => []
  | 0, .table _ :: vs => vs
  | n + 1, .table t :: vs => .table t :: eraseTable n vs
  | n, v :: vs => v :: eraseTable n vs

mutual

/-- a section without its `n`-th table, subsections included -/
def Section.eraseTable : Section → (n : Nat) → Section
  | ⟨heading, tables, subsections⟩, n =>
    if n < tables.length then ⟨heading, tables.eraseIdx n, subsections⟩
    else ⟨heading, tables, Section.eraseTableIn subsections (n - tables.length)⟩

def Section.eraseTableIn : List Section → (n : Nat) → List Section
  | [], _ => []
  | s :: ss, n =>
    if n < s.visits.countP Visit.isTable then s.eraseTable n :: ss
    else s :: Section.eraseTableIn ss (n - s.visits.countP Visit.isTable)

end

def Document.eraseTable (d : Document) (n : Nat) : Document :=
  ⟨Section.eraseTableIn d.sections n⟩

theorem Visit.eraseTable_append (n : Nat) (vs ws : List Visit) :
    Visit.eraseTable n (vs ++ ws)
      = if n < vs.countP Visit.isTable then Visit.eraseTable n vs ++ ws
        else vs ++ Visit.eraseTable (n - vs.countP Visit.isTable) ws := by
  induction vs generalizing n with
  | nil => simp
  | cons v vs ih =>
    cases v with
    | chapter heading =>
      show Visit.chapter heading :: Visit.eraseTable n (vs ++ ws) = _
      rw [ih, List.countP_cons_of_neg Bool.false_ne_true]
      split <;> rfl
    | heading heading =>
      show Visit.heading heading :: Visit.eraseTable n (vs ++ ws) = _
      rw [ih, List.countP_cons_of_neg Bool.false_ne_true]
      split <;> rfl
    | table t =>
      rw [List.countP_cons_of_pos rfl]
      cases n with
      | zero =>
        rw [if_pos (by omega)]
        rfl
      | succ n =>
        show Visit.table t :: Visit.eraseTable n (vs ++ ws) = _
        rw [ih, Nat.add_sub_add_right]
        by_cases hn : n < vs.countP Visit.isTable
        · rw [if_pos hn, if_pos (by omega)]
          rfl
        · rw [if_neg hn, if_neg (by omega)]
          rfl

theorem countP_isTable_map (tables : List Table) :
    (tables.map Visit.table).countP Visit.isTable = tables.length := by
  rw [List.countP_map]
  exact List.countP_eq_length.mpr fun _ _ => rfl

theorem Visit.eraseTable_map (n : Nat) (tables : List Table) :
    Visit.eraseTable n (tables.map Visit.table) = (tables.eraseIdx n).map Visit.table := by
  induction tables generalizing n with
  | nil => rfl
  | cons t tables ih =>
    cases n with
    | zero => rfl
    | succ n => exact congrArg (Visit.table t :: ·) (ih n)

theorem Section.heading_eraseTable (s : Section) (n : Nat) :
    (s.eraseTable n).heading = s.heading := by
  obtain ⟨heading, tables, subsections⟩ := s
  rw [Section.eraseTable]
  split <;> rfl

mutual

theorem Section.visits_eraseTable (s : Section) (n : Nat) :
    (s.eraseTable n).visits = Visit.eraseTable n s.visits := by
  obtain ⟨heading, tables, subsections⟩ := s
  rw [Section.eraseTable, Section.visits, Visit.eraseTable_append, countP_isTable_map]
  split
  · rw [Section.visits, Visit.eraseTable_map]
  · rw [Section.visits, Section.visitsAll_eraseTableIn subsections]

theorem Section.visitsAll_eraseTableIn (ss : List Section) (n : Nat) :
    Section.visitsAll (Section.eraseTableIn ss n) = Visit.eraseTable n (Section.visitsAll ss) := by
  match ss with
  | [] => rfl
  | s :: ss =>
    rw [Section.eraseTableIn, Section.visitsAll]
    show _ = Visit.heading s.heading :: Visit.eraseTable n (s.visits ++ Section.visitsAll ss)
    rw [Visit.eraseTable_append]
    split
    · rw [Section.visitsAll, Section.heading_eraseTable, Section.visits_eraseTable s]
    · rw [Section.visitsAll, Section.visitsAll_eraseTableIn ss]

end

theorem Document.visits_eraseTable (d : Document) (n : Nat) :
    (d.eraseTable n).visits = Visit.eraseTable n d.visits := by
  obtain ⟨ss⟩ := d
  show (Section.eraseTableIn ss n).flatMap (fun s => Visit.chapter s.heading :: s.visits)
    = Visit.eraseTable n (ss.flatMap fun s => Visit.chapter s.heading :: s.visits)
  induction ss generalizing n with
  | nil => rfl
  | cons s ss ih =>
    rw [Section.eraseTableIn, List.flatMap_cons]
    show _ = Visit.chapter s.heading :: Visit.eraseTable n (s.visits ++ _)
    rw [Visit.eraseTable_append]
    split
    · rw [List.flatMap_cons, Section.heading_eraseTable, Section.visits_eraseTable]
      rfl
    · rw [List.flatMap_cons, ih]
      rfl

namespace Labels
variable (l : Labels) (r : Registry)

theorem readings_eraseTable (c : Cursor) (n : Nat) (vs : List Visit) :
    l.readings c (Visit.eraseTable n vs) = (l.readings c vs).eraseIdx n := by
  induction vs generalizing c n with
  | nil => rfl
  | cons v vs ih =>
    cases v with
    | chapter heading =>
      show l.readings c (.chapter heading :: Visit.eraseTable n vs) = _
      rw [readings_chapter, readings_chapter, ih]
    | heading heading =>
      show l.readings c (.heading heading :: Visit.eraseTable n vs) = _
      rw [readings_heading, readings_heading, ih]
    | table t =>
      cases n with
      | zero => rfl
      | succ n =>
        show l.readings c (.table t :: Visit.eraseTable n vs) = _
        rw [readings_table, readings_table, ih, List.eraseIdx_cons_succ]

theorem store_of_unregistered {reading : Cursor × Table}
    (h : ∀ key fields, l.listing? reading = some (key, fields) → r.resolve? key = none)
    (found : DocumentedFields) : l.store r found reading = found := by
  rw [store]
  cases hl : l.listing? reading with
  | none => rfl
  | some listing =>
    have hr := h listing.1 listing.2 hl
    show (if (r.resolve? listing.1).isSome then _ else found) = found
    rw [hr]
    rfl

theorem foldl_store_eraseIdx (readings : List (Cursor × Table)) (n : Nat)
    (h : ∀ reading, readings[n]? = some reading → ∀ found, l.store r found reading = found)
    (found : DocumentedFields) :
    (readings.eraseIdx n).foldl (l.store r) found = readings.foldl (l.store r) found := by
  induction readings generalizing n found with
  | nil => rfl
  | cons reading readings ih =>
    cases n with
    | zero => rw [List.eraseIdx_cons_zero, List.foldl_cons, h reading rfl]
    | succ n =>
      rw [List.eraseIdx_cons_succ, List.foldl_cons, List.foldl_cons]
      exact ih n (fun next hnext => h next hnext) _

/-- **Reading a document**: one pass from the top; each registered key has the fields of the last
table that lists them for it, and no other key has any; and a table that lists nothing for a
registered key may be taken out. -/
theorem fieldsOf_last_table (d : Document) :
    (l.fieldsOf r d = l.pass r d >>= fun p => finish p.found) ∧
    (∀ key, (l.fieldsOf r d).value[key]?
      = if (r.resolve? key).isSome then (l.listings d key).getLast? else none) ∧
    (∀ key ∈ (l.fieldsOf r d).value, (r.resolve? key).isSome) ∧
    ∀ n, (∀ reading key fields, (l.readings .start d.visits)[n]? = some reading →
        l.listing? reading = some (key, fields) → r.resolve? key = none) →
      (l.fieldsOf r (d.eraseTable n)).value = (l.fieldsOf r d).value := by
  refine ⟨l.fieldsOf_eq_pass r d, l.getElem?_fieldsOf r d, fun key hkey => ?_, fun n hn => ?_⟩
  · by_cases hr : (r.resolve? key).isSome
    · exact hr
    · have hnone := l.getElem?_fieldsOf r d key
      rw [if_neg hr] at hnone
      rw [Std.ExtTreeMap.mem_iff_isSome_getElem?, hnone] at hkey
      cases hkey
  · rw [fieldsOf_value, fieldsOf_value, Document.visits_eraseTable, readings_eraseTable]
    refine l.foldl_store_eraseIdx r _ n (fun reading hreading => ?_) ∅
    exact l.store_of_unregistered r fun key fields => hn reading key fields hreading

end Labels

def oneFieldTable (id name : String) : Table :=
  ⟨[⟨["Packet ID", "Field Name", "Field Type", "Notes"].map (⟨·, true⟩)⟩,
    ⟨[id, name, "VarInt", ""].map (⟨·, false⟩)⟩]⟩

/-- a document whose direction is named once: a table for a message, one for a message nobody knows,
one below a heading that is no category, and the first message again -/
def spawnDocument : Document := ⟨[
  ⟨"Play", [], [⟨"Clientbound", [oneFieldTable "0x00" "Entity", oneFieldTable "0x7F" "Flags"], []⟩]⟩,
  ⟨"Definitions", [oneFieldTable "0x00" "Term"], []⟩,
  ⟨"Play", [oneFieldTable "0x00" "Entity ID"], []⟩]⟩

/-- the first message, and no other -/
def spawnRegistry : Registry := Registry.empty.insert ⟨⟨.play, .server, 0⟩, "SPAWN_ENTITY"⟩

theorem fieldsOf_last_table_spawn :
    ((Labels.ofConfig .stock).readings .start spawnDocument.visits)[1]?.bind
        (Labels.ofConfig .stock).listing?
      = some (⟨.play, .server, 0x7F⟩, [⟨some "Flags", "VarInt", ""⟩]) ∧
    spawnRegistry.resolve? ⟨.play, .server, 0x7F⟩ = none ∧
    ((Labels.ofConfig .stock).fieldsOf spawnRegistry (spawnDocument.eraseTable 1)).value
      = ((Labels.ofConfig .stock).fieldsOf spawnRegistry spawnDocument).value ∧
    ((Labels.ofConfig .stock).fieldsOf spawnRegistry spawnDocument).value[
        (⟨.play, .server, 0⟩ : MessageKey)]?
      = some [⟨some "Entity ID", "VarInt", ""⟩] := by
  have hlisting : ((Labels.ofConfig .stock).readings .start spawnDocument.visits)[1]?.bind
        (Labels.ofConfig .stock).listing?
      = some (⟨.play, .server, 0x7F⟩, [⟨some "Flags", "VarInt", ""⟩]) := by decide +kernel
  have hunknown : spawnRegistry.resolve? ⟨.play, .server, 0x7F⟩ = none := by decide +kernel
  obtain ⟨-, hlast, -, herase⟩ :=
    Labels.fieldsOf_last_table (Labels.ofConfig .stock) spawnRegistry spawnDocument
  refine ⟨hlisting, hunknown, herase 1 fun reading key fields hreading hlisted => ?_, ?_⟩
  · rw [hreading, Option.bind_some, hlisted] at hlisting
    obtain ⟨rfl, -⟩ := Prod.mk.inj (Option.some.inj hlisting)
    exact hunknown
  · rw [hlast]
    decide +kernel

end WireWrapper
