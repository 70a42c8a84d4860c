import WireWrapper.Proofs.WireOrder.Picks

/-!
# The usual scan reads a stream block by block

`firstReadPerLine` walks along a stream with one bit.  Its answer can be read off without any state:
cut the stream at its line markers, drop what stands before the first of them, and take the first
instance field read of each block.

* `Instruction.read?`        owner and name of an instance field read;
* `lineBlocks`               what stands behind each line marker, up to the next one;
* `lineRead?`, `lineReads`   the name that a block writes; the names of all blocks;
* `picks_firstReadPerLine`   the bit and the blocks pick the same names;
* `Hierarchy.lineReading`    the scan, block by block.

A first read of another type gives no name, but no later read of its block does either.
-/

namespace WireWrapper

/-! ## blocks -/

def Instruction.isLine : Instruction → Bool
  | .line _ => true
  | _ => false

/-- owner and name of the instance field that an instruction reads -/
def Instruction.read? : Instruction → Option (String × String)
  | .field .getField owner name => some (owner, name)
  | _ => none

theorem Instruction.eq_line {i : Instruction} (hi : i.isLine = true) : ∃ n, i = .line n := by
  cases i with
  | line n => exact ⟨n, rfl⟩
  | field access owner name => cases hi
  | other code => cases hi

theorem Instruction.eq_getField {i : Instruction} {owner name : String}
    (hr : i.read? = some (owner, name)) : i = .field .getField owner name := by
  cases i with
  | line n => cases hr
  | other code => cases hr
  | field access o n => cases access <;> simp_all [Instruction.read?]

/-- what stands behind each line marker, up to the next one -/
def lineBlocks (is : List Instruction) : List (List Instruction) :=
  (is.splitOnP Instruction.isLine).tail

/-- the name that a block writes: that of its first read, if the type itself is read -/
def lineRead? (type : String) (block : List Instruction) : Option String :=
  (block.findSome? Instruction.read?).bind fun (owner, name) =>
    if owner = type then some name else none

/-- the names that the blocks of a stream write -/
def lineReads (type : String) (is : List Instruction) : List String :=
  (lineBlocks is).filterMap (lineRead? type)

theorem lineRead?_nil (type : String) : lineRead? type [] = none := rfl

theorem lineRead?_read (type owner name : String) (block : List Instruction) :
    lineRead? type (.field .getField owner name :: block)
      = if owner = type then some name else none := rfl

theorem lineRead?_cons {i : Instruction} (hr : i.read? = none) (type : String)
    (block : List Instruction) : lineRead? type (i :: block) = lineRead? type block := by
  rw [lineRead?, List.findSome?_cons_of_isNone (by rw [hr]; rfl), lineRead?]

/-! ## one instruction in front -/

theorem splitOnP_line (n : UInt32) (is : List Instruction) :
    (Instruction.line n :: is).splitOnP Instruction.isLine
      = [] :: is.splitOnP Instruction.isLine := by
  rw [List.splitOnP_cons_eq_if_modifyHead, if_pos (by rfl)]

theorem splitOnP_other {i : Instruction} (hi : i.isLine = false) (is : List Instruction) :
    ∃ part parts, is.splitOnP Instruction.isLine = part :: parts ∧
      (i :: is).splitOnP Instruction.isLine = (i :: part) :: parts := by
  obtain ⟨part, parts, hp⟩ :=
    List.exists_cons_of_ne_nil (List.splitOnP_ne_nil Instruction.isLine is)
  refine ⟨part, parts, hp, ?_⟩
  rw [List.splitOnP_cons_eq_if_modifyHead, if_neg (by simp [hi]), hp]
  rfl

/-! ## the bit -/

/-- what the bit does with an instruction that is neither a line marker nor a read: nothing -/
theorem select_other {i : Instruction} (hi : i.isLine = false) (hr : i.read? = none) (fresh : Bool)
    (type : String) : firstReadPerLine.select fresh i type = (none, fresh) := by
  cases i with
  | line n => cases hi
  | other code => rfl
  | field access owner name =>
    cases access with
    | getField => cases hr
    | getStatic => rfl
    | putStatic => rfl
    | putField => rfl

/-- **The bit and the blocks pick the same names.**  With the bit set, the part in front of the
first marker is the rest of a block whose line is still unused; with the bit clear it is passed
over. -/
theorem picks_firstReadPerLine (type : String) (is : List Instruction) (fresh : Bool) :
    firstReadPerLine.picks type fresh is
      = (bif fresh then is.splitOnP Instruction.isLine else lineBlocks is).filterMap
          (lineRead? type) := by
  induction is generalizing fresh with
  | nil => cases fresh <;> rfl
  | cons i is ih =>
    cases hi : i.isLine with
    | true =>
      obtain ⟨n, rfl⟩ := Instruction.eq_line hi
      have hs : firstReadPerLine.select fresh (.line n) type = (none, true) := rfl
      rw [Selector.picks_cons_none hs, ih true, lineBlocks, splitOnP_line]
      cases fresh with
      | true => rw [cond_true, cond_true, List.filterMap_cons_none (lineRead?_nil type)]
      | false => rfl
    | false =>
      obtain ⟨part, parts, hp, hip⟩ := splitOnP_other hi is
      have hclear : lineBlocks (i :: is) = lineBlocks is := by
        rw [lineBlocks, lineBlocks, hip, hp, List.tail_cons, List.tail_cons]
      cases hr : i.read? with
      | none =>
        rw [Selector.picks_cons_none (select_other hi hr fresh type), ih fresh, hclear, hip, hp]
        cases fresh with
        | true =>
          rw [cond_true, cond_true, List.filterMap_cons, List.filterMap_cons,
            lineRead?_cons hr]
        | false => rfl
      | some read =>
        obtain ⟨owner, name⟩ := read
        obtain rfl := Instruction.eq_getField hr
        have hparts : lineBlocks is = parts := by rw [lineBlocks, hp, List.tail_cons]
        cases fresh with
        | false =>
          have hs : firstReadPerLine.select false (.field .getField owner name) type
              = (none, false) := rfl
          rw [Selector.picks_cons_none hs, ih false, hclear, cond_false, cond_false]
        | true =>
          have hs : firstReadPerLine.select true (.field .getField owner name) type
              = (if owner = type then some name else none, false) := rfl
          rw [cond_true, hip]
          by_cases ho : owner = type
          · rw [if_pos ho] at hs
            rw [Selector.picks_cons_some hs, ih false, cond_false, hparts,
              List.filterMap_cons_some (by rw [lineRead?_read, if_pos ho])]
          · rw [if_neg ho] at hs
            rw [Selector.picks_cons_none hs, ih false, cond_false, hparts,
              List.filterMap_cons_none (by rw [lineRead?_read, if_neg ho])]

/-! ## the scan -/

/-- the fields that a stream of a type writes, read block by block -/
def Hierarchy.lineReading (h : Hierarchy) (accepts : FieldDescriptor → Bool) (type : String)
    (is : List Instruction) : Except ScanFailure (List FieldDescriptor) :=
  if h.contains type then h.fieldsNamed accepts type (lineReads type is)
  else .error (.unknownType type)

theorem scan_firstReadPerLine (h : Hierarchy) (accepts : FieldDescriptor → Bool) (bit : Bool)
    (type : String) (is : List Instruction) :
    ((Scanner.mk h firstReadPerLine accepts bit).scan is type).value.1
      = h.lineReading accepts type is := by
  rw [Scanner.scan_value, Hierarchy.lineReading, lineReads]
  show (if h.contains type then h.fieldsNamed accepts type (firstReadPerLine.picks type false is)
    else _) = _
  rw [picks_firstReadPerLine, cond_false]

/-- **The usual scan is the line-block reading**, whatever was scanned before.  It complains about
the type exactly if the type is unknown, and a filtered scan is the filter of the whole one. -/
theorem scan_eq_lineReading (h : Hierarchy) (accepts : FieldDescriptor → Bool) (bit : Bool)
    (type : String) (is : List Instruction) :
    ((Scanner.mk h firstReadPerLine accepts bit).scan is type).value.1
        = h.lineReading accepts type is ∧
    ((∃ t, ((Scanner.mk h firstReadPerLine accepts bit).scan is type).value.1
        = .error (.unknownType t)) ↔ h.contains type = false) ∧
    ((Scanner.mk h firstReadPerLine accepts bit).scan is type).value.1
        = ((Scanner.mk h firstReadPerLine (fun _ => true) bit).scan is type).value.1.map
            (List.filter accepts) := by
  rw [scan_firstReadPerLine, scan_firstReadPerLine]
  unfold Hierarchy.lineReading
  cases hc : h.contains type with
  | true =>
    rw [if_pos rfl, if_pos rfl]
    refine ⟨rfl, ⟨?_, fun hf => by cases hf⟩, h.fieldsNamed_filter accepts type _⟩
    rintro ⟨t, ht⟩
    exact absurd ht (h.fieldsNamed_ne_unknownType accepts type _ t)
  | false =>
    rw [if_neg (by simp), if_neg (by simp)]
    exact ⟨rfl, ⟨fun _ => rfl, fun _ => ⟨type, rfl⟩⟩, rfl⟩

end WireWrapper
