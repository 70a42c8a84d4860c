import Mathlib.Data.List.Nodup
import WireWrapper.Proofs.WireOrder.LineBlocks

/-!
# The line marker that a read belongs to

Each field that the usual scan records comes from one instruction, at a known place of the stream.
The most recent line marker in front of this place is the one that the read uses up; so no two
recorded fields share their marker.  They may share their line: a stream that comes back to a line
marks it again, and each marker allows one more read, whatever line it names.

* `lineMarkers`           the line markers of a stream with their places;
* `markerBefore?`         the most recent one in front of a place; `lineAt?` is the line it names;
* `Selector.picksAt`      the names that a selector picks, each with its place;
* `Hierarchy.recorded`    the fields that the usual scan records, each with the place of its read;
* `picksAt_separated`     between two picks there is a line marker;
* `recorded_markers`      no marker serves two recorded fields;
* `revisited_line`        a line that is marked twice, and does serve two.
-/

namespace WireWrapper

/-! ## markers and their places -/

/-- a line marker: where it stands, and the line it names -/
structure LineMarker where
  place : Nat
  number : UInt32
deriving DecidableEq, Repr

/-- the line markers of a stream whose first instruction stands at `start` -/
def lineMarkers : (start : Nat) → List Instruction → List LineMarker
  | _, [] => []
  | start, .line n :: is => ⟨start, n⟩ :: lineMarkers (start + 1) is
  | start, _ :: is => lineMarkers (start + 1) is

/-- the most recent line marker in front of a place -/
def markerBefore? (is : List Instruction) (place : Nat) : Option LineMarker :=
  ((lineMarkers 0 is).filter (·.place < place)).getLast?

def lineAt? (is : List Instruction) (place : Nat) : Option UInt32 :=
  (markerBefore? is place).map (·.number)

theorem lineMarkers_line (start : Nat) (n : UInt32) (is : List Instruction) :
    lineMarkers start (.line n :: is) = ⟨start, n⟩ :: lineMarkers (start + 1) is := rfl

theorem lineMarkers_other {i : Instruction} (hi : i.isLine = false) (start : Nat)
    (is : List Instruction) : lineMarkers start (i :: is) = lineMarkers (start + 1) is := by
  cases i with
  | line n => cases hi
  | field access owner name => rfl
  | other code => rfl

theorem lineMarkers_tail {m : LineMarker} {start : Nat} {is : List Instruction}
    (hm : m ∈ lineMarkers (start + 1) is) (i : Instruction) : m ∈ lineMarkers start (i :: is) := by
  cases hi : i.isLine with
  | true =>
    obtain ⟨n, rfl⟩ := Instruction.eq_line hi
    exact List.mem_cons_of_mem _ hm
  | false => rwa [lineMarkers_other hi]

theorem le_place_of_mem_lineMarkers {m : LineMarker} {start : Nat} {is : List Instruction}
    (hm : m ∈ lineMarkers start is) : start ≤ m.place := by
  induction is generalizing start with
  | nil => cases hm
  | cons i is ih =>
    cases hi : i.isLine with
    | true =>
      obtain ⟨n, rfl⟩ := Instruction.eq_line hi
      rw [lineMarkers_line] at hm
      rcases List.mem_cons.mp hm with rfl | htail
      · exact Nat.le_refl start
      · have := ih htail
        omega
    | false =>
      rw [lineMarkers_other hi] at hm
      have := ih hm
      omega

theorem lineMarkers_sorted (start : Nat) (is : List Instruction) :
    (lineMarkers start is).Pairwise fun a b => a.place ≤ b.place := by
  induction is generalizing start with
  | nil => exact List.Pairwise.nil
  | cons i is ih =>
    cases hi : i.isLine with
    | true =>
      obtain ⟨n, rfl⟩ := Instruction.eq_line hi
      rw [lineMarkers_line, List.pairwise_cons]
      refine ⟨fun m hm => ?_, ih (start + 1)⟩
      have := le_place_of_mem_lineMarkers hm
      show start ≤ m.place
      omega
    | false =>
      rw [lineMarkers_other hi]
      exact ih (start + 1)

theorem markerBefore?_mem {is : List Instruction} {place : Nat} {m : LineMarker}
    (hm : markerBefore? is place = some m) : m ∈ lineMarkers 0 is ∧ m.place < place := by
  obtain ⟨hmem, hlt⟩ := List.mem_filter.mp (List.mem_of_getLast? hm)
  exact ⟨hmem, of_decide_eq_true hlt⟩

theorem markerBefore?_latest {is : List Instruction} {place : Nat} {n : LineMarker}
    (hn : n ∈ lineMarkers 0 is) (hlt : n.place < place) :
    ∃ m, markerBefore? is place = some m ∧ n.place ≤ m.place := by
  have hmem : n ∈ (lineMarkers 0 is).filter (·.place < place) :=
    List.mem_filter.mpr ⟨hn, decide_eq_true hlt⟩
  -- the last of a sorted list is at or behind each of them
  have hsorted := (lineMarkers_sorted 0 is).filter (·.place < place)
  have hne : (lineMarkers 0 is).filter (·.place < place) ≠ [] := List.ne_nil_of_mem hmem
  refine ⟨_, List.getLast?_eq_some_getLast hne, ?_⟩
  rw [← List.dropLast_concat_getLast hne] at hmem hsorted
  rcases List.mem_append.mp hmem with hfront | hlast
  · exact (List.pairwise_append.mp hsorted).2.2 n hfront _ (List.mem_singleton_self _)
  · exact Nat.le_of_eq (congrArg LineMarker.place (List.mem_singleton.mp hlast))

/-! ## picks and their places -/

/-- the names that a selector picks along a stream, each with its place; the first instruction of
the stream stands at `start` -/
def Selector.picksAt {σ : Type} (selector : Selector σ) (type : String) :
    (start : Nat) → σ → List Instruction → List (Nat × String)
  | _, _, [] => []
  | start, state, i :: is =>
    match selector.select state i type with
    | (none, next) => selector.picksAt type (start + 1) next is
    | (some name, next) => (start, name) :: selector.picksAt type (start + 1) next is

section
variable {σ : Type} {selector : Selector σ} {type name : String} {state next : σ} {i : Instruction}

theorem Selector.picksAt_cons_none (hs : selector.select state i type = (none, next)) (start : Nat)
    (is : List Instruction) :
    selector.picksAt type start state (i :: is) = selector.picksAt type (start + 1) next is := by
  rw [Selector.picksAt, hs]

theorem Selector.picksAt_cons_some (hs : selector.select state i type = (some name, next))
    (start : Nat) (is : List Instruction) :
    selector.picksAt type start state (i :: is)
      = (start, name) :: selector.picksAt type (start + 1) next is := by
  rw [Selector.picksAt, hs]

end

theorem Selector.picksAt_names {σ : Type} (selector : Selector σ) (type : String) (start : Nat)
    (state : σ) (is : List Instruction) :
    (selector.picksAt type start state is).map (·.2) = selector.picks type state is := by
  induction is generalizing start state with
  | nil => rfl
  | cons i is ih =>
    rcases hs : selector.select state i type with ⟨_ | name, next⟩
    · rw [picksAt_cons_none hs, picks_cons_none hs, ih]
    · rw [picksAt_cons_some hs, picks_cons_some hs, List.map_cons, ih]

theorem Selector.picksAt_select {σ : Type} {selector : Selector σ} {type : String} {start : Nat}
    {state : σ} {is : List Instruction} {pick : Nat × String}
    (hp : pick ∈ selector.picksAt type start state is) :
    start ≤ pick.1 ∧ ∃ i before, is[pick.1 - start]? = some i ∧
      (selector.select before i type).1 = some pick.2 := by
  induction is generalizing start state with
  | nil => cases hp
  | cons i is ih =>
    -- a pick of the rest is one place further in the whole
    have hrest : ∀ next, pick ∈ selector.picksAt type (start + 1) next is →
        start ≤ pick.1 ∧ ∃ j before, (i :: is)[pick.1 - start]? = some j ∧
          (selector.select before j type).1 = some pick.2 := by
      intro next hnext
      obtain ⟨hle, j, before, hj, hsel⟩ := ih hnext
      have hplace : pick.1 - start = (pick.1 - (start + 1)) + 1 := by omega
      refine ⟨by omega, j, before, ?_, hsel⟩
      rw [hplace, List.getElem?_cons_succ]
      exact hj
    rcases hs : selector.select state i type with ⟨_ | name, next⟩
    · rw [picksAt_cons_none hs] at hp
      exact hrest next hp
    · rw [picksAt_cons_some hs] at hp
      rcases List.mem_cons.mp hp with rfl | htail
      · refine ⟨Nat.le_refl start, i, state, ?_, by rw [hs]⟩
        show (i :: is)[start - start]? = some i
        rw [Nat.sub_self, List.getElem?_cons_zero]
      · exact hrest next htail

/-! ## one pick for each marker -/

theorem firstReadPerLine_select {fresh : Bool} {i : Instruction} {type name : String}
    (hs : (firstReadPerLine.select fresh i type).1 = some name) :
    fresh = true ∧ i = .field .getField type name ∧
      (firstReadPerLine.select fresh i type).2 = false := by
  cases hr : i.read? with
  | none =>
    cases hi : i.isLine with
    | true =>
      obtain ⟨n, rfl⟩ := Instruction.eq_line hi
      cases hs
    | false => rw [select_other hi hr] at hs; cases hs
  | some read =>
    obtain ⟨owner, n⟩ := read
    obtain rfl := Instruction.eq_getField hr
    cases fresh with
    | false => cases hs
    | true =>
      have hsel : firstReadPerLine.select true (.field .getField owner n) type
          = (if owner = type then some n else none, false) := rfl
      rw [hsel] at hs ⊢
      by_cases ho : owner = type
      · rw [if_pos ho] at hs
        obtain rfl := Option.some.inj hs
        exact ⟨rfl, by rw [ho], rfl⟩
      · rw [if_neg ho] at hs
        cases hs

theorem firstReadPerLine_clear {i : Instruction} (hi : i.isLine = false) (type : String) :
    firstReadPerLine.select false i type = (none, false) := by
  cases i with
  | line n => cases hi
  | other code => rfl
  | field access owner name => cases access <;> rfl

theorem picksAt_marker {type : String} {start : Nat} {is : List Instruction} {pick : Nat × String}
    (hp : pick ∈ firstReadPerLine.picksAt type start false is) :
    ∃ m ∈ lineMarkers start is, m.place < pick.1 := by
  induction is generalizing start with
  | nil => cases hp
  | cons i is ih =>
    cases hi : i.isLine with
    | true =>
      obtain ⟨n, rfl⟩ := Instruction.eq_line hi
      have hs : firstReadPerLine.select false (.line n) type = (none, true) := rfl
      rw [Selector.picksAt_cons_none hs] at hp
      have hle := (Selector.picksAt_select hp).1
      exact ⟨⟨start, n⟩, List.mem_cons_self, by show start < pick.1; omega⟩
    | false =>
      rw [Selector.picksAt_cons_none (firstReadPerLine_clear hi type)] at hp
      obtain ⟨m, hm, hlt⟩ := ih hp
      exact ⟨m, lineMarkers_tail hm i, hlt⟩

/-- **Between two picks there is a line marker.**  A pick clears the bit, and only a marker sets it
again. -/
theorem picksAt_separated (type : String) (start : Nat) (fresh : Bool) (is : List Instruction) :
    (firstReadPerLine.picksAt type start fresh is).Pairwise fun a b =>
      ∃ m ∈ lineMarkers start is, a.1 < m.place ∧ m.place < b.1 := by
  induction is generalizing start fresh with
  | nil => exact List.Pairwise.nil
  | cons i is ih =>
    -- whatever bit the instruction leaves, the markers of the rest are those of the whole
    have htail : ∀ next, (firstReadPerLine.picksAt type (start + 1) next is).Pairwise fun a b =>
        ∃ m ∈ lineMarkers start (i :: is), a.1 < m.place ∧ m.place < b.1 := by
      intro next
      refine (ih (start + 1) next).imp ?_
      rintro a b ⟨m, hm, hlt⟩
      exact ⟨m, lineMarkers_tail hm i, hlt⟩
    rcases hs : firstReadPerLine.select fresh i type with ⟨_ | name, next⟩
    · rw [Selector.picksAt_cons_none hs]
      exact htail next
    · -- a pick leaves the bit clear, so each later pick has a marker in front
      have hclear := (firstReadPerLine_select (by rw [hs])).2.2
      rw [hs] at hclear
      obtain rfl : next = false := hclear
      rw [Selector.picksAt_cons_some hs, List.pairwise_cons]
      refine ⟨fun b hb => ?_, htail false⟩
      obtain ⟨m, hm, hlt⟩ := picksAt_marker hb
      have hle := le_place_of_mem_lineMarkers hm
      exact ⟨m, lineMarkers_tail hm i, by show start < m.place; omega, hlt⟩

/-! ## recorded fields -/

/-- the fields that the usual scan records along a stream, each with the place of its read -/
def Hierarchy.recorded (h : Hierarchy) (accepts : FieldDescriptor → Bool) (type : String)
    (is : List Instruction) : List (Nat × FieldDescriptor) :=
  (firstReadPerLine.picksAt type 0 false is).filterMap fun (place, name) =>
    ((h.fieldNamed? type name).filter accepts).map (place, ·)

theorem recorded_fields {h : Hierarchy} {accepts : FieldDescriptor → Bool} {bit : Bool}
    {type : String} {is : List Instruction} {fields : List FieldDescriptor}
    (hs : ((Scanner.mk h firstReadPerLine accepts bit).scan is type).value.1 = .ok fields) :
    (h.recorded accepts type is).map (·.2) = fields := by
  rw [Scanner.scan_value] at hs
  split at hs
  case isFalse => cases hs
  rw [Hierarchy.fieldsNamed] at hs
  split at hs
  · cases hs
  · obtain rfl := Except.ok.inj hs
    show _ = ((firstReadPerLine.picks type false is).filterMap (h.fieldNamed? type)).filter accepts
    rw [Hierarchy.recorded, List.map_filterMap, ← Selector.picksAt_names _ _ 0,
      List.filterMap_map, List.filter_filterMap]
    congr 1
    funext pick
    show (((h.fieldNamed? type pick.2).filter accepts).map (pick.1, ·)).map (·.2) = _
    rw [Option.map_map]
    exact Option.map_id'

theorem recorded_read {h : Hierarchy} {accepts : FieldDescriptor → Bool} {type : String}
    {is : List Instruction} {r : Nat × FieldDescriptor} (hr : r ∈ h.recorded accepts type is) :
    ∃ name marker, is[r.1]? = some (.field .getField type name) ∧
      h.fieldNamed? type name = some r.2 ∧ markerBefore? is r.1 = some marker := by
  obtain ⟨⟨place, name⟩, hpick, hfield⟩ := List.mem_filterMap.mp hr
  obtain ⟨field, hkept, rfl⟩ := Option.map_eq_some_iff.mp hfield
  obtain ⟨_, i, before, hi, hsel⟩ := Selector.picksAt_select hpick
  obtain ⟨m, hm, hlt⟩ := picksAt_marker hpick
  obtain ⟨marker, hmarker, _⟩ := markerBefore?_latest hm hlt
  rw [Nat.sub_zero, (firstReadPerLine_select hsel).2.1] at hi
  exact ⟨name, marker, hi, (Option.filter_eq_some_iff.mp hkept).1, hmarker⟩

theorem recorded_separated (h : Hierarchy) (accepts : FieldDescriptor → Bool) (type : String)
    (is : List Instruction) :
    (h.recorded accepts type is).Pairwise fun a b =>
      ∃ m, markerBefore? is b.1 = some m ∧ a.1 < m.place := by
  rw [Hierarchy.recorded, List.pairwise_filterMap]
  refine (picksAt_separated type 0 false is).imp ?_
  rintro ⟨p, _⟩ ⟨q, _⟩ ⟨n, hn, hpn, hnq⟩ a ha b hb
  obtain ⟨_, _, rfl⟩ := Option.map_eq_some_iff.mp ha
  obtain ⟨_, _, rfl⟩ := Option.map_eq_some_iff.mp hb
  obtain ⟨m, hm, hle⟩ := markerBefore?_latest hn hnq
  exact ⟨m, hm, Nat.lt_of_lt_of_le hpn hle⟩

/-- **No line marker serves two recorded fields.**  Their reads may still name the same line: then
the stream marks this line again between them. -/
theorem recorded_markers (h : Hierarchy) (accepts : FieldDescriptor → Bool) (bit : Bool)
    (type : String) (is : List Instruction) (fields : List FieldDescriptor)
    (hs : ((Scanner.mk h firstReadPerLine accepts bit).scan is type).value.1 = .ok fields) :
    (h.recorded accepts type is).map (·.2) = fields ∧
    (∀ r ∈ h.recorded accepts type is, ∃ name marker,
      is[r.1]? = some (.field .getField type name) ∧ h.fieldNamed? type name = some r.2 ∧
        markerBefore? is r.1 = some marker) ∧
    ((h.recorded accepts type is).map fun r => markerBefore? is r.1).Nodup ∧
    (h.recorded accepts type is).Pairwise fun a b => lineAt? is a.1 = lineAt? is b.1 →
      ∃ again ∈ lineMarkers 0 is, a.1 < again.place ∧ again.place < b.1 ∧
        some again.number = lineAt? is a.1 := by
  refine ⟨recorded_fields hs, fun r hr => recorded_read hr, ?_, ?_⟩
  · rw [List.Nodup, List.pairwise_map]
    refine (recorded_separated h accepts type is).imp ?_
    rintro a b ⟨m, hm, hlt⟩ heq
    -- a shared marker would stand in front of the first read and behind it
    have hbefore := (markerBefore?_mem (heq.trans hm)).2
    omega
  · refine (recorded_separated h accepts type is).imp ?_
    rintro a b ⟨m, hm, hlt⟩ hline
    obtain ⟨hmem, hbefore⟩ := markerBefore?_mem hm
    refine ⟨m, hmem, hlt, hbefore, ?_⟩
    rw [hline, lineAt?, hm, Option.map_some]

/-! ## a line that is marked twice -/

def turnHierarchy : Hierarchy :=
  Hierarchy.ofTypes [("Turn", ⟨none, [⟨"yaw", "float", false⟩, ⟨"pitch", "float", false⟩]⟩)]

def yawField : FieldDescriptor := ⟨"Turn", "float", "yaw", 0⟩

def pitchField : FieldDescriptor := ⟨"Turn", "float", "pitch", 1⟩

/-- a call that starts in line 10, goes on in line 11, and comes back -/
def revisitingStream : List Instruction :=
  [.line 10, .field .getField "Turn" "yaw", .line 11, .other 0x2A,
    .line 10, .field .getField "Turn" "pitch"]

theorem revisitingStream_scan :
    ((Scanner.ofSelector turnHierarchy firstReadPerLine).scan revisitingStream "Turn").value.1
      = .ok [yawField, pitchField] := by
  decide +kernel

theorem revisitingStream_recorded :
    turnHierarchy.recorded (fun _ => true) "Turn" revisitingStream
      = [(1, yawField), (5, pitchField)] := by
  decide +kernel

/-- Two recorded fields whose reads belong to one line. -/
theorem revisited_line :
    ((Scanner.ofSelector turnHierarchy firstReadPerLine).scan revisitingStream "Turn").value.1
      = .ok [yawField, pitchField] ∧
    turnHierarchy.recorded (fun _ => true) "Turn" revisitingStream
      = [(1, yawField), (5, pitchField)] ∧
    lineAt? revisitingStream 1 = some 10 ∧ lineAt? revisitingStream 5 = some 10 ∧
    ¬ ((turnHierarchy.recorded (fun _ => true) "Turn" revisitingStream).map
      fun r => lineAt? revisitingStream r.1).Nodup := by
  refine ⟨revisitingStream_scan, revisitingStream_recorded, rfl, rfl, ?_⟩
  rw [revisitingStream_recorded]
  decide

/-- Here the two reads have markers of their own, and the stream marks line 10 again in between. -/
theorem recorded_markers_revisiting :
    ((Scanner.ofSelector turnHierarchy firstReadPerLine).scan revisitingStream "Turn").value.1
      = .ok [yawField, pitchField] ∧
    ((turnHierarchy.recorded (fun _ => true) "Turn" revisitingStream).map
      fun r => markerBefore? revisitingStream r.1).Nodup :=
  ⟨revisitingStream_scan,
    (recorded_markers turnHierarchy (fun _ => true) false "Turn" revisitingStream
      [yawField, pitchField] revisitingStream_scan).2.2.1⟩

end WireWrapper
