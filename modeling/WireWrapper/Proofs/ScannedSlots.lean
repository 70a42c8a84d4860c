import Mathlib.Data.List.Nodup
import WireWrapper.Proofs.ClassText.Compose
import WireWrapper.Proofs.ClassText.Warnings
import WireWrapper.Proofs.MemoryOrder

/-!
# Scanned fields have slots

A scanned field is found by its owner and its name in four places: along the superclasses, in one
type, in memory, and among the fields of its runtime type.  All of them stop at the same field.  So
it stands in memory where its ordinal says, its slot is a count, and no accessor of a scanned field
fails because the field is missing in memory.

* `IsFirstNamed.getElem?`     the field stands where its ordinal says;
* `FieldEntry.accessor_error`   the reasons why there is no accessor;
* `scanned_fields_have_slots`   all of this for the fields of a scanned method, up to the log of the
                              class that is written for them.
-/

namespace WireWrapper

theorem IsFirstNamed.getElem? {memory : List FieldDescriptor} {f : FieldDescriptor}
    (hf : IsFirstNamed memory f) (hord : Numbered memory) : memory[f.ordinal]? = some f := by
  obtain ⟨k, hk⟩ := List.getElem?_of_mem (List.mem_of_find?_eq_some hf)
  rw [hord k f hk]
  exact hk

/-! ## reasons for having no accessor -/

theorem FieldEntry.accessor_error {e : FieldEntry} {config : Config} {n : Normalizer}
    {failure : FieldFailure} (h : e.accessor config n = .error failure) :
    failure = .emptyAccessorName e.displayName ∨ failure = .emptyDeclaredType e.field.name ∨
      slotIndex e.memoryOrder e.field = .error failure := by
  rw [accessor] at h
  split at h
  · exact .inl (Except.error.inj h).symm
  · split at h
    · exact .inr (.inl (Except.error.inj h).symm)
    · cases hslot : slotIndex e.memoryOrder e.field with
      | ok index => rw [hslot] at h; cases h
      | error cause =>
        rw [hslot] at h
        exact .inr (.inr (congrArg Except.error (Except.error.inj h)))

theorem FieldEntry.accessor_error_of_slot {e : FieldEntry} {config : Config} {n : Normalizer}
    {failure : FieldFailure} {i : Nat} (hslot : slotIndex e.memoryOrder e.field = .ok i)
    (h : e.accessor config n = .error failure) :
    failure = .emptyAccessorName e.displayName ∨ failure = .emptyDeclaredType e.field.name := by
  rcases accessor_error h with hname | htype | hmissing
  · exact .inl hname
  · exact .inr htype
  · rw [hslot] at hmissing
    cases hmissing

theorem getLast?_toList_append (s : String) {t : String} {c : Char}
    (ht : t.toList.getLast? = some c) : (s ++ t).toList.getLast? = some c := by
  rw [String.toList_append, List.getLast?_append, ht, Option.some_or]

/-- the text about a field that is missing in memory is that of no other reason: its last letter
tells it apart -/
theorem notInMemoryOrder_message {failure : FieldFailure} {displayName field name : String}
    (h : failure = .emptyAccessorName displayName ∨ failure = .emptyDeclaredType field) :
    failure.message ≠ (FieldFailure.notInMemoryOrder name).message := by
  have hmissing : (FieldFailure.notInMemoryOrder name).message.toList.getLast? = some 't' :=
    getLast?_toList_append _ (t := "' is missing from the memory layout") (by decide)
  have hother : failure.message.toList.getLast? = some 'e' := by
    rcases h with rfl | rfl
    · exact getLast?_toList_append _ (t := "' yields an empty accessor name") (by decide)
    · exact getLast?_toList_append _ (t := "' has no declared type") (by decide)
  -- equal texts would end in one letter
  intro heq
  rw [heq, hmissing] at hother
  exact absurd hother (by decide)

/-! ## scanned methods -/

theorem align_scan_mem {fields : List FieldDescriptor} {docs : List DocField} {pair : AlignedField}
    (hp : pair ∈ (align fields docs).pairs) : pair.scan ∈ fields := by
  have hzip : (pair.scan, pair.doc) ∈ fields.zip docs := by
    rw [← align_pairs docs fields]
    exact List.mem_map_of_mem hp
  exact (List.of_mem_zip hzip).1

/-- **Every field of a scanned method has a slot**, in any hierarchy: memory is numbered, each
scanned field stands where its ordinal says, its slot counts the fields of its runtime type in front
of it, and a class written for the method never lacks an accessor because a field is missing in
memory. -/
theorem scanned_fields_have_slots {σ : Type} (s : Scanner σ) (method : MethodBody) (r : ScanResult)
    (hr : (s.scanMethod method).value.1 = .ok r) :
    (∀ (k : Nat) (hk : k < r.memoryOrder.length), r.memoryOrder[k].ordinal = k) ∧
    (∀ f ∈ r.networkOrder, r.memoryOrder[f.ordinal]? = some f ∧
      slotIndex r.memoryOrder f
        = .ok ((r.memoryOrder.take f.ordinal).countP (·.runtimeType == f.runtimeType))) ∧
    ∀ (c : ClassWriter) (m : MessageType) (docs : List DocField) (name : String),
      (∀ pair ∈ (align r.networkOrder docs).pairs, ∀ modifier displayName,
        FieldEntry.accessor ⟨pair.scan, pair.doc, displayName, modifier, r.memoryOrder⟩ c.config
          c.normalizer ≠ .error (.notInMemoryOrder name)) ∧
      ∀ e ∈ (c.write m r docs).events,
        ("error", Recorded.text (FieldFailure.notInMemoryOrder name).message) ∉ e.values := by
  obtain ⟨hm, hfirst⟩ := scanMethod_ok s method hr
  have hnum : Numbered r.memoryOrder := hm ▸ memoryOrder_numbered s.hierarchy method.declaringType
  have hslot : ∀ f ∈ r.networkOrder, slotIndex r.memoryOrder f = .ok (slotsBefore r.memoryOrder f) :=
    fun f hf => slotIndex_eq_slotsBefore (hfirst f hf) hnum
  refine ⟨fun k hk => hnum k _ (List.getElem?_eq_getElem hk),
    fun f hf => ⟨(hfirst f hf).getElem? hnum, hslot f hf⟩, fun c m docs name => ⟨?_, ?_⟩⟩
  · intro pair hp modifier displayName herror
    -- the pair has a slot, so only its name or its type can be missing
    have hpair := hslot pair.scan (align_scan_mem hp)
    rcases FieldEntry.accessor_error_of_slot hpair herror with hname | htype
    · cases hname
    · cases htype
  · intro e he hlogged
    obtain ⟨pair, hp, modifier, displayName, failure, herror, hmessage⟩ := c.write_error m he hlogged
    have hpair := hslot pair.scan (align_scan_mem hp)
    exact notInMemoryOrder_message (FieldEntry.accessor_error_of_slot hpair herror) hmessage.symm

/-! ## two types that extend each other -/

/-- a name declared twice, a static field that hides one of the superclass, and a superclass that
extends its subclass -/
def cyclicHierarchy : Hierarchy :=
  Hierarchy.ofTypes [
    ("Move", ⟨some "Base", [⟨"a", "int", false⟩, ⟨"a", "long", false⟩, ⟨"s", "int", true⟩]⟩),
    ("Base", ⟨some "Move", [⟨"s", "int", false⟩, ⟨"b", "int", false⟩]⟩)]

def cyclicMethod : MethodBody :=
  ⟨"Move", "write", [.line 1, .field .getField "Move" "s", .line 2, .field .getField "Move" "b",
    .line 3, .field .getField "Move" "a"]⟩

def cyclicResult : ScanResult where
  networkOrder := [⟨"Base", "int", "b", 3⟩, ⟨"Move", "int", "a", 0⟩]
  memoryOrder := [⟨"Move", "int", "a", 0⟩, ⟨"Move", "long", "a", 1⟩, ⟨"Base", "int", "s", 2⟩,
    ⟨"Base", "int", "b", 3⟩]

theorem cyclicMethod_scan :
    ((Scanner.ofSelector cyclicHierarchy firstReadPerLine).scanMethod cyclicMethod).value.1
      = .ok cyclicResult := by
  decide +kernel

/-- The inherited field lies behind two others of its type; the static field has no slot and is not
scanned. -/
theorem scanned_fields_have_slots_cyclic :
    ((Scanner.ofSelector cyclicHierarchy firstReadPerLine).scanMethod cyclicMethod).value.1
      = .ok cyclicResult ∧
    (⟨"Base", "int", "b", 3⟩ : FieldDescriptor) ∈ cyclicResult.networkOrder ∧
    slotIndex cyclicResult.memoryOrder ⟨"Base", "int", "b", 3⟩ = .ok 2 ∧
    (⟨0, ⟨"Base", "int", "b", 3⟩, ⟨some "Yaw", "Int", ""⟩⟩ : AlignedField)
      ∈ (align cyclicResult.networkOrder lookDocs).pairs ∧
    numberWriter.finishedEvent lookMessage
      ∈ (numberWriter.write lookMessage cyclicResult lookDocs).events ∧
    ("error", Recorded.text (FieldFailure.notInMemoryOrder "b").message)
      ∉ (numberWriter.finishedEvent lookMessage).values := by
  have hall := scanned_fields_have_slots (Scanner.ofSelector cyclicHierarchy firstReadPerLine)
    cyclicMethod cyclicResult cyclicMethod_scan
  have hb : (⟨"Base", "int", "b", 3⟩ : FieldDescriptor) ∈ cyclicResult.networkOrder := by decide
  have hend : numberWriter.finishedEvent lookMessage
      ∈ (numberWriter.write lookMessage cyclicResult lookDocs).events := by
    rw [ClassWriter.write_events]
    simp
  exact ⟨cyclicMethod_scan, hb, (hall.2.1 _ hb).2, by decide, hend,
    (hall.2.2 numberWriter lookMessage lookDocs "b").2 _ hend⟩

end WireWrapper
