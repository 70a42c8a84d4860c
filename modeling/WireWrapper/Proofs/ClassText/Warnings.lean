import WireWrapper.ClassWriter

/-!
# What is logged while a class is written

The events of writing do not depend on the text: each aligned field has its own, decided by its two
descriptions, the memory order and the writer.

* `ClassWriter.accessorWarning`   the warning for an accessor that cannot be had;
* `ClassWriter.fieldWarnings`     the warnings of one aligned field;
* `writeFields_events`            a row of fields logs their warnings in turn;
* `write_events`                  all that is logged: the mismatch, the fields, the end;
* `write_error`                   an error in the log is that of an accessor of an aligned field.
-/

namespace WireWrapper
namespace ClassWriter
variable (c : ClassWriter) (m : MessageType) (memory : List FieldDescriptor)

/-! ## one field -/

def accessorWarning (field : FieldDescriptor) (kind : String) (failure : FieldFailure) : Event :=
  .ofMessage .warn target ("failed to generate " ++ kind)
    [("message_type", .text m.reference), ("field", .text field.name),
      ("error", .text failure.message)]

/-- the warning for a field whose type has no modifier -/
def modifierWarning (field : FieldDescriptor) : Event :=
  .ofMessage .warn target "cannot find modifier for field type"
    [("message_type", .text m.reference), ("field", .text field.name),
      ("runtime_type", .text field.runtimeType)]

/-- the warning for a field without a documented name -/
def nameWarning (pair : AlignedField) : Event :=
  .ofMessage .warn target "undocumented field skipped"
    [("message_type", .text m.reference), ("index", .integer pair.index),
      ("runtime_type", .text pair.scan.runtimeType)]

def entryWarnings (e : FieldEntry) : List Event :=
  match e.accessor c.config c.normalizer with
  | .ok _ => []
  | .error failure =>
    [accessorWarning m e.field "getter" failure, accessorWarning m e.field "setter" failure]

def fieldWarnings (pair : AlignedField) : List Event :=
  match c.catalog.resolve? c.hierarchy pair.scan.runtimeType, pair.doc.displayName with
  | none, _ => [modifierWarning m pair.scan]
  | some _, none => [nameWarning m pair]
  | some modifier, some displayName =>
    c.entryWarnings m ⟨pair.scan, pair.doc, displayName, modifier, memory⟩

theorem stageAccessor_events_ok (field : FieldDescriptor) (kind : String) (a : Accessor)
    (write : Accessor → Source → Source) (w : Source) :
    (stageAccessor m field kind (fun staged => (Except.ok a).map fun a => write a staged) w).events
      = [] := rfl

theorem stageAccessor_events_error (field : FieldDescriptor) (kind : String)
    (failure : FieldFailure) (write : Accessor → Source → Source) (w : Source) :
    (stageAccessor m field kind (fun staged => (Except.error failure).map fun a => write a staged)
      w).events = [accessorWarning m field kind failure] := rfl

theorem writeAccessors_events (e : FieldEntry) (w : Source) :
    (c.writeAccessors m e w).events = c.entryWarnings m e := by
  rw [writeAccessors, entryWarnings, Logged.events_bind]
  cases e.accessor c.config c.normalizer with
  | ok a => rw [stageAccessor_events_ok, stageAccessor_events_ok, List.append_nil]
  | error failure => rw [stageAccessor_events_error, stageAccessor_events_error]; rfl

theorem writeField_events (pair : AlignedField) (w : Source) :
    (c.writeField m memory pair w).events = c.fieldWarnings m memory pair := by
  rw [writeField, fieldWarnings]
  cases c.catalog.resolve? c.hierarchy pair.scan.runtimeType with
  | none => rfl
  | some modifier =>
    cases pair.doc.displayName with
    | none => rfl
    | some displayName => exact c.writeAccessors_events m _ w

/-! ## a class -/

theorem writeFields_events (pairs : List AlignedField) (w : Source) :
    (c.writeFields m memory pairs w).events = pairs.flatMap (c.fieldWarnings m memory) := by
  induction pairs generalizing w with
  | nil => rfl
  | cons pair pairs ih =>
    rw [writeFields, Logged.events_bind, writeField_events, ih, List.flatMap_cons]

def finishedEvent : Event :=
  .ofMessage .debug target "emitted wrapper"
    [("message_type", .text m.reference), ("class", .text (c.className m))]

/-- **All that is logged while a class is written**: whether the counts differ, then the warnings of
the aligned fields, then the end. -/
theorem write_events (scan : ScanResult) (docs : List DocField) :
    (c.write m scan docs).events
      = (reportMismatch m (align scan.networkOrder docs).mismatch).events ++
        ((align scan.networkOrder docs).pairs.flatMap (c.fieldWarnings m scan.memoryOrder) ++
          [c.finishedEvent m]) := by
  rw [write, Logged.events_bind, Logged.events_bind, writeFields_events]
  rfl

/-! ## errors -/

theorem fieldWarnings_error {pair : AlignedField} {e : Event} {t : String}
    (he : e ∈ c.fieldWarnings m memory pair) (ht : ("error", Recorded.text t) ∈ e.values) :
    ∃ modifier displayName failure,
      FieldEntry.accessor ⟨pair.scan, pair.doc, displayName, modifier, memory⟩ c.config
        c.normalizer = .error failure ∧ t = failure.message := by
  rw [fieldWarnings] at he
  split at he
  · obtain rfl := List.mem_singleton.mp he
    simp [modifierWarning, Event.ofMessage, messageName] at ht
  · obtain rfl := List.mem_singleton.mp he
    simp [nameWarning, Event.ofMessage, messageName] at ht
  · next modifier displayName _ _ =>
    rw [entryWarnings] at he
    split at he
    · cases he
    · next failure haccessor =>
      refine ⟨modifier, displayName, failure, haccessor, ?_⟩
      have hkind : ∃ kind, e = accessorWarning m pair.scan kind failure := by
        rcases List.mem_cons.mp he with rfl | hsetter
        · exact ⟨"getter", rfl⟩
        · exact ⟨"setter", List.mem_singleton.mp hsetter⟩
      obtain ⟨kind, rfl⟩ := hkind
      simpa [accessorWarning, Event.ofMessage, messageName] using ht

/-- **An error in the log is that of an accessor** of some aligned field. -/
theorem write_error {scan : ScanResult} {docs : List DocField} {e : Event} {t : String}
    (he : e ∈ (c.write m scan docs).events) (ht : ("error", Recorded.text t) ∈ e.values) :
    ∃ pair ∈ (align scan.networkOrder docs).pairs, ∃ modifier displayName failure,
      FieldEntry.accessor ⟨pair.scan, pair.doc, displayName, modifier, scan.memoryOrder⟩ c.config
        c.normalizer = .error failure ∧ t = failure.message := by
  rw [write_events, List.mem_append, List.mem_append, List.mem_flatMap] at he
  rcases he with hmismatch | ⟨pair, hpair, hwarning⟩ | hend
  · cases hm : (align scan.networkOrder docs).mismatch with
    | none => rw [hm] at hmismatch; cases hmismatch
    | some mismatch =>
      rw [hm] at hmismatch
      obtain rfl := List.mem_singleton.mp hmismatch
      simp [Event.ofMessage, messageName] at ht
  · exact ⟨pair, hpair, c.fieldWarnings_error m scan.memoryOrder hwarning ht⟩
  · obtain rfl := List.mem_singleton.mp hend
    simp [finishedEvent, Event.ofMessage, messageName] at ht

end ClassWriter
end WireWrapper
