import Mathlib.Data.List.Nodup
import WireWrapper.Proofs.MemoryOrder

/-!
# Which slot an accessor reads

A generated accessor reads `handle.<accessor>.read(<slot>)`.  The accessor is that of the nearest
registered superclass of the field's runtime type, while the slot counts the fields of exactly this
runtime type.  So fields of one runtime type never meet in a slot, and fields with different
modifiers do not either; but a type and its subtype, or two subtypes of one registered type, share
the modifier and count apart.

* `slots_eq_iff`          when exactly two scanned fields read the same slot;
* `subtype_shares_slot`   two fields that do.
-/

namespace WireWrapper

/-! ## slots of two fields -/

/-- **Two scanned fields read the same slot of the same accessor exactly if** different runtime
types lead them to one modifier and equally many fields of their own runtime types lie in front of
them. -/
theorem slots_eq_iff {σ : Type} (s : Scanner σ) (method : MethodBody) (r : ScanResult) (c : Catalog)
    (hr : (s.scanMethod method).value.1 = .ok r) (hc : (c.modifiers.map Modifier.accessor).Nodup)
    (f g : FieldDescriptor) (hf : f ∈ r.networkOrder) (hg : g ∈ r.networkOrder)
    (hne : (f.declaringType, f.name) ≠ (g.declaringType, g.name)) (a b : Modifier)
    (ha : c.resolve? s.hierarchy f.runtimeType = some a)
    (hb : c.resolve? s.hierarchy g.runtimeType = some b) :
    slotIndex r.memoryOrder f = .ok (slotsBefore r.memoryOrder f) ∧
    slotIndex r.memoryOrder g = .ok (slotsBefore r.memoryOrder g) ∧
    ((a.accessor, slotsBefore r.memoryOrder f) = (b.accessor, slotsBefore r.memoryOrder g) ↔
      f.runtimeType ≠ g.runtimeType ∧ a = b ∧
        slotsBefore r.memoryOrder f = slotsBefore r.memoryOrder g) := by
  obtain ⟨hm, hfirst⟩ := scanMethod_ok s method hr
  have hnum : Numbered r.memoryOrder := hm ▸ memoryOrder_numbered s.hierarchy method.declaringType
  have hfslot := slotIndex_eq_slotsBefore (hfirst f hf) hnum
  have hgslot := slotIndex_eq_slotsBefore (hfirst g hg) hnum
  refine ⟨hfslot, hgslot, ?_⟩
  rw [Prod.mk.injEq]
  constructor
  · rintro ⟨hacc, hslots⟩
    have hab : a = b := List.inj_on_of_nodup_map hc (Catalog.resolve?_mem ha) (Catalog.resolve?_mem hb) hacc
    refine ⟨fun htype => hne ?_, hab, hslots⟩
    rw [← hslots] at hgslot
    exact names_of_slotIndex_eq htype hfslot hgslot
  · rintro ⟨_, rfl, hslots⟩
    exact ⟨rfl, hslots⟩

/-! ## a type and its subtype -/

/-- a message with a field of a registered type and one of its subtype -/
def subtypeHierarchy : Hierarchy :=
  Hierarchy.ofTypes [
    ("Spawn", ⟨none, [⟨"owner", "Entity", false⟩, ⟨"target", "Player", false⟩]⟩),
    ("Player", ⟨some "Entity", []⟩)]

/-- the method that writes both fields, one in each line -/
def subtypeMethod : MethodBody :=
  ⟨"Spawn", "write", [.line 1, .field .getField "Spawn" "owner",
    .line 2, .field .getField "Spawn" "target"]⟩

def entityModifier : Modifier := ⟨"Entity", "Entity", "getEntities()", false⟩

def entityCatalog : Catalog := ⟨(∅ : Std.ExtTreeMap String Modifier).insert "Entity" entityModifier⟩

def ownerField : FieldDescriptor := ⟨"Spawn", "Entity", "owner", 0⟩

def targetField : FieldDescriptor := ⟨"Spawn", "Player", "target", 1⟩

theorem subtypeMethod_scan :
    ((Scanner.ofSelector subtypeHierarchy firstReadPerLine).scanMethod subtypeMethod).value.1
      = .ok ⟨[ownerField, targetField], [ownerField, targetField]⟩ := by
  have hpicks : firstReadPerLine.picks "Spawn" false subtypeMethod.instructions
      = ["owner", "target"] := by decide +kernel
  have hknown : subtypeHierarchy.contains "Spawn" = true := by decide +kernel
  have hnames : ["owner", "target"].find? (subtypeHierarchy.isUndeclared "Spawn") = none := by
    decide +kernel
  have hfields : (["owner", "target"].filterMap (subtypeHierarchy.fieldNamed? "Spawn")).filter
      (fun _ => true) = [ownerField, targetField] := by decide +kernel
  have hmemory : subtypeHierarchy.memoryOrder "Spawn" = [ownerField, targetField] := by
    decide +kernel
  rw [Scanner.scanMethod_value, Scanner.scan_value]
  show Except.map _ (if subtypeHierarchy.contains "Spawn" = true then
    subtypeHierarchy.fieldsNamed (fun _ => true) "Spawn"
      (firstReadPerLine.picks "Spawn" false subtypeMethod.instructions) else _) = _
  rw [hpicks, if_pos hknown, Hierarchy.fieldsNamed, hnames, hfields]
  show Except.ok (ScanResult.mk _ (subtypeHierarchy.memoryOrder "Spawn")) = _
  rw [hmemory]

theorem entityCatalog_owner :
    entityCatalog.resolve? subtypeHierarchy ownerField.runtimeType = some entityModifier := by
  decide +kernel

theorem entityCatalog_target :
    entityCatalog.resolve? subtypeHierarchy targetField.runtimeType = some entityModifier := by
  decide +kernel

theorem entityCatalog_distinct : (entityCatalog.modifiers.map Modifier.accessor).Nodup := by
  decide +kernel

/-- Two fields of one message, in a catalog with distinct accessors, that read the same slot. -/
theorem subtype_shares_slot :
    Catalog.ofEntries [entityModifier] = .ok entityCatalog ∧
    (entityCatalog.modifiers.map Modifier.accessor).Nodup ∧
    ((Scanner.ofSelector subtypeHierarchy firstReadPerLine).scanMethod subtypeMethod).value.1
      = .ok ⟨[ownerField, targetField], [ownerField, targetField]⟩ ∧
    (ownerField.declaringType, ownerField.name) ≠ (targetField.declaringType, targetField.name) ∧
    entityCatalog.resolve? subtypeHierarchy ownerField.runtimeType = some entityModifier ∧
    entityCatalog.resolve? subtypeHierarchy targetField.runtimeType = some entityModifier ∧
    slotIndex [ownerField, targetField] ownerField = .ok 0 ∧
    slotIndex [ownerField, targetField] targetField = .ok 0 :=
  ⟨rfl, entityCatalog_distinct, subtypeMethod_scan, by decide, entityCatalog_owner,
    entityCatalog_target, rfl, rfl⟩

/-- At these two fields both sides of the criterion hold. -/
theorem slots_eq_iff_subtype :
    ((Scanner.ofSelector subtypeHierarchy firstReadPerLine).scanMethod subtypeMethod).value.1
      = .ok ⟨[ownerField, targetField], [ownerField, targetField]⟩ ∧
    (entityCatalog.modifiers.map Modifier.accessor).Nodup ∧
    (entityModifier.accessor, slotsBefore [ownerField, targetField] ownerField)
      = (entityModifier.accessor, slotsBefore [ownerField, targetField] targetField) :=
  ⟨subtypeMethod_scan, entityCatalog_distinct,
    (slots_eq_iff (Scanner.ofSelector subtypeHierarchy firstReadPerLine) subtypeMethod
      ⟨[ownerField, targetField], [ownerField, targetField]⟩ entityCatalog subtypeMethod_scan
      entityCatalog_distinct ownerField targetField (by decide) (by decide) (by decide)
      entityModifier entityModifier entityCatalog_owner entityCatalog_target).2.2.mpr
      ⟨by decide, rfl, by decide⟩⟩

end WireWrapper
