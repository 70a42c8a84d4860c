import WireWrapper.Config

/-!
# Settings that can be used

Settings are looked through for faults one by one, up to the first.  Those that can be used are those
that pass each of these checks, whatever the order.

* `Config.Checked`           what the checks ask for;
* `fault?_eq_none_iff`       no fault is found exactly then;
* `validate_eq_ok_iff`       settings that can be used have no fault, and a log level that is known;
* `emptyLabel?_eq_none_iff`  the labels that are looked at.
-/

namespace WireWrapper
namespace Config

structure Checked (c : Config) : Prop where
  package : c.package.isEmpty = false
  segments : badSegment? c.package = none
  classPrefix : isIdentifier c.classPrefix.toList = true
  baseClass : isIdentifier c.baseClass.toList = true
  labels : c.emptyLabel? = none
  directions : c.serverboundLabel ≠ c.clientboundLabel
  substitutions : c.typeSubstitutions.any (·.1.isEmpty) = false
  synonyms : c.nameSynonyms.any (·.1.isEmpty) = false

/-- **No fault is found exactly if each check is passed.** -/
theorem fault?_eq_none_iff {c : Config} : c.fault? = none ↔ c.Checked := by
  rw [fault?]
  constructor
  · intro h
    -- a check that fails names its fault, and the next one is made if it does not
    split at h
    · cases h
    next hpackage =>
    split at h
    · cases h
    next hsegments =>
    split at h
    · cases h
    next hprefix =>
    split at h
    · cases h
    next hbase =>
    split at h
    · cases h
    next hlabels =>
    split at h
    · cases h
    next hdirections =>
    split at h
    · cases h
    next hsubstitutions =>
    split at h
    · cases h
    next hsynonyms =>
    exact {
      package := Bool.eq_false_iff.mpr hpackage
      segments := Option.eq_none_iff_forall_ne_some.mpr hsegments
      classPrefix := by simpa using hprefix
      baseClass := by simpa using hbase
      labels := Option.eq_none_iff_forall_ne_some.mpr hlabels
      directions := hdirections
      substitutions := Bool.eq_false_iff.mpr hsubstitutions
      synonyms := Bool.eq_false_iff.mpr hsynonyms }
  · intro h
    simp [h.package, h.segments, h.classPrefix, h.baseClass, h.labels, h.directions,
      h.substitutions, h.synonyms]

theorem validate_eq_ok_iff {c : Config} :
    c.validate = .ok () ↔ c.Checked ∧ (LogLevel.parse? c.logLevelName).isSome := by
  rw [validate, ← fault?_eq_none_iff]
  cases c.fault? with
  | some reason => exact ⟨nofun, nofun⟩
  | none =>
    show c.logLevel.map (fun _ => ()) = .ok () ↔ _
    rw [logLevel]
    cases LogLevel.parse? c.logLevelName with
    | none => exact ⟨nofun, nofun⟩
    | some level => exact ⟨fun _ => ⟨rfl, rfl⟩, fun _ => rfl⟩

theorem emptyLabel?_eq_none_iff {c : Config} :
    c.emptyLabel? = none ↔ Text.trim c.packetIdLabel.toList ≠ [] ∧
      Text.trim c.serverboundLabel.toList ≠ [] ∧ Text.trim c.clientboundLabel.toList ≠ [] := by
  rw [emptyLabel?, Option.map_eq_none_iff, List.find?_eq_none]
  simp only [List.mem_cons, List.not_mem_nil, or_false, forall_eq_or_imp, forall_eq,
    List.isEmpty_iff, ne_eq]

theorem stock_checked : stock.Checked := fault?_eq_none_iff.mp (by decide +kernel)

end Config

theorem stock_validate : Config.stock.validate = .ok () :=
  Config.validate_eq_ok_iff.mpr ⟨Config.stock_checked, by decide +kernel⟩

end WireWrapper
