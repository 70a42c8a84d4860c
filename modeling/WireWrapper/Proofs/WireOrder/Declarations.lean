import Mathlib.Data.List.Basic
import WireWrapper.Proofs.WireOrder.Picks

/-!
# The declaration behind a recorded field

A picked name is looked up twice.  The first search goes through all declarations and stops at the
nearest one of that name, static or not; only its owner is kept.  The second search goes through the
memory order, where static fields do not lie, for a field of that owner and that name.  So it is the
first instance declaration of the owner that is recorded.  That is the declaration found first unless
this one is static; and a name found as that of a static field is recorded all the same if its owner
has an instance field of that name too.

* `Hierarchy.declaredInstance?`     the first instance declaration of a name in one type;
* `FieldDescriptor.declaration`     the declaration that a field in memory comes from, with its owner;
* `memoryOrder_declarations`        the memory order is a row of declarations;
* `fieldNamed?_declaration`         what the second search finds;
* `recorded_declarations`           what a scan records for each picked name;
* `static_read_recorded`            one name for a static and for an instance field of one type.
-/

namespace WireWrapper

/-- the declaration that a field in memory comes from, with the type that declares it -/
def FieldDescriptor.declaration (f : FieldDescriptor) : String × FieldDecl :=
  (f.declaringType, ⟨f.name, f.runtimeType, false⟩)

theorem findSome?_only {α β : Type} [DecidableEq α] {x : α} {xs : List α} (hx : x ∈ xs)
    (answer : Option β) : xs.findSome? (fun y => if y = x then answer else none) = answer := by
  induction xs with
  | nil => cases hx
  | cons y ys ih =>
    rw [List.findSome?_cons]
    by_cases hy : y = x
    · rw [if_pos hy]
      cases answer with
      | none => simp
      | some b => rfl
    · rw [if_neg hy]
      exact ih ((List.mem_cons.mp hx).resolve_left (Ne.symm hy))

namespace Hierarchy
variable (h : Hierarchy)

/-- the first instance declaration of a name in one type -/
def declaredInstance? (type name : String) : Option FieldDecl :=
  (h.get? type).bind fun info => info.fields.find? fun d => !d.isStatic && d.name == name

/-! ## one type -/

theorem declaredInstance?_some {type name : String} {decl : FieldDecl}
    (hd : h.declaredInstance? type name = some decl) : decl.isStatic = false ∧ decl.name = name := by
  obtain ⟨info, _, hfind⟩ := Option.bind_eq_some_iff.mp hd
  have hboth := List.find?_some hfind
  rw [Bool.and_eq_true, Bool.not_eq_true', beq_iff_eq] at hboth
  exact hboth

theorem declaredInstance?_isSome {type name : String} :
    (h.declaredInstance? type name).isSome ↔
      ∃ info decl, h.get? type = some info ∧ decl ∈ info.fields ∧ decl.isStatic = false ∧
        decl.name = name := by
  unfold declaredInstance?
  cases h.get? type with
  | none => simp
  | some info => simp [List.find?_isSome]

/-- the first declaration of a name is the first instance declaration, if it is one -/
theorem declaredInstance?_of_declared {type name : String} {decl : FieldDecl}
    (hd : h.declared? type name = some decl) (hinstance : decl.isStatic = false) :
    h.declaredInstance? type name = some decl := by
  obtain ⟨info, hinfo, hfind⟩ := Option.bind_eq_some_iff.mp hd
  obtain ⟨hname, before, after, hfields, hbefore⟩ := List.find?_eq_some_iff_append.mp hfind
  -- what has another name is no instance declaration of this name either
  have hskipped : before.find? (fun d => !d.isStatic && d.name == name) = none := by
    rw [List.find?_eq_none]
    intro d hd hboth
    rw [Bool.and_eq_true] at hboth
    have hother := hbefore d hd
    rw [hboth.2] at hother
    exact absurd hother (by decide)
  rw [declaredInstance?, hinfo, Option.bind_some, hfields, List.find?_append, hskipped,
    Option.none_or, List.find?_cons_of_pos (by rw [hinstance, hname]; rfl)]

theorem find?_instanceFields (type owner name : String) :
    (h.instanceFields type).find? (fun p => p.1 == owner && p.2.name == name)
      = if type = owner then (h.declaredInstance? owner name).map (owner, ·) else none := by
  unfold instanceFields declaredInstance?
  by_cases ho : type = owner
  · subst ho
    rw [if_pos rfl]
    cases h.get? type with
    | none => rfl
    | some info =>
      simp [List.find?_map, List.find?_filter, beq_eq_decide]
  · rw [if_neg ho]
    cases h.get? type with
    | none => rfl
    | some info =>
      rw [List.find?_eq_none]
      intro p hp
      obtain ⟨field, _, rfl⟩ := List.mem_map.mp hp
      simp [ho]

/-! ## memory -/

/-- **The memory order is a row of declarations**: the instance fields of a type and of its
superclasses. -/
theorem memoryOrder_declarations (type : String) :
    (h.memoryOrder type).map FieldDescriptor.declaration
      = (h.ancestors type).flatMap h.instanceFields := by
  have hfields : ∀ p ∈ (h.ancestors type).flatMap h.instanceFields, p.2.isStatic = false := by
    intro p hp
    obtain ⟨above, _, hp⟩ := List.mem_flatMap.mp hp
    unfold instanceFields at hp
    split at hp
    · obtain ⟨field, hfield, rfl⟩ := List.mem_map.mp hp
      simpa using (List.mem_filter.mp hfield).2
    · cases hp
  unfold memoryOrder
  apply List.ext_getElem
  · simp
  · intro i hi _
    simp only [List.getElem_map, List.getElem_mapIdx]
    have hstatic := hfields _ (List.getElem_mem (by simpa using hi))
    generalize ((h.ancestors type).flatMap h.instanceFields)[i] = p at hstatic
    obtain ⟨owner, name, runtimeType, isStatic⟩ := p
    obtain rfl : isStatic = false := hstatic
    rfl

theorem findField?_some {type name owner : String} {decl : FieldDecl}
    (hf : h.findField? type name = some (owner, decl)) :
    owner ∈ h.ancestors type ∧ h.declared? owner name = some decl := by
  obtain ⟨above, habove, hd⟩ := List.exists_of_findSome?_eq_some hf
  obtain ⟨found, hfound, heq⟩ := Option.map_eq_some_iff.mp hd
  obtain ⟨rfl, rfl⟩ := Prod.mk.inj heq
  exact ⟨habove, hfound⟩

/-- **The field that a name stands for** is the first instance declaration of the name in the type
that declares it next. -/
theorem fieldNamed?_declaration {type name owner : String} {decl : FieldDecl}
    (hf : h.findField? type name = some (owner, decl)) :
    (h.fieldNamed? type name).map FieldDescriptor.declaration
      = (h.declaredInstance? owner name).map (owner, ·) := by
  have howner := (h.findField?_some hf).1
  calc (h.fieldNamed? type name).map FieldDescriptor.declaration
      = ((h.memoryOrder type).map FieldDescriptor.declaration).find?
          (fun p => p.1 == owner && p.2.name == name) := by
        rw [List.find?_map, fieldNamed?, hf]
        rfl
    _ = (h.ancestors type).findSome? fun above =>
          if above = owner then (h.declaredInstance? owner name).map (owner, ·) else none := by
        rw [memoryOrder_declarations, List.find?_flatMap]
        simp only [find?_instanceFields]
    _ = (h.declaredInstance? owner name).map (owner, ·) := by
        exact findSome?_only howner _

theorem mem_memoryOrder_of_fieldNamed? {type name : String} {f : FieldDescriptor}
    (hf : h.fieldNamed? type name = some f) : f ∈ h.memoryOrder type := by
  obtain ⟨_, _, hfind⟩ := Option.bind_eq_some_iff.mp hf
  exact List.mem_of_find?_eq_some hfind

theorem fieldNamed?_of_instance {type name owner : String} {decl : FieldDecl}
    (hf : h.findField? type name = some (owner, decl)) (hinstance : decl.isStatic = false) :
    ∃ f ∈ h.memoryOrder type, h.fieldNamed? type name = some f ∧
      f.declaration = (owner, decl) := by
  have hdecl := h.fieldNamed?_declaration hf
  rw [h.declaredInstance?_of_declared (h.findField?_some hf).2 hinstance, Option.map_some] at hdecl
  obtain ⟨f, hnamed, hfrom⟩ := Option.map_eq_some_iff.mp hdecl
  exact ⟨f, h.mem_memoryOrder_of_fieldNamed? hnamed, hnamed, hfrom⟩

end Hierarchy

/-! ## scans -/

/-- **What a scan records for each picked name.**  The name is declared, and what is recorded is the
first instance declaration of the name in the type whose declaration was found.  That is the
declaration found, in owner, name and runtime type, unless this one is static.  For one that is
static nothing is recorded, unless its owner has an instance field of that name too. -/
theorem recorded_declarations {σ : Type} (s : Scanner σ) (type : String) (is : List Instruction)
    (fields : List FieldDescriptor) (hs : (s.scan is type).value.1 = .ok fields) :
    fields = ((s.selector.picks type (s.selector.reset s.state) is).filterMap
      (s.hierarchy.fieldNamed? type)).filter s.accepts ∧
    ∀ name ∈ s.selector.picks type (s.selector.reset s.state) is, ∃ owner decl,
      s.hierarchy.findField? type name = some (owner, decl) ∧
      (∀ f, s.hierarchy.fieldNamed? type name = some f →
        f ∈ s.hierarchy.memoryOrder type ∧ f.declaringType = owner ∧ f.name = decl.name ∧
          s.hierarchy.declaredInstance? owner name = some ⟨f.name, f.runtimeType, false⟩) ∧
      (decl.isStatic = false → ∃ f, s.hierarchy.fieldNamed? type name = some f ∧
        f.declaringType = owner ∧ f.name = decl.name ∧ f.runtimeType = decl.runtimeType) ∧
      (decl.isStatic = true → ((s.hierarchy.fieldNamed? type name).isSome ↔
        ∃ info other, s.hierarchy.get? owner = some info ∧ other ∈ info.fields ∧
          other.isStatic = false ∧ other.name = name)) := by
  rw [Scanner.scan_value] at hs
  split at hs
  case isFalse => cases hs
  rw [Hierarchy.fieldsNamed] at hs
  split at hs
  case h_1 => cases hs
  case h_2 hdeclared =>
    obtain rfl := Except.ok.inj hs
    refine ⟨rfl, fun name hname => ?_⟩
    -- no picked name is undeclared
    have hfound : (s.hierarchy.findField? type name).isSome := by
      have hnone := List.find?_eq_none.mp hdeclared name hname
      rw [Hierarchy.isUndeclared, Option.isNone_iff_eq_none] at hnone
      exact Option.isSome_iff_ne_none.mpr hnone
    obtain ⟨⟨owner, decl⟩, hf⟩ := Option.isSome_iff_exists.mp hfound
    have hdecl := s.hierarchy.fieldNamed?_declaration hf
    have hsame : decl.name = name := s.hierarchy.findField?_name type hf
    refine ⟨owner, decl, hf, fun f hnamed => ?_, fun hinstance => ?_, fun _ => ?_⟩
    · rw [hnamed, Option.map_some] at hdecl
      obtain ⟨found, hinstance, heq⟩ := Option.map_eq_some_iff.mp hdecl.symm
      obtain ⟨rfl, rfl⟩ := Prod.mk.inj heq
      refine ⟨s.hierarchy.mem_memoryOrder_of_fieldNamed? hnamed, rfl, ?_, hinstance⟩
      exact (s.hierarchy.declaredInstance?_some hinstance).2.trans hsame.symm
    · obtain ⟨f, _, hnamed, hfrom⟩ := s.hierarchy.fieldNamed?_of_instance hf hinstance
      obtain ⟨rfl, rfl⟩ := Prod.mk.inj hfrom
      exact ⟨f, hnamed, rfl, rfl, rfl⟩
    · have hboth := congrArg Option.isSome hdecl
      rw [Option.isSome_map, Option.isSome_map] at hboth
      rw [← s.hierarchy.declaredInstance?_isSome, hboth]

/-! ## one name twice -/

/-- a type whose names are short: `a` is that of a static field and of a number, `s` that of a static
field and, one type further up, of a number -/
def terseHierarchy : Hierarchy :=
  Hierarchy.ofTypes [
    ("Move", ⟨some "Base", [⟨"a", "Logger", true⟩, ⟨"a", "int", false⟩, ⟨"s", "Logger", true⟩,
      ⟨"b", "float", false⟩]⟩),
    ("Base", ⟨none, [⟨"s", "int", false⟩, ⟨"b", "long", false⟩]⟩)]

/-- a stream that reads `a`, `s` and `b`, each in a line of its own -/
def terseStream : List Instruction :=
  [.line 1, .field .getField "Move" "a", .line 2, .field .getField "Move" "s",
    .line 3, .field .getField "Move" "b"]

theorem terseStream_scan :
    ((Scanner.ofSelector terseHierarchy firstReadPerLine).scan terseStream "Move").value.1
      = .ok [⟨"Move", "int", "a", 0⟩, ⟨"Move", "float", "b", 1⟩] := by
  decide

/-- The name `a` is first found as that of a static field, and a number is recorded for it. -/
theorem static_read_recorded :
    ((Scanner.ofSelector terseHierarchy firstReadPerLine).scan terseStream "Move").value.1
      = .ok [⟨"Move", "int", "a", 0⟩, ⟨"Move", "float", "b", 1⟩] ∧
    firstReadPerLine.picks "Move" false terseStream = ["a", "s", "b"] ∧
    terseHierarchy.findField? "Move" "a" = some ("Move", ⟨"a", "Logger", true⟩) ∧
    ¬ ∀ name ∈ firstReadPerLine.picks "Move" false terseStream, ∀ f ∈
        terseHierarchy.fieldNamed? "Move" name, ∃ owner decl,
      terseHierarchy.findField? "Move" name = some (owner, decl) ∧ decl.isStatic = false ∧
        f.declaringType = owner ∧ f.name = decl.name ∧ f.runtimeType = decl.runtimeType := by
  have hpicks : firstReadPerLine.picks "Move" false terseStream = ["a", "s", "b"] := by
    decide
  have hstatic : terseHierarchy.findField? "Move" "a" = some ("Move", ⟨"a", "Logger", true⟩) := by
    decide
  have hnamed : terseHierarchy.fieldNamed? "Move" "a" = some ⟨"Move", "int", "a", 0⟩ := by
    decide
  refine ⟨terseStream_scan, hpicks, hstatic, fun hall => ?_⟩
  obtain ⟨owner, decl, hfound, hinstance, -⟩ := hall "a" (by rw [hpicks]; decide) _ hnamed
  rw [hstatic] at hfound
  obtain ⟨-, rfl⟩ := Prod.mk.inj (Option.some.inj hfound)
  cases hinstance

/-- For `a` the number is recorded that its type declares too, and `b` is the field that was
found. -/
theorem recorded_declarations_terse :
    ((Scanner.ofSelector terseHierarchy firstReadPerLine).scan terseStream "Move").value.1
      = .ok [⟨"Move", "int", "a", 0⟩, ⟨"Move", "float", "b", 1⟩] ∧
    "b" ∈ firstReadPerLine.picks "Move" false terseStream ∧
    ∃ owner decl, terseHierarchy.findField? "Move" "b" = some (owner, decl) ∧
      (decl.isStatic = false → ∃ f, terseHierarchy.fieldNamed? "Move" "b" = some f ∧
        f.declaringType = owner ∧ f.name = decl.name ∧ f.runtimeType = decl.runtimeType) := by
  have hb : "b" ∈ firstReadPerLine.picks "Move" false terseStream := by decide
  obtain ⟨owner, decl, hfound, -, hinstance, -⟩ :=
    (recorded_declarations (Scanner.ofSelector terseHierarchy firstReadPerLine) "Move" terseStream _
      terseStream_scan).2 "b" hb
  exact ⟨terseStream_scan, hb, owner, decl, hfound, hinstance⟩

end WireWrapper
