import WireWrapper.WireOrder

/-!
# Scanning in two steps: names, then fields

`Scanner.walk` picks names, looks each of them up and filters in one pass, and stops at the first
name that is not declared.  The same answer comes from two passes that know nothing of each other:

* `Selector.picks`           the names that a selector picks, whatever they stand for;
* `Hierarchy.fieldNamed?`    the field in memory with the owner and the name that are looked up;
* `Hierarchy.fieldsNamed`    the fields that a list of names stands for, or the first bad name;
* `Scanner.scan_value`       a scan is the one after the other, for every selector.
-/

namespace WireWrapper

/-! ## names -/

/-- the names that a selector picks along a stream, from a state on -/
def Selector.picks {σ : Type} (selector : Selector σ) (type : String) :
    σ → List Instruction → List String
  | _, [] => []
  | state, i :: is =>
    match selector.select state i type with
    | (none, state) => selector.picks type state is
    | (some name, state) => name :: selector.picks type state is

section
variable {σ : Type} {selector : Selector σ} {type name : String} {state next : σ} {i : Instruction}

theorem Selector.picks_cons_none (hs : selector.select state i type = (none, next))
    (is : List Instruction) :
    selector.picks type state (i :: is) = selector.picks type next is := by
  rw [Selector.picks, hs]

theorem Selector.picks_cons_some (hs : selector.select state i type = (some name, next))
    (is : List Instruction) :
    selector.picks type state (i :: is) = name :: selector.picks type next is := by
  rw [Selector.picks, hs]

end

/-! ## fields -/

namespace Hierarchy
variable (h : Hierarchy) (accepts : FieldDescriptor → Bool) (type : String)

/-- the field in memory that a name stands for: the one that has this name in the nearest type that
declares it; none for a static field -/
def fieldNamed? (name : String) : Option FieldDescriptor :=
  (h.findField? type name).bind fun (owner, _) =>
    (h.memoryOrder type).find? fun f => f.declaringType == owner && f.name == name

/-- whether no type from `type` upwards declares a name -/
def isUndeclared (name : String) : Bool := (h.findField? type name).isNone

/-- the accepted fields that names stand for, in their order; an error for the first name that is
not declared -/
def fieldsNamed (names : List String) : Except ScanFailure (List FieldDescriptor) :=
  match names.find? (h.isUndeclared type) with
  | some name => .error (.unresolvedField type name)
  | none => .ok ((names.filterMap (h.fieldNamed? type)).filter accepts)

theorem findField?_name {name owner : String} {field : FieldDecl}
    (hf : h.findField? type name = some (owner, field)) : field.name = name := by
  obtain ⟨above, _, hd⟩ := List.exists_of_findSome?_eq_some hf
  obtain ⟨found, hfound, heq⟩ := Option.map_eq_some_iff.mp hd
  obtain ⟨info, _, hfind⟩ := Option.bind_eq_some_iff.mp hfound
  have hname := List.find?_some hfind
  obtain ⟨_, rfl⟩ := Prod.mk.inj heq
  exact beq_iff_eq.mp hname

theorem fieldsNamed_cons_undeclared {name : String} (hn : h.findField? type name = none)
    (names : List String) :
    h.fieldsNamed accepts type (name :: names) = .error (.unresolvedField type name) := by
  have hb : h.isUndeclared type name = true := by rw [isUndeclared, hn, Option.isNone_none]
  rw [fieldsNamed, List.find?_cons_of_pos hb]

theorem fieldsNamed_cons_declared {name : String} (hn : (h.findField? type name).isSome)
    (names : List String) :
    h.fieldsNamed accepts type (name :: names) = (h.fieldsNamed accepts type names).map
      fun fields => ((h.fieldNamed? type name).toList.filter accepts) ++ fields := by
  have hb : ¬ h.isUndeclared type name = true := by
    rw [isUndeclared, Option.isNone_iff_eq_none]
    exact Option.isSome_iff_ne_none.mp hn
  rw [fieldsNamed, List.find?_cons_of_neg hb, fieldsNamed]
  cases names.find? (h.isUndeclared type) with
  | some bad => rfl
  | none =>
    show Except.ok _ = Except.ok (_ ++ _)
    rw [← List.filter_append]
    cases hd : h.fieldNamed? type name with
    | none => rw [List.filterMap_cons_none hd]; rfl
    | some field => rw [List.filterMap_cons_some hd]; rfl

/-- **A filter commutes with looking names up**: the filtered answer is the filter of the whole
answer. -/
theorem fieldsNamed_filter (names : List String) :
    h.fieldsNamed accepts type names
      = (h.fieldsNamed (fun _ => true) type names).map (List.filter accepts) := by
  unfold fieldsNamed
  cases names.find? (h.isUndeclared type) with
  | some bad => rfl
  | none =>
    show Except.ok _ = Except.ok _
    rw [List.filter_eq_self.mpr fun _ _ => rfl]

theorem fieldsNamed_ne_unknownType (names : List String) (t : String) :
    h.fieldsNamed accepts type names ≠ .error (.unknownType t) := by
  unfold fieldsNamed
  cases names.find? (h.isUndeclared type) with
  | some bad => simp
  | none => simp

end Hierarchy

/-! ## the two passes are the walk -/

namespace Scanner
variable {σ : Type} (h : Hierarchy) (accepts : FieldDescriptor → Bool) (type : String)

theorem record?_undeclared {memory : List FieldDescriptor} {name : String}
    (hn : h.findField? type name = none) :
    record? h memory type name = .error (.unresolvedField type name) := by
  rw [record?, hn]

theorem record?_declared {name : String} (hn : (h.findField? type name).isSome) :
    record? h (h.memoryOrder type) type name = .ok (h.fieldNamed? type name) := by
  obtain ⟨⟨owner, field⟩, hf⟩ := Option.isSome_iff_exists.mp hn
  rw [record?, Hierarchy.fieldNamed?, hf, ← h.findField?_name type hf]
  rfl

/-- **A walk looks up the names that its selector picks.**  Induction on the stream with the state
free: what is picked behind an instruction starts from the state behind it. -/
theorem walk_value (selector : Selector σ) (is : List Instruction) (state : σ) :
    (walk h selector accepts (h.memoryOrder type) type state is).value.1
      = h.fieldsNamed accepts type (selector.picks type state is) := by
  induction is generalizing state with
  | nil => rfl
  | cons i is ih =>
    rw [walk]
    rcases hs : selector.select state i type with ⟨_ | name, next⟩
    · rw [Selector.picks_cons_none hs]
      exact ih next
    · rw [Selector.picks_cons_some hs]
      by_cases hn : (h.findField? type name).isSome
      · rw [h.fieldsNamed_cons_declared accepts type hn, ← ih next]
        simp only [record?_declared h type hn]
        cases hd : h.fieldNamed? type name with
        | none =>
          simp only [Logged.value_bind, Option.toList_none, List.filter_nil, List.nil_append]
          exact (congrFun Except.map_id _).symm
        | some field =>
          simp only [Logged.value_bind, Logged.value_pure, Option.toList_some]
          congr 1
          funext fields
          cases ha : accepts field <;> simp [ha]
      · have hnone : h.findField? type name = none := by
          rwa [Option.not_isSome_iff_eq_none] at hn
        rw [h.fieldsNamed_cons_undeclared accepts type hnone]
        simp only [record?_undeclared h type hnone, Logged.value_pure]

/-- **A scan looks up the names that its selector picks**, once the type is known. -/
theorem scan_value (s : Scanner σ) (is : List Instruction) :
    (s.scan is type).value.1 = if s.hierarchy.contains type then
      s.hierarchy.fieldsNamed s.accepts type (s.selector.picks type (s.selector.reset s.state) is)
      else .error (.unknownType type) := by
  rw [scan]
  by_cases hc : s.hierarchy.contains type
  · rw [if_pos hc, if_pos hc, ← walk_value]
    simp only [Logged.value_bind]
    rcases (walk s.hierarchy s.selector s.accepts (s.hierarchy.memoryOrder type) type
      (s.selector.reset s.state) is).value with ⟨_ | fields, state⟩ <;> rfl
  · rw [if_neg hc, if_neg hc]
    rfl

theorem scan_hierarchy (s : Scanner σ) (is : List Instruction) :
    (s.scan is type).value.2.hierarchy = s.hierarchy := by
  rw [scan]
  by_cases hc : s.hierarchy.contains type
  · rw [if_pos hc]
    simp only [Logged.value_bind]
    rcases (walk s.hierarchy s.selector s.accepts (s.hierarchy.memoryOrder type) type
      (s.selector.reset s.state) is).value with ⟨_ | fields, state⟩ <;> rfl
  · rw [if_neg hc]
    rfl

theorem scanMethod_value (s : Scanner σ) (m : MethodBody) :
    (s.scanMethod m).value.1 = (s.scan m.instructions m.declaringType).value.1.map
      fun fields => ⟨fields, s.hierarchy.memoryOrder m.declaringType⟩ := by
  rw [scanMethod]
  simp only [Logged.value_bind, Logged.value_pure, scan_hierarchy]

end Scanner
end WireWrapper
