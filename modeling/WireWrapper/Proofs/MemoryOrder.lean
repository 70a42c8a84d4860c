import WireWrapper.Accessor
import WireWrapper.Proofs.WireOrder.Picks

/-!
# Fields in memory and their slots

The memory order numbers its fields.  A scanned field is the first one in memory with its owner and
name, also where a name is shadowed, declared twice, or shared with a static field; hence it has a
slot, and the slot is a count.

* `Numbered`                      the ordinal of each field is its place in memory;
* `FieldDescriptor.names`         whether a field has the owner and the name of another;
* `IsFirstNamed`                  a field is the first one in memory with its owner and name;
* `scan_isFirstNamed`             every scanned field is the first one with its owner and name;
* `slotsBefore`                   how many fields of its runtime type lie in front of a field;
* `slotIndex_eq_slotsBefore`      this number is the slot.
-/

namespace WireWrapper

/-! ## places in memory -/

/-- each field has its place as its ordinal -/
def Numbered (memory : List FieldDescriptor) : Prop :=
  ∀ (k : Nat) (f : FieldDescriptor), memory[k]? = some f → f.ordinal = k

theorem memoryOrder_numbered (h : Hierarchy) (type : String) : Numbered (h.memoryOrder type) := by
  intro k f hf
  rw [Hierarchy.memoryOrder, List.getElem?_mapIdx] at hf
  obtain ⟨field, _, rfl⟩ := Option.map_eq_some_iff.mp hf
  rfl

/-- whether `g` has the owner and the name of `f` -/
def FieldDescriptor.names (f g : FieldDescriptor) : Bool :=
  g.declaringType == f.declaringType && g.name == f.name

theorem FieldDescriptor.names_iff {f g : FieldDescriptor} :
    f.names g = true ↔ (g.declaringType, g.name) = (f.declaringType, f.name) := by
  rw [FieldDescriptor.names, Bool.and_eq_true, beq_iff_eq, beq_iff_eq, Prod.mk.injEq]

/-- `f` is the first field in memory with its owner and name -/
def IsFirstNamed (memory : List FieldDescriptor) (f : FieldDescriptor) : Prop :=
  memory.find? f.names = some f

/-! ## scanned fields -/

theorem fieldNamed?_isFirstNamed (h : Hierarchy) (type : String) {name : String}
    {f : FieldDescriptor} (hf : h.fieldNamed? type name = some f) :
    IsFirstNamed (h.memoryOrder type) f := by
  obtain ⟨⟨owner, field⟩, _, hfind⟩ := Option.bind_eq_some_iff.mp hf
  have hkey := List.find?_some hfind
  rw [Bool.and_eq_true, beq_iff_eq, beq_iff_eq] at hkey
  obtain ⟨rfl, rfl⟩ := hkey
  exact hfind

/-- **Every scanned field is the first one in memory with its owner and name**, whatever selector
and filter were used. -/
theorem scan_isFirstNamed {σ : Type} (s : Scanner σ) (type : String) (is : List Instruction)
    {fields : List FieldDescriptor} (hs : (s.scan is type).value.1 = .ok fields) :
    ∀ f ∈ fields, IsFirstNamed (s.hierarchy.memoryOrder type) f := by
  rw [Scanner.scan_value] at hs
  split at hs
  case isFalse => cases hs
  rw [Hierarchy.fieldsNamed] at hs
  split at hs
  · cases hs
  · obtain rfl := Except.ok.inj hs
    intro f hf
    obtain ⟨name, _, hn⟩ := List.mem_filterMap.mp (List.mem_filter.mp hf).1
    exact fieldNamed?_isFirstNamed _ _ hn

theorem scanMethod_ok {σ : Type} (s : Scanner σ) (m : MethodBody) {r : ScanResult}
    (hr : (s.scanMethod m).value.1 = .ok r) :
    r.memoryOrder = s.hierarchy.memoryOrder m.declaringType ∧
      ∀ f ∈ r.networkOrder, IsFirstNamed r.memoryOrder f := by
  rw [Scanner.scanMethod_value] at hr
  cases hfields : (s.scan m.instructions m.declaringType).value.1 with
  | error failure => rw [hfields] at hr; cases hr
  | ok fields =>
    rw [hfields] at hr
    obtain rfl := Except.ok.inj hr
    exact ⟨rfl, scan_isFirstNamed s _ _ hfields⟩

/-! ## slots -/

/-- how many fields of its runtime type lie in front of a field -/
def slotsBefore (memory : List FieldDescriptor) (f : FieldDescriptor) : Nat :=
  (memory.take f.ordinal).countP (·.runtimeType == f.runtimeType)

theorem slotIndex_eq_ok_iff {memory : List FieldDescriptor} {f : FieldDescriptor} {i : Nat} :
    slotIndex memory f = .ok i ↔
      (memory.filter (·.runtimeType == f.runtimeType)).findIdx? f.names = some i := by
  have hnames : (fun g : FieldDescriptor => g.declaringType == f.declaringType && g.name == f.name)
      = f.names := rfl
  rw [slotIndex, hnames]
  cases (memory.filter (·.runtimeType == f.runtimeType)).findIdx? f.names with
  | none => simp
  | some index => simp

theorem IsFirstNamed.split {memory : List FieldDescriptor} {f : FieldDescriptor}
    (hf : IsFirstNamed memory f) (hord : Numbered memory) :
    ∃ after, memory = memory.take f.ordinal ++ f :: after ∧
      ∀ g ∈ memory.take f.ordinal, ¬ f.names g = true := by
  obtain ⟨_, before, after, hm, hbefore⟩ := List.find?_eq_some_iff_append.mp hf
  have hplace : f.ordinal = before.length := hord before.length f (by rw [hm]; simp)
  have htake : memory.take f.ordinal = before := by rw [hm, hplace, List.take_left]
  refine ⟨after, by rw [htake, ← hm], fun g hg => ?_⟩
  rw [htake] at hg
  simpa using hbefore g hg

/-- **The slot of a field is the number of fields of its runtime type in front of it.** -/
theorem slotIndex_eq_slotsBefore {memory : List FieldDescriptor} {f : FieldDescriptor}
    (hf : IsFirstNamed memory f) (hord : Numbered memory) :
    slotIndex memory f = .ok (slotsBefore memory f) := by
  obtain ⟨after, hm, hbefore⟩ := hf.split hord
  have hnone : ((memory.take f.ordinal).filter (·.runtimeType == f.runtimeType)).findIdx? f.names
      = none := by
    rw [List.findIdx?_eq_none_iff]
    intro g hg
    exact Bool.eq_false_iff.mpr (hbefore g (List.mem_filter.mp hg).1)
  have hself : f.names f = true := FieldDescriptor.names_iff.mpr rfl
  rw [slotIndex_eq_ok_iff, slotsBefore, List.countP_eq_length_filter]
  generalize memory.take f.ordinal = before at hm hnone
  rw [hm, List.filter_append, List.filter_cons_of_pos (by simp), List.findIdx?_append, hnone,
    List.findIdx?_cons, if_pos hself, Option.none_or, Option.map_some, Nat.zero_add]

theorem names_of_slotIndex_eq {memory : List FieldDescriptor} {f g : FieldDescriptor} {i : Nat}
    (htype : f.runtimeType = g.runtimeType) (hf : slotIndex memory f = .ok i)
    (hg : slotIndex memory g = .ok i) :
    (f.declaringType, f.name) = (g.declaringType, g.name) := by
  rw [slotIndex_eq_ok_iff] at hf hg
  rw [← htype] at hg
  obtain ⟨_, hfn, _⟩ := List.findIdx?_eq_some_iff_getElem.mp hf
  obtain ⟨_, hgn, _⟩ := List.findIdx?_eq_some_iff_getElem.mp hg
  exact (FieldDescriptor.names_iff.mp hfn).symm.trans (FieldDescriptor.names_iff.mp hgn)

end WireWrapper
