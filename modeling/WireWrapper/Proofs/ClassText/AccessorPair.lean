import WireWrapper.Proofs.Accessor
import WireWrapper.Proofs.Catalog
import WireWrapper.Proofs.ClassText.Compose
import WireWrapper.Proofs.ClassText.Warnings

/-!
# Getter and setter of one field

The getter and the setter of a field are staged one after the other, and each can be given up on its
own.  They never part, though: both need a name, a type and a slot, and what one of them lacks the
other lacks too.  Where nothing is missing they share all three, and a value that the getter casts to
the declared type is cast back by the setter.

* `FieldEntry.Lacks`            a name, a type or a place in memory is missing;
* `accessor_error_iff_lacks`    this is exactly when there are no accessors;
* `FieldEntry.castTo`           a cast that is there if declared type and modifier's type differ;
* `typingOf_cast`               and so is the cast of an accessor;
* `accessors_agree`             what is written for the getter and for the setter of a field.
-/

namespace WireWrapper

/-! ## types -/

theorem typingOf_cast (n : Normalizer) (m : Modifier) (doc : DocField) :
    (typingOf n m doc).cast = ((typingOf n m doc).declared != m.outputType) := by
  unfold typingOf
  split
  · simp
  · dsimp only
    split
    · simp
    · rfl

/-- a wrapper keeps its own type, and so does a modifier that takes in narrower values -/
theorem typingOf_keeps {n : Normalizer} {m : Modifier} {doc : DocField}
    (h : m.isWrapper = true ∨
      (m.isWidening = true ∧ isNarrow (n.normalize doc.typeText) = true)) :
    (typingOf n m doc).declared = m.outputType := by
  unfold typingOf
  split
  · rfl
  · next hwrapper =>
    obtain ⟨hwidening, hnarrow⟩ := h.resolve_left hwrapper
    dsimp only
    rw [hwidening, hnarrow]
    rfl

/-- any other modifier leaves the type to the documentation -/
theorem typingOf_documented {n : Normalizer} {m : Modifier} {doc : DocField}
    (h : ¬ (m.isWrapper = true ∨
      (m.isWidening = true ∧ isNarrow (n.normalize doc.typeText) = true))) :
    (typingOf n m doc).declared = n.normalize doc.typeText := by
  obtain ⟨hwrapper, hnarrow⟩ := not_or.mp h
  rw [← Bool.and_eq_true] at hnarrow
  unfold typingOf
  rw [if_neg hwrapper]
  dsimp only
  rw [if_neg hnarrow]

theorem isNarrow_empty : isNarrow "" = false := by decide

theorem typingOf_declared_eq_empty_iff {n : Normalizer} {m : Modifier} {doc : DocField}
    (hm : m.outputType ≠ "") :
    (typingOf n m doc).declared = "" ↔ m.isWrapper = false ∧ n.normalize doc.typeText = "" := by
  by_cases hkeeps : m.isWrapper = true ∨
      (m.isWidening = true ∧ isNarrow (n.normalize doc.typeText) = true)
  · rw [typingOf_keeps hkeeps]
    refine iff_of_false hm ?_
    rintro ⟨hwrapper, hempty⟩
    rcases hkeeps with h | ⟨_, hnarrow⟩
    · rw [hwrapper] at h
      cases h
    · rw [hempty, isNarrow_empty] at hnarrow
      cases hnarrow
  · rw [typingOf_documented hkeeps]
    exact (and_iff_right (Bool.eq_false_iff.mpr (not_or.mp hkeeps).1)).symm

/-! ## what is missing -/

/-- memory holds no field of this runtime type, owner and name -/
def MissingInMemory (memory : List FieldDescriptor) (field : FieldDescriptor) : Prop :=
  ∀ f ∈ memory, ¬ (f.runtimeType = field.runtimeType ∧ f.declaringType = field.declaringType ∧
    f.name = field.name)

theorem slotIndex_eq_error_iff {memory : List FieldDescriptor} {field : FieldDescriptor} :
    (∃ failure, slotIndex memory field = .error failure) ↔ MissingInMemory memory field := by
  have hnone : ((memory.filter (·.runtimeType == field.runtimeType)).findIdx? fun f =>
      f.declaringType == field.declaringType && f.name == field.name) = none ↔
      MissingInMemory memory field := by
    rw [List.findIdx?_eq_none_iff]
    simp [MissingInMemory, List.mem_filter]
  rw [← hnone]
  unfold slotIndex
  dsimp only
  split
  · next index hindex =>
    rw [hindex]
    exact iff_of_false (by simp) (by simp)
  · next hindex =>
    rw [hindex]
    exact iff_of_true ⟨_, rfl⟩ rfl

namespace FieldEntry
variable {e : FieldEntry} {config : Config} {n : Normalizer}

/-- a name, a type or a place in memory is missing -/
def Lacks (e : FieldEntry) (config : Config) (n : Normalizer) : Prop :=
  Name.accessor e.displayName config.nameSynonyms = "" ∨
  (e.modifier.isWrapper = false ∧ n.normalize e.doc.typeText = "") ∨
  MissingInMemory e.memoryOrder e.field

/-- **There are no accessors exactly if something is missing**, and what is missing is the failure;
no text is ever refused. -/
theorem accessor_error_iff_lacks (hm : e.modifier.outputType ≠ "") :
    (∃ failure, e.accessor config n = .error failure) ↔ e.Lacks config n := by
  unfold accessor Lacks
  dsimp only
  rw [← typingOf_declared_eq_empty_iff hm, ← slotIndex_eq_error_iff]
  by_cases hname : Name.accessor e.displayName config.nameSynonyms = ""
  · rw [if_pos (String.isEmpty_iff.mpr hname)]
    exact iff_of_true ⟨_, rfl⟩ (.inl hname)
  · rw [if_neg (mt String.isEmpty_iff.mp hname), or_iff_right hname]
    by_cases htype : (typingOf n e.modifier e.doc).declared = ""
    · rw [if_pos (String.isEmpty_iff.mpr htype)]
      exact iff_of_true ⟨_, rfl⟩ (.inl htype)
    · rw [if_neg (mt String.isEmpty_iff.mp htype), or_iff_right htype]
      cases slotIndex e.memoryOrder e.field with
      | ok index => exact iff_of_false (by rintro ⟨_, h⟩; cases h) (by rintro ⟨_, h⟩; cases h)
      | error failure => exact iff_of_true ⟨_, rfl⟩ ⟨_, rfl⟩

theorem accessor_error_ne_format {failure : FieldFailure}
    (h : e.accessor config n = .error failure) : failure ≠ .format := by
  unfold accessor at h
  dsimp only at h
  split at h
  · cases h
    exact nofun
  · split at h
    · cases h
      exact nofun
    · unfold slotIndex at h
      dsimp only at h
      split at h
      · cases h
      · cases h
        exact nofun

def declaredType (e : FieldEntry) (n : Normalizer) : String := (typingOf n e.modifier e.doc).declared

/-- a cast to a type, where the declared type and that of the modifier differ -/
def castTo (e : FieldEntry) (n : Normalizer) (type : String) : String :=
  if e.declaredType n = e.modifier.outputType then "" else " (" ++ type ++ ")"

theorem castText_typingOf (type : String) :
    castText (typingOf n e.modifier e.doc).cast type = e.castTo n type := by
  rw [typingOf_cast, castText, castTo, declaredType]
  by_cases h : (typingOf n e.modifier e.doc).declared = e.modifier.outputType
  · rw [if_pos h, if_neg (by simp [h])]
  · rw [if_neg h, if_pos (by simp [h])]

end FieldEntry

/-! ## getter and setter -/

namespace FieldEntry
variable {e : FieldEntry} {config : Config} {n : Normalizer}

theorem staged_ok {a : Accessor} (h : e.accessor config n = .ok a) (kind : String)
    (methods : Accessor → List ClassMethod) :
    e.staged config n kind methods = (methods a).map .method := by
  rw [staged, h]

theorem staged_eq_comment_iff {kind : String} {methods : Accessor → List ClassMethod} :
    e.staged config n kind methods = [.comment (stubComment kind e.field)] ↔
      ∃ failure, e.accessor config n = .error failure := by
  unfold staged
  cases e.accessor config n with
  | error failure => exact iff_of_true rfl ⟨failure, rfl⟩
  | ok a =>
    refine iff_of_false (fun h => ?_) (by rintro ⟨_, h⟩; cases h)
    -- no method is a comment
    have hmem : Member.comment (stubComment kind e.field) ∈ (methods a).map Member.method := by
      dsimp only at h
      rw [h]
      exact List.mem_singleton_self _
    obtain ⟨method, _, hmethod⟩ := List.mem_map.mp hmem
    cases hmethod

end FieldEntry

/-- **Getter and setter agree.**  What is written for a field is what its getter adds and then what
its setter adds.  Each of them is a comment exactly if a name, a type or a place in memory is missing,
so both are or none, and the warnings name what is missing.  Otherwise both have the same name behind
`get` and `set`, the same accessor of the packet handle and the same slot; the type that the getter
returns is the type that the setter takes; and both cast exactly if this type is not that of the
modifier, which it always is for a wrapper and for narrow documentation over a widening type. -/
theorem accessors_agree (c : ClassWriter) (m : MessageType) (e : FieldEntry)
    (entries : List Modifier) (catalog : Catalog) (hc : Catalog.ofEntries entries = .ok catalog)
    (hm : e.modifier ∈ catalog.modifiers) :
    (∀ text depth,
      (ClassWriter.stageAccessor m e.field "getter"
          (fun staged => (e.accessor c.config c.normalizer).map fun a => writeGetter e a staged)
          (Source.atLine text depth)).value
        = Source.atLine (text ++ joinMap (Member.text depth)
            (e.getterMembers c.config c.normalizer)) depth ∧
      (ClassWriter.stageAccessor m e.field "setter"
          (fun staged => (e.accessor c.config c.normalizer).map fun a => writeSetter e a staged)
          (Source.atLine text depth)).value
        = Source.atLine (text ++ joinMap (Member.text depth)
            (e.setterMembers c.config c.normalizer)) depth ∧
      (c.writeAccessors m e (Source.atLine text depth)).value
        = Source.atLine (text ++ joinMap (Member.text depth)
            (e.getterMembers c.config c.normalizer ++ e.setterMembers c.config c.normalizer))
            depth) ∧
    (e.getterMembers c.config c.normalizer = [.comment (stubComment "getter" e.field)] ↔
      e.Lacks c.config c.normalizer) ∧
    (e.setterMembers c.config c.normalizer = [.comment (stubComment "setter" e.field)] ↔
      e.Lacks c.config c.normalizer) ∧
    (e.Lacks c.config c.normalizer → ∃ failure, failure ≠ .format ∧
      ∀ w, (c.writeAccessors m e w).events = [ClassWriter.accessorWarning m e.field "getter" failure,
        ClassWriter.accessorWarning m e.field "setter" failure]) ∧
    (¬ e.Lacks c.config c.normalizer → ∃ index,
      slotIndex e.memoryOrder e.field = .ok index ∧
      e.getterMembers c.config c.normalizer = .method
        { doc := getterDoc e
          result := e.declaredType c.normalizer
          name := "get" ++ Name.accessor e.displayName c.config.nameSynonyms
          params := []
          body := "return" ++ e.castTo c.normalizer (e.declaredType c.normalizer) ++ " handle." ++
            e.modifier.accessor ++ ".read(" ++ toString index ++ ");" } ::
        (if namesEntity (Name.accessor e.displayName c.config.nameSynonyms) then
          [worldGetter index, eventGetter] else []).map .method ∧
      e.setterMembers c.config c.normalizer = [.method
        { doc := setterDoc e
          result := "void"
          name := "set" ++ Name.accessor e.displayName c.config.nameSynonyms
          params := [(e.declaredType c.normalizer, "value")]
          body := "handle." ++ e.modifier.accessor ++ ".write(" ++ toString index ++ "," ++
            e.castTo c.normalizer e.modifier.outputType ++ " value);" }] ∧
      ∀ w, (c.writeAccessors m e w).events = []) ∧
    (e.modifier.isWrapper = true ∨ (e.modifier.isWidening = true ∧
        isNarrow (c.normalizer.normalize e.doc.typeText) = true) →
      e.declaredType c.normalizer = e.modifier.outputType) := by
  have houtput := Modifier.outputType_ne_empty (Catalog.mem_of_ofEntries hc hm).2.2
  have hlacks : (∃ failure, e.accessor c.config c.normalizer = .error failure) ↔
      e.Lacks c.config c.normalizer := FieldEntry.accessor_error_iff_lacks houtput
  refine ⟨fun text depth => ⟨c.stageGetter_atLine m e text depth, c.stageSetter_atLine m e text depth,
    ?_⟩, ?_, ?_, ?_, ?_, typingOf_keeps⟩
  · rw [c.writeAccessors_atLine, e.members_eq]
  · exact FieldEntry.staged_eq_comment_iff.trans hlacks
  · exact FieldEntry.staged_eq_comment_iff.trans hlacks
  · intro h
    obtain ⟨failure, hfailure⟩ := hlacks.mpr h
    refine ⟨failure, FieldEntry.accessor_error_ne_format hfailure, fun w => ?_⟩
    rw [c.writeAccessors_events, ClassWriter.entryWarnings, hfailure]
  · intro h
    cases haccessor : e.accessor c.config c.normalizer with
    | error failure => exact absurd (hlacks.mp ⟨failure, haccessor⟩) h
    | ok a =>
      obtain ⟨hname, htyping, hindex⟩ := FieldEntry.accessor_eq_ok haccessor
      refine ⟨a.index, hindex, ?_, ?_, fun w => ?_⟩
      · rw [FieldEntry.getterMembers, FieldEntry.staged_ok haccessor, FieldEntry.getters,
          List.map_cons, FieldEntry.getter, htyping, hname, FieldEntry.castText_typingOf]
        rfl
      · rw [FieldEntry.setterMembers, FieldEntry.staged_ok haccessor, List.map_singleton,
          FieldEntry.setter, htyping, hname, FieldEntry.castText_typingOf]
        rfl
      · rw [c.writeAccessors_events, ClassWriter.entryWarnings, haccessor]

/-- a number that is documented as a longer one -/
def seedEntry : FieldEntry where
  field := ⟨"Look", "int", "b", 1⟩
  doc := ⟨some "Hashed seed", "VarLong", ""⟩
  displayName := "Hashed seed"
  modifier := ⟨"int", "int", "getIntegers()", false⟩
  memoryOrder := lookFields

theorem seedEntry_complete : ¬ seedEntry.Lacks numberWriter.config numberWriter.normalizer := by
  unfold FieldEntry.Lacks MissingInMemory
  decide

/-- The getter casts to the longer type, and the setter casts back. -/
theorem accessors_agree_seed :
    Catalog.ofEntries [seedEntry.modifier] = .ok numberWriter.catalog ∧
    seedEntry.modifier ∈ numberWriter.catalog.modifiers ∧
    ¬ seedEntry.Lacks numberWriter.config numberWriter.normalizer ∧
    seedEntry.getterMembers numberWriter.config numberWriter.normalizer = [.method
      { doc := ["/**", " * Retrieve Hashed seed.", " * @return The current Hashed seed", " */"]
        result := "long"
        name := "getHashedSeed"
        params := []
        body := "return (long) handle.getIntegers().read(1);" }] ∧
    seedEntry.setterMembers numberWriter.config numberWriter.normalizer = [.method
      { doc := ["/**", " * Set Hashed seed.", " * @param value - new value.", " */"]
        result := "void"
        name := "setHashedSeed"
        params := [("long", "value")]
        body := "handle.getIntegers().write(1, (int) value);" }] := by
  have hm : seedEntry.modifier ∈ numberWriter.catalog.modifiers := by decide
  obtain ⟨-, -, -, -, hcomplete, -⟩ := accessors_agree numberWriter lookMessage seedEntry
    [seedEntry.modifier] numberWriter.catalog rfl hm
  obtain ⟨index, hindex, hget, hset, -⟩ := hcomplete seedEntry_complete
  have hslot : slotIndex seedEntry.memoryOrder seedEntry.field = .ok 1 := by decide
  obtain rfl : index = 1 := Except.ok.inj (hindex.symm.trans hslot)
  refine ⟨rfl, hm, seedEntry_complete, hget.trans ?_, hset.trans ?_⟩
  · decide
  · decide

end WireWrapper
