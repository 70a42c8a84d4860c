import Mathlib.Data.List.Basic
import WireWrapper.ClassWriter
import WireWrapper.Proofs.ClassText.Methods

/-!
# The members of a class

What the writer puts between the constructors and the closing brace is a list of members: comment
lines and methods.  Which members a documented field gets is decided by its own two descriptions,
the memory order and the writer; neither the message nor the place of the field nor any other field
has a say.

* `Member`, `Member.text`       a comment line or a method, and its text at some depth;
* `FieldEntry.members`          the members of a field with a modifier and a name: those of its getter,
                                then those of its setter;
* `ClassWriter.fieldMembers`    the members of one aligned field;
* `mem_fieldMembers`            all that these can be;
* `ClassWriter.members`         the members of a class, comments for fields past the scan included;
* `writeField_atLine`           the writer adds the text of these members, and nothing else.
-/

namespace WireWrapper

/-- what may stand in a class behind its constructors -/
inductive Member where
  | comment (text : String)
  | method (m : ClassMethod)
deriving DecidableEq, Repr

/-- a member at some depth -/
def Member.text (depth : Nat) : Member → String
  | comment s => lineText depth s
  | method m => m.text depth

theorem Member.text_endsWithBreak (depth : Nat) (member : Member) :
    Source.endsWithBreak (member.text depth) = true := by
  cases member with
  | comment s => exact Source.lineText_endsWithBreak depth s
  | method m => exact m.text_endsWithBreak depth

/-! ## one field -/

/-- the comment in place of an accessor -/
def stubComment (kind : String) (field : FieldDescriptor) : String :=
  "// Cannot generate " ++ kind ++ " " ++ field.name

/-- the members of a field that has a modifier and a name: its methods, or a comment for each of the
two accessors -/
def FieldEntry.members (e : FieldEntry) (config : Config) (n : Normalizer) : List Member :=
  match e.accessor config n with
  | .ok a => (e.methods a).map .method
  | .error _ => [.comment (stubComment "getter" e.field), .comment (stubComment "setter" e.field)]

/-- the members of one accessor: its methods, or a comment in their place -/
def FieldEntry.staged (e : FieldEntry) (config : Config) (n : Normalizer) (kind : String)
    (methods : Accessor → List ClassMethod) : List Member :=
  match e.accessor config n with
  | .ok a => (methods a).map .method
  | .error _ => [.comment (stubComment kind e.field)]

def FieldEntry.getterMembers (e : FieldEntry) (config : Config) (n : Normalizer) : List Member :=
  e.staged config n "getter" e.getters

def FieldEntry.setterMembers (e : FieldEntry) (config : Config) (n : Normalizer) : List Member :=
  e.staged config n "setter" fun a => [e.setter a]

theorem FieldEntry.members_eq (e : FieldEntry) (config : Config) (n : Normalizer) :
    e.members config n = e.getterMembers config n ++ e.setterMembers config n := by
  rw [members, getterMembers, setterMembers, staged, staged]
  cases e.accessor config n with
  | ok a =>
    dsimp only
    rw [methods, List.map_append]
  | error failure => rfl

namespace ClassWriter
variable (c : ClassWriter) (m : MessageType)

def fieldMembers (memory : List FieldDescriptor) (field : FieldDescriptor) (doc : DocField) :
    List Member :=
  match c.catalog.resolve? c.hierarchy field.runtimeType, doc.displayName with
  | none, _ => [.comment ("// Cannot find type for " ++ field.name)]
  | some _, none => []
  | some modifier, some displayName =>
    FieldEntry.members ⟨field, doc, displayName, modifier, memory⟩ c.config c.normalizer

theorem mem_fieldMembers {memory : List FieldDescriptor} {field : FieldDescriptor} {doc : DocField}
    {member : Member} (h : member ∈ c.fieldMembers memory field doc) :
    member = .comment ("// Cannot find type for " ++ field.name) ∨
    member = .comment (stubComment "getter" field) ∨
    member = .comment (stubComment "setter" field) ∨
    ∃ (e : FieldEntry) (a : Accessor) (method : ClassMethod),
      e.doc = doc ∧ doc.displayName = some e.displayName ∧
      c.catalog.resolve? c.hierarchy field.runtimeType = some e.modifier ∧
      e.accessor c.config c.normalizer = .ok a ∧ method ∈ e.methods a ∧ member = .method method := by
  unfold fieldMembers at h
  cases hmodifier : c.catalog.resolve? c.hierarchy field.runtimeType with
  | none =>
    rw [hmodifier] at h
    exact .inl (List.mem_singleton.mp h)
  | some modifier =>
    rw [hmodifier] at h
    cases hname : doc.displayName with
    | none =>
      rw [hname] at h
      cases h
    | some displayName =>
      rw [hname] at h
      dsimp only at h
      unfold FieldEntry.members at h
      split at h
      · next a ha =>
        obtain ⟨method, hmethod, rfl⟩ := List.mem_map.mp h
        exact .inr (.inr (.inr ⟨_, a, method, rfl, rfl, rfl, ha, hmethod, rfl⟩))
      · rcases List.mem_pair.mp h with rfl | rfl
        · exact .inr (.inl rfl)
        · exact .inr (.inr (.inl rfl))

/-- the members of a class: those of each aligned field, then a comment for each documented field
past the scan -/
def members (scan : ScanResult) (docs : List DocField) : List Member :=
  (scan.networkOrder.zip docs).flatMap (fun p => c.fieldMembers scan.memoryOrder p.1 p.2) ++
    (docs.drop scan.networkOrder.length).map fun doc => .comment (missingFieldLine doc)

theorem stageAccessor_value (field : FieldDescriptor) (kind : String)
    (render : Source → Except FieldFailure Source) (w : Source) :
    (stageAccessor m field kind render w).value = (w.stage (stubComment kind field) render).1 := by
  have hstub : "// Cannot generate " ++ kind ++ " " ++ field.name = stubComment kind field := rfl
  rw [stageAccessor, hstub]
  rcases w.stage (stubComment kind field) render with ⟨w, _ | failure⟩ <;> rfl

theorem stageAccessor_atLine (e : FieldEntry) (kind : String)
    {write : Accessor → Source → Source} {methods : Accessor → List ClassMethod}
    (hne : ∀ a, methods a ≠ [])
    (hwrite : ∀ a depth, write a (Source.atLine "" depth)
      = Source.atLine (joinMap (ClassMethod.text depth) (methods a)) depth)
    (text : String) (depth : Nat) :
    (stageAccessor m e.field kind
        (fun staged => (e.accessor c.config c.normalizer).map fun a => write a staged)
        (Source.atLine text depth)).value
      = Source.atLine (text ++ joinMap (Member.text depth)
          (e.staged c.config c.normalizer kind methods)) depth := by
  rw [stageAccessor_value, FieldEntry.staged]
  cases e.accessor c.config c.normalizer with
  | ok a =>
    have hends : Source.endsWithBreak (joinMap (ClassMethod.text depth) (methods a)) = true :=
      Source.endsWithBreak_joinMap (fun m => m.text_endsWithBreak depth) (hne a)
    refine (Source.stage_atLine_ok text depth
      (fun staged => (Except.ok a : Except FieldFailure Accessor).map (write · staged))
      (congrArg Except.ok (hwrite a depth)) hends (stubComment kind e.field)).trans ?_
    dsimp only
    rw [joinMap_map]
    rfl
  | error failure =>
    refine (Source.stage_atLine_error text depth _ rfl (stubComment kind e.field)).trans ?_
    dsimp only
    rw [joinMap_singleton]
    rfl

theorem stageGetter_atLine (e : FieldEntry) (text : String) (depth : Nat) :
    (stageAccessor m e.field "getter"
        (fun staged => (e.accessor c.config c.normalizer).map fun a => writeGetter e a staged)
        (Source.atLine text depth)).value
      = Source.atLine (text ++ joinMap (Member.text depth)
          (e.getterMembers c.config c.normalizer)) depth := by
  have hne : ∀ a, e.getters a ≠ [] := fun _ => List.cons_ne_nil _ _
  refine c.stageAccessor_atLine m e "getter" hne (fun a depth => ?_) text depth
  rw [writeGetter_atLine, String.empty_append]

theorem stageSetter_atLine (e : FieldEntry) (text : String) (depth : Nat) :
    (stageAccessor m e.field "setter"
        (fun staged => (e.accessor c.config c.normalizer).map fun a => writeSetter e a staged)
        (Source.atLine text depth)).value
      = Source.atLine (text ++ joinMap (Member.text depth)
          (e.setterMembers c.config c.normalizer)) depth := by
  have hne : ∀ a, [e.setter a] ≠ [] := fun _ => List.cons_ne_nil _ _
  refine c.stageAccessor_atLine m e "setter" hne (fun a depth => ?_) text depth
  rw [writeSetter_atLine, String.empty_append]

theorem writeAccessors_atLine (e : FieldEntry) (text : String) (depth : Nat) :
    (c.writeAccessors m e (Source.atLine text depth)).value
      = Source.atLine (text ++ joinMap (Member.text depth) (e.members c.config c.normalizer))
          depth := by
  rw [writeAccessors, Logged.value_bind, stageGetter_atLine, stageSetter_atLine, e.members_eq,
    joinMap_append, String.append_assoc]

/-- **An aligned field adds its members**, at whatever place and for whatever message. -/
theorem writeField_atLine (memory : List FieldDescriptor) (pair : AlignedField) (text : String)
    (depth : Nat) :
    (c.writeField m memory pair (Source.atLine text depth)).value
      = Source.atLine
          (text ++ joinMap (Member.text depth) (c.fieldMembers memory pair.scan pair.doc))
          depth := by
  rw [writeField, fieldMembers]
  cases c.catalog.resolve? c.hierarchy pair.scan.runtimeType with
  | none =>
    simp only [Logged.value_bind, Logged.value_pure, Source.line_atLine]
    rw [joinMap_cons, joinMap_nil, String.append_empty]
    rfl
  | some modifier =>
    cases pair.doc.displayName with
    | none =>
      simp only [Logged.value_bind, Logged.value_pure]
      rw [joinMap_nil, String.append_empty]
    | some displayName => exact c.writeAccessors_atLine m _ text depth

theorem writeFields_atLine (memory : List FieldDescriptor) (pairs : List AlignedField)
    (text : String) (depth : Nat) :
    (c.writeFields m memory pairs (Source.atLine text depth)).value
      = Source.atLine (text ++ joinMap (Member.text depth)
          (pairs.flatMap fun p => c.fieldMembers memory p.scan p.doc)) depth := by
  induction pairs generalizing text with
  | nil =>
    rw [List.flatMap_nil, joinMap_nil, String.append_empty]
    rfl
  | cons pair pairs ih =>
    rw [writeFields, Logged.value_bind, writeField_atLine, ih, List.flatMap_cons,
      joinMap_append, String.append_assoc]

end ClassWriter
end WireWrapper
