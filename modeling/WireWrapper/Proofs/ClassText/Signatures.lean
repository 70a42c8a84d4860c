import WireWrapper.Proofs.CheckedConfig
import WireWrapper.Proofs.ClassText.Compose

/-!
# Methods that Java takes for one

Java refuses a class with two methods of one name and the same types of parameters.  The writer
looks at one field at a time and never back, so nothing keeps two fields apart but their names: a
name that is documented twice gives two getters, and two names with `entityid` in them give
`getEntity` twice over.  These are the only ways; a getter, a setter and the getters for an entity
cannot be taken for one another.

* `Accessor.signatures`          the signatures of the methods of one field;
* `ClassWriter.accessors`        the accessors that a class gets;
* `ClassWriter.signatures`       the signatures of all its methods, in the order of the file;
* `signatures_nodup_iff`         when exactly no signature stands there twice;
* `signatures_clash`             two fields of one name, and two fields for entities.
-/

namespace WireWrapper

/-! ## signatures of a field -/

/-- the signature of a method; comments have none -/
def Member.signature? : Member → Option (String × List String)
  | comment _ => none
  | method m => some m.signature

def Accessor.signatures (a : Accessor) : List (String × List String) :=
  ("get" ++ a.name, []) ::
    ((if namesEntity a.name then [("getEntity", ["World"]), ("getEntity", ["PacketEvent"])] else [])
      ++ [("set" ++ a.name, [a.typing.declared])])

theorem methods_signature (e : FieldEntry) (a : Accessor) :
    (e.methods a).map ClassMethod.signature = a.signatures := by
  rw [FieldEntry.methods, FieldEntry.getters, Accessor.signatures, List.cons_append, List.map_cons,
    List.map_append]
  cases namesEntity a.name <;> rfl

/-- names behind different prefixes of three letters are different -/
theorem set_ne_get (s t : String) : "set" ++ s ≠ "get" ++ t := by
  intro h
  have hlist := congrArg String.toList h
  rw [String.toList_append, String.toList_append] at hlist
  exact absurd (List.cons.inj hlist).1 (by decide)

theorem set_ne_getEntity (s : String) : "set" ++ s ≠ "getEntity" := set_ne_get s "Entity"

theorem mem_signatures {a : Accessor} {x : String × List String} :
    x ∈ a.signatures ↔ x = ("get" ++ a.name, []) ∨ x = ("set" ++ a.name, [a.typing.declared]) ∨
      (namesEntity a.name = true ∧
        (x = ("getEntity", ["World"]) ∨ x = ("getEntity", ["PacketEvent"]))) := by
  rw [Accessor.signatures, List.mem_cons, List.mem_append, List.mem_singleton]
  cases namesEntity a.name with
  | true =>
    rw [if_pos rfl, List.mem_cons, List.mem_singleton]
    grind
  | false =>
    rw [if_neg Bool.false_ne_true]
    grind

/-- the methods of one field are never taken for one another -/
theorem signatures_nodup (a : Accessor) : a.signatures.Nodup := by
  have hset := set_ne_getEntity a.name
  rw [Accessor.signatures]
  cases namesEntity a.name with
  | true => simp [hset.symm]
  | false => simp

/-- those of two fields are not, if the names differ and one of them at most is for an entity -/
theorem signatures_disjoint_iff (a b : Accessor) :
    (∀ x ∈ a.signatures, ∀ y ∈ b.signatures, x ≠ y) ↔
      a.name ≠ b.name ∧ ¬ (namesEntity a.name = true ∧ namesEntity b.name = true) := by
  constructor
  · intro h
    constructor
    · intro hname
      exact h _ (mem_signatures.mpr (.inl rfl)) _ (mem_signatures.mpr (.inl rfl)) (by rw [hname])
    · rintro ⟨ha, hb⟩
      exact h _ (mem_signatures.mpr (.inr (.inr ⟨ha, .inl rfl⟩)))
        _ (mem_signatures.mpr (.inr (.inr ⟨hb, .inl rfl⟩))) rfl
  · rintro ⟨hname, hentity⟩ x hx y hy hxy
    subst hxy
    -- a getter has no parameter, a setter and a getter for an entity have one
    rcases mem_signatures.mp hx with rfl | rfl | ⟨ha, hx⟩
    · rcases mem_signatures.mp hy with hy | hy | ⟨_, hy | hy⟩
      · exact hname ((String.append_right_inj "get").mp (congrArg Prod.fst hy))
      all_goals exact absurd (congrArg Prod.snd hy) (List.cons_ne_nil _ _).symm
    · rcases mem_signatures.mp hy with hy | hy | ⟨_, hy | hy⟩
      · exact absurd (congrArg Prod.snd hy) (List.cons_ne_nil _ _)
      · exact hname ((String.append_right_inj "set").mp (congrArg Prod.fst hy))
      all_goals exact set_ne_getEntity a.name (congrArg Prod.fst hy)
    · rcases mem_signatures.mp hy with rfl | rfl | ⟨hb, _⟩
      · rcases hx with hx | hx <;> exact absurd (congrArg Prod.snd hx) (List.cons_ne_nil _ _).symm
      · rcases hx with hx | hx <;> exact set_ne_getEntity b.name (congrArg Prod.fst hx)
      · exact hentity ⟨ha, hb⟩

/-! ## signatures of a class -/

namespace ClassWriter
variable (c : ClassWriter) (scan : ScanResult) (docs : List DocField)

/-- the accessors of one aligned field, if it gets any -/
def fieldAccessor? (memory : List FieldDescriptor) (field : FieldDescriptor) (doc : DocField) :
    Option Accessor :=
  match c.catalog.resolve? c.hierarchy field.runtimeType, doc.displayName with
  | some modifier, some displayName =>
    (FieldEntry.accessor ⟨field, doc, displayName, modifier, memory⟩ c.config c.normalizer).toOption
  | _, _ => none

def accessors : List Accessor :=
  (scan.networkOrder.zip docs).filterMap fun p => c.fieldAccessor? scan.memoryOrder p.1 p.2

def signatures : List (String × List String) := (c.members scan docs).filterMap Member.signature?

theorem fieldMembers_signatures (memory : List FieldDescriptor) (field : FieldDescriptor)
    (doc : DocField) :
    (c.fieldMembers memory field doc).filterMap Member.signature?
      = (c.fieldAccessor? memory field doc).toList.flatMap Accessor.signatures := by
  rw [fieldMembers, fieldAccessor?]
  cases c.catalog.resolve? c.hierarchy field.runtimeType with
  | none => rfl
  | some modifier =>
    cases doc.displayName with
    | none => rfl
    | some displayName =>
      dsimp only
      rw [FieldEntry.members]
      cases FieldEntry.accessor ⟨field, doc, displayName, modifier, memory⟩ c.config
          c.normalizer with
      | error failure => rfl
      | ok a =>
        dsimp only
        rw [List.filterMap_map]
        show List.filterMap (some ∘ ClassMethod.signature) _ = a.signatures ++ []
        rw [List.filterMap_eq_map, methods_signature, List.append_nil]

theorem signatures_eq_flatMap :
    c.signatures scan docs = (c.accessors scan docs).flatMap Accessor.signatures := by
  have hfields : ∀ pairs : List (FieldDescriptor × DocField),
      (pairs.flatMap fun p => c.fieldMembers scan.memoryOrder p.1 p.2).filterMap Member.signature?
        = (pairs.filterMap fun p => c.fieldAccessor? scan.memoryOrder p.1 p.2).flatMap
            Accessor.signatures := by
    intro pairs
    induction pairs with
    | nil => rfl
    | cons p pairs ih =>
      rw [List.flatMap_cons, List.filterMap_append, fieldMembers_signatures, ih,
        List.filterMap_cons]
      cases c.fieldAccessor? scan.memoryOrder p.1 p.2 with
      | none => rfl
      | some a =>
        rw [Option.toList_some, List.flatMap_singleton]
        exact List.flatMap_cons.symm
  have hstubs : ∀ past : List DocField,
      (past.map fun doc => Member.comment (missingFieldLine doc)).filterMap Member.signature?
        = [] := by
    intro past
    rw [List.filterMap_map]
    exact List.filterMap_eq_nil_iff.mpr fun _ _ => rfl
  rw [signatures, members, List.filterMap_append, hfields, hstubs, List.append_nil, accessors]

end ClassWriter

theorem pairwise_not_both_iff {α : Type} (p : α → Bool) (xs : List α) :
    xs.Pairwise (fun x y => ¬ (p x = true ∧ p y = true)) ↔ (xs.filter p).length ≤ 1 := by
  have hfalse : ∀ ys : List α, ys.Pairwise (fun _ _ => False) ↔ ys.length ≤ 1 := by
    intro ys
    match ys with
    | [] => exact ⟨fun _ => Nat.zero_le 1, fun _ => .nil⟩
    | [y] => exact ⟨fun _ => Nat.le_refl 1, fun _ => List.pairwise_singleton _ y⟩
    | y :: z :: ys =>
      exact ⟨fun h => (List.rel_of_pairwise_cons h List.mem_cons_self).elim,
        fun h => absurd h (by rw [List.length_cons, List.length_cons]; omega)⟩
  rw [← hfalse, List.pairwise_filter]
  simp only [not_and, Bool.not_eq_true, imp_false]

/-- **No signature stands twice in a class exactly if** the names of its accessors differ and one of
them at most is for an entity. -/
theorem signatures_nodup_iff (c : ClassWriter) (m : MessageType) (scan : ScanResult)
    (docs : List DocField) :
    (c.write m scan docs).value
        = c.config.headText m ++ joinMap (Member.text 1) (c.members scan docs) ++ "\x7d\n" ∧
      ((c.signatures scan docs).Nodup ↔
        ((c.accessors scan docs).map Accessor.name).Nodup ∧
        (((c.accessors scan docs).map Accessor.name).filter namesEntity).length ≤ 1) := by
  refine ⟨c.write_value m scan docs, ?_⟩
  rw [c.signatures_eq_flatMap, List.Nodup, List.pairwise_flatMap, ← pairwise_not_both_iff,
    List.Nodup, List.pairwise_map, List.pairwise_map, ← List.pairwise_and_iff]
  simp only [signatures_disjoint_iff]
  exact and_iff_right fun a _ => signatures_nodup a

/-- two numbers that are documented under one name -/
def twinDocs : List DocField := [⟨some "Yaw", "Int", ""⟩, ⟨some "Yaw", "Int", ""⟩]

/-- two numbers of entities, whose names differ -/
def riderDocs : List DocField :=
  [⟨some "Entity ID", "Int", ""⟩, ⟨some "Vehicle Entity ID", "Int", ""⟩]

/-- With settings that can be used, one name twice gives getter and setter twice, and two entities
give both their getters twice. -/
theorem signatures_clash :
    numberWriter.config = .stock ∧ Config.stock.validate = .ok () ∧
    (∀ docs, (numberWriter.write lookMessage ⟨lookFields, lookFields⟩ docs).value
      = numberWriter.config.headText lookMessage ++
          joinMap (Member.text 1) (numberWriter.members ⟨lookFields, lookFields⟩ docs) ++
          "\x7d\n") ∧
    numberWriter.signatures ⟨lookFields, lookFields⟩ twinDocs
      = [("getYaw", []), ("setYaw", ["int"]), ("getYaw", []), ("setYaw", ["int"])] ∧
    numberWriter.signatures ⟨lookFields, lookFields⟩ riderDocs
      = [("getEntityID", []), ("getEntity", ["World"]), ("getEntity", ["PacketEvent"]),
          ("setEntityID", ["int"]), ("getVehicleEntityID", []), ("getEntity", ["World"]),
          ("getEntity", ["PacketEvent"]), ("setVehicleEntityID", ["int"])] ∧
    ¬ (numberWriter.signatures ⟨lookFields, lookFields⟩ twinDocs).Nodup ∧
    ¬ (numberWriter.signatures ⟨lookFields, lookFields⟩ riderDocs).Nodup := by
  refine ⟨rfl, stock_validate, numberWriter.write_value lookMessage ⟨lookFields, lookFields⟩, ?_⟩
  decide +kernel

end WireWrapper
