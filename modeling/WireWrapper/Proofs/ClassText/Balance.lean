import Mathlib.Algebra.GroupWithZero.Nat
import WireWrapper.Proofs.ClassText.Signatures
import WireWrapper.Proofs.ClassText.Warnings
import WireWrapper.Proofs.Warnings

/-!
# Every documented field is accounted for

An aligned field ends in one of four ways, and each way has its price in comments and in warnings.
A documented field past the scan is a comment, and that the counts differ is one warning for the
class.  So a class is written without a warning only if nothing is missing from it.

* `Outcome`, `ClassWriter.outcome`         how an aligned field ends;
* `Outcome.comments`, `Outcome.warnings`   what each end costs;
* `Accessed`                               members with one getter and one setter;
* `fieldMembers_cases`                     the members that go with each end;
* `members_comments`, `write_warnings`     what a class costs, as a sum over its fields;
* `write_balance`                          comments, warnings and accessors of a whole class.
-/

namespace WireWrapper

/-! ## ends of fields -/

inductive Outcome where
  /-- the runtime type has no modifier -/
  | noModifier
  /-- there is a modifier, but no documented name -/
  | noName
  /-- there are both, but name, type or index of the accessors cannot be had -/
  | failed
  | built
deriving DecidableEq, Repr

def Outcome.comments : Outcome → Nat
  | noModifier => 1
  | noName => 0
  | failed => 2
  | built => 0

def Outcome.warnings : Outcome → Nat
  | noModifier => 1
  | noName => 1
  | failed => 2
  | built => 0

theorem sum_comments (os : List Outcome) :
    (os.map Outcome.comments).sum = os.count .noModifier + 2 * os.count .failed := by
  induction os with
  | nil => rfl
  | cons o os ih =>
    rw [List.map_cons, List.sum_cons, ih]
    cases o <;> simp [Outcome.comments] <;> omega

theorem sum_warnings (os : List Outcome) :
    (os.map Outcome.warnings).sum
      = os.count .noModifier + os.count .noName + 2 * os.count .failed := by
  induction os with
  | nil => rfl
  | cons o os ih =>
    rw [List.map_cons, List.sum_cons, ih]
    cases o <;> simp [Outcome.warnings] <;> omega

/-! ## accessors among members -/

def Member.isComment : Member → Bool
  | comment _ => true
  | method _ => false

/-- a method without parameters; the getters of an entity have one -/
def Member.isGetter : Member → Bool
  | comment _ => false
  | method m => m.params.isEmpty

/-- a method with a parameter and without a result -/
def Member.isSetter : Member → Bool
  | comment _ => false
  | method m => !m.params.isEmpty && m.result == "void"

/-- members with one getter and one setter -/
def Accessed (ms : List Member) : Prop :=
  ms.countP Member.isGetter = 1 ∧ ms.countP Member.isSetter = 1

instance (ms : List Member) : Decidable (Accessed ms) := instDecidableAnd

theorem methods_accessed (e : FieldEntry) (a : Accessor) :
    Accessed ((e.methods a).map Member.method) := by
  rw [FieldEntry.methods, FieldEntry.getters]
  cases namesEntity a.name <;> exact ⟨rfl, rfl⟩

theorem methods_comments (e : FieldEntry) (a : Accessor) :
    ((e.methods a).map Member.method).countP Member.isComment = 0 := by
  rw [List.countP_map]
  exact List.countP_eq_zero.mpr fun _ _ => Bool.false_ne_true

/-! ## one field -/

namespace ClassWriter
variable (c : ClassWriter) (m : MessageType)

/-- how an aligned field ends -/
def outcome (memory : List FieldDescriptor) (field : FieldDescriptor) (doc : DocField) : Outcome :=
  match c.catalog.resolve? c.hierarchy field.runtimeType, doc.displayName with
  | none, _ => .noModifier
  | some _, none => .noName
  | some modifier, some displayName =>
    match FieldEntry.accessor ⟨field, doc, displayName, modifier, memory⟩ c.config c.normalizer with
    | .ok _ => .built
    | .error _ => .failed

section
variable (memory : List FieldDescriptor) (field : FieldDescriptor) (doc : DocField)

theorem fieldMembers_cases :
    (c.outcome memory field doc = .noModifier ∧
      ∃ s, c.fieldMembers memory field doc = [.comment s]) ∨
    (c.outcome memory field doc = .noName ∧ c.fieldMembers memory field doc = []) ∨
    (c.outcome memory field doc = .failed ∧
      ∃ s t, c.fieldMembers memory field doc = [.comment s, .comment t]) ∨
    (c.outcome memory field doc = .built ∧
      ∃ (e : FieldEntry) (a : Accessor), e.doc = doc ∧ doc.displayName = some e.displayName ∧
        c.fieldMembers memory field doc = (e.methods a).map .method) := by
  rw [outcome, fieldMembers]
  cases c.catalog.resolve? c.hierarchy field.runtimeType with
  | none => exact .inl ⟨rfl, _, rfl⟩
  | some modifier =>
    cases hname : doc.displayName with
    | none => exact .inr (.inl ⟨rfl, rfl⟩)
    | some displayName =>
      dsimp only
      rw [FieldEntry.members]
      rcases FieldEntry.accessor ⟨field, doc, displayName, modifier, memory⟩ c.config
        c.normalizer with failure | a
      · exact .inr (.inr (.inl ⟨rfl, _, _, rfl⟩))
      · exact .inr (.inr (.inr ⟨rfl, _, a, rfl, rfl, rfl⟩))

theorem fieldMembers_comments :
    (c.fieldMembers memory field doc).countP Member.isComment
      = (c.outcome memory field doc).comments := by
  rcases c.fieldMembers_cases memory field doc with
    ⟨ho, s, hm⟩ | ⟨ho, hm⟩ | ⟨ho, s, t, hm⟩ | ⟨ho, e, a, -, -, hm⟩
  · rw [ho, hm]; rfl
  · rw [ho, hm]; rfl
  · rw [ho, hm]; rfl
  · rw [ho, hm]; exact methods_comments e a

theorem fieldMembers_accessed :
    Accessed (c.fieldMembers memory field doc) ↔ c.outcome memory field doc = .built := by
  rcases c.fieldMembers_cases memory field doc with
    ⟨ho, s, hm⟩ | ⟨ho, hm⟩ | ⟨ho, s, t, hm⟩ | ⟨ho, e, a, -, -, hm⟩
  · rw [ho, hm]; exact iff_of_false (by simp [Accessed, Member.isGetter]) (by decide)
  · rw [ho, hm]; exact iff_of_false (by simp [Accessed]) (by decide)
  · rw [ho, hm]; exact iff_of_false (by simp [Accessed, Member.isGetter]) (by decide)
  · rw [ho, hm]; exact iff_of_true (methods_accessed e a) rfl

end

theorem fieldWarnings_warnings (memory : List FieldDescriptor) (pair : AlignedField) :
    (c.fieldWarnings m memory pair).countP Event.isWarning
      = (c.outcome memory pair.scan pair.doc).warnings := by
  rw [fieldWarnings, outcome]
  cases c.catalog.resolve? c.hierarchy pair.scan.runtimeType with
  | none => rfl
  | some modifier =>
    cases pair.doc.displayName with
    | none => rfl
    | some displayName =>
      dsimp only
      rw [entryWarnings]
      rcases FieldEntry.accessor ⟨pair.scan, pair.doc, displayName, modifier, memory⟩ c.config
        c.normalizer with failure | a
      · rfl
      · rfl

/-! ## a class -/

variable (scan : ScanResult) (docs : List DocField)

def outcomes : List Outcome :=
  (scan.networkOrder.zip docs).map fun p => c.outcome scan.memoryOrder p.1 p.2

theorem members_comments :
    (c.members scan docs).countP Member.isComment
      = ((c.outcomes scan docs).map Outcome.comments).sum
        + (docs.length - scan.networkOrder.length) := by
  have hfields : ((scan.networkOrder.zip docs).flatMap fun p =>
        c.fieldMembers scan.memoryOrder p.1 p.2).countP Member.isComment
      = ((c.outcomes scan docs).map Outcome.comments).sum := by
    rw [List.countP_flatMap, outcomes, List.map_map]
    refine congrArg List.sum (List.map_congr_left fun p _ => ?_)
    exact c.fieldMembers_comments scan.memoryOrder p.1 p.2
  have hpast : ((docs.drop scan.networkOrder.length).map fun doc =>
        Member.comment (missingFieldLine doc)).countP Member.isComment
      = docs.length - scan.networkOrder.length := by
    rw [List.countP_map, ← List.length_drop]
    exact List.countP_eq_length.mpr fun _ _ => rfl
  rw [members, List.countP_append, hfields, hpast]

theorem write_warnings :
    (c.write m scan docs).warnings
      = (if scan.networkOrder.length = docs.length then 0 else 1)
        + ((c.outcomes scan docs).map Outcome.warnings).sum := by
  have hmismatch : (reportMismatch m (align scan.networkOrder docs).mismatch).events.countP
        Event.isWarning = if scan.networkOrder.length = docs.length then 0 else 1 := by
    show (reportMismatch m (if _ then none else some _)).events.countP _ = _
    split <;> rfl
  have hfields : ((align scan.networkOrder docs).pairs.flatMap
        (c.fieldWarnings m scan.memoryOrder)).countP Event.isWarning
      = ((c.outcomes scan docs).map Outcome.warnings).sum := by
    rw [List.countP_flatMap, outcomes, ← align_pairs, List.map_map, List.map_map]
    refine congrArg List.sum (List.map_congr_left fun pair _ => ?_)
    exact c.fieldWarnings_warnings m scan.memoryOrder pair
  have hend : [c.finishedEvent m].countP Event.isWarning = 0 := rfl
  rw [Logged.warnings, write_events, List.countP_append, List.countP_append, hmismatch, hfields,
    hend, Nat.add_zero]

/-- no warning, no gap -/
theorem write_warnings_eq_zero :
    (c.write m scan docs).warnings = 0 ↔
      scan.networkOrder.length = docs.length ∧
        ∀ p ∈ scan.networkOrder.zip docs, c.outcome scan.memoryOrder p.1 p.2 = .built := by
  have hfree : ∀ o : Outcome, o.warnings = 0 ↔ o = .built := by
    intro o
    cases o <;> decide
  rw [write_warnings, Nat.add_eq_zero_iff, List.sum_eq_zero_iff_forall_eq_nat, outcomes,
    List.map_map, List.forall_mem_map]
  refine and_congr ?_ (forall_congr' fun p => imp_congr_right fun _ => hfree _)
  split <;> simp_all

end ClassWriter

theorem forall_mem_zip_iff {α β : Type} {xs : List α} {ys : List β} (h : xs.length = ys.length)
    (P : α → β → Prop) :
    (∀ p ∈ xs.zip ys, P p.1 p.2) ↔
      ∀ (i : Nat) (y : β), ys[i]? = some y → ∃ x, xs[i]? = some x ∧ P x y := by
  constructor
  · intro hall i y hy
    have hi : i < xs.length := h ▸ (List.getElem?_eq_some_iff.mp hy).1
    have hx : xs[i]? = some xs[i] := List.getElem?_eq_getElem hi
    exact ⟨xs[i], hx, hall (xs[i], y) (List.mem_of_getElem? (List.getElem?_zip_eq_some.mpr ⟨hx, hy⟩))⟩
  · intro hall p hp
    obtain ⟨i, hi⟩ := List.mem_iff_getElem?.mp hp
    obtain ⟨hx, hy⟩ := List.getElem?_zip_eq_some.mp hi
    obtain ⟨x, hx', hP⟩ := hall i p.2 hy
    rw [hx] at hx'
    rwa [← Option.some.inj hx'] at hP

/-- **Every documented field is accounted for.**  Comments and warnings are told by how the aligned
fields end and by the counts; a field gets a getter and a setter exactly if nothing is in the way;
and a class without a warning has both for every documented field. -/
theorem write_balance (c : ClassWriter) (m : MessageType) (scan : ScanResult)
    (docs : List DocField) :
    (c.write m scan docs).value
        = c.config.headText m ++ joinMap (Member.text 1) (c.members scan docs) ++ "\x7d\n" ∧
      (c.members scan docs).countP Member.isComment
        = (c.outcomes scan docs).count .noModifier + 2 * (c.outcomes scan docs).count .failed
          + (docs.length - scan.networkOrder.length) ∧
      (c.write m scan docs).warnings
        = (if scan.networkOrder.length = docs.length then 0 else 1)
          + ((c.outcomes scan docs).count .noModifier + (c.outcomes scan docs).count .noName
            + 2 * (c.outcomes scan docs).count .failed) ∧
      (∀ p ∈ scan.networkOrder.zip docs,
        Accessed (c.fieldMembers scan.memoryOrder p.1 p.2)
          ↔ c.outcome scan.memoryOrder p.1 p.2 = .built) ∧
      ((c.write m scan docs).warnings = 0 ↔
        scan.networkOrder.length = docs.length ∧
          ∀ (i : Nat) (doc : DocField), docs[i]? = some doc →
            ∃ field, scan.networkOrder[i]? = some field ∧
              Accessed (c.fieldMembers scan.memoryOrder field doc)) := by
  refine ⟨c.write_value m scan docs, ?_, ?_, ?_, ?_⟩
  · rw [c.members_comments, sum_comments]
  · rw [c.write_warnings, sum_warnings]
  · intro p _
    exact c.fieldMembers_accessed scan.memoryOrder p.1 p.2
  · rw [c.write_warnings_eq_zero]
    refine and_congr_right fun hlength => ?_
    rw [← forall_mem_zip_iff hlength fun field doc =>
      Accessed (c.fieldMembers scan.memoryOrder field doc)]
    exact forall₂_congr fun p _ => (c.fieldMembers_accessed scan.memoryOrder p.1 p.2).symm

/-! ## one of each -/

/-- a field whose type nobody knows, and three numbers -/
def mixedFields : List FieldDescriptor :=
  [⟨"Look", "Mystery", "m", 0⟩, ⟨"Look", "int", "a", 1⟩, ⟨"Look", "int", "b", 2⟩,
    ⟨"Look", "int", "c", 3⟩]

/-- the second has no name, the third none that could be that of a method, the fifth no field -/
def mixedDocs : List DocField :=
  [⟨some "Kind", "Int", ""⟩, ⟨none, "Int", ""⟩, ⟨some "-", "Int", ""⟩, ⟨some "Yaw", "Int", ""⟩,
    ⟨some "Roll", "Int", ""⟩]

/-- Four comments and five warnings; the fourth field has both accessors. -/
theorem write_balance_mixed :
    (numberWriter.members ⟨mixedFields, mixedFields⟩ mixedDocs).countP Member.isComment = 4 ∧
    (numberWriter.write lookMessage ⟨mixedFields, mixedFields⟩ mixedDocs).warnings = 5 ∧
    ((⟨"Look", "int", "c", 3⟩, ⟨some "Yaw", "Int", ""⟩) : FieldDescriptor × DocField)
      ∈ mixedFields.zip mixedDocs ∧
    Accessed (numberWriter.fieldMembers mixedFields ⟨"Look", "int", "c", 3⟩
      ⟨some "Yaw", "Int", ""⟩) ∧
    mixedDocs[3]? = some ⟨some "Yaw", "Int", ""⟩ ∧
    ¬ (mixedFields.length = mixedDocs.length ∧
        ∀ (i : Nat) (doc : DocField), mixedDocs[i]? = some doc →
          ∃ field, mixedFields[i]? = some field ∧
            Accessed (numberWriter.fieldMembers mixedFields field doc)) := by
  obtain ⟨-, hcomments, hwarnings, haccessed, hzero⟩ :=
    write_balance numberWriter lookMessage ⟨mixedFields, mixedFields⟩ mixedDocs
  have houtcomes : numberWriter.outcomes ⟨mixedFields, mixedFields⟩ mixedDocs
      = [.noModifier, .noName, .failed, .built] := by decide
  have hyaw : ((⟨"Look", "int", "c", 3⟩, ⟨some "Yaw", "Int", ""⟩) : FieldDescriptor × DocField)
      ∈ mixedFields.zip mixedDocs := by decide
  have hbuilt : numberWriter.outcome mixedFields ⟨"Look", "int", "c", 3⟩ ⟨some "Yaw", "Int", ""⟩
      = .built := by decide
  rw [houtcomes] at hcomments hwarnings
  have hfive : (numberWriter.write lookMessage ⟨mixedFields, mixedFields⟩ mixedDocs).warnings = 5 :=
    hwarnings
  refine ⟨hcomments, hfive, hyaw, (haccessed _ hyaw).mpr hbuilt, by decide, fun hfull => ?_⟩
  have hnone := hzero.mpr hfull
  rw [hfive] at hnone
  cases hnone

end WireWrapper
