import WireWrapper.Method.Json
import WireWrapper.Proofs.Json.Messages

/-!
# Methods in all their forms

The kind of an instruction may stand behind its other members, which are kept until it is found.
What cannot be kept is not a value to begin with: a part that cannot be read, or a number that is too
large.  So the forms of an instruction are those of its records that are values in all their parts,
while everywhere else a member that nobody asks for is not even looked at.

* `Instruction.shape`, `MethodBody.shape`   what the records consist of;
* `Instruction.Form`                  those records of an instruction that can be kept;
* `Instruction.ofJson?_eq_some_iff`   no other record of it is read;
* `ofJson?_of_form`                   every form is read as the value that it was made for;
* `form_toJson`                       the record as it is written out is a form.
-/

namespace WireWrapper

namespace Json

theorem isHoldable_ofNat {n : Nat} (h : n < UInt64.size) : (ofNat n).isHoldable = true := by
  simp [ofNat, isHoldable, Decimal.fitsByParts, Decimal.leading_of_lt h]

theorem word8?_ofNat (n : UInt8) : word8? (.ofNat n.toNat) = some n := by
  rw [word8?, below?_ofNat n.toNat_lt, Option.map_some, UInt8.ofNat_toNat]

end Json

theorem FieldAccess.ofWord?_word (access : FieldAccess) : ofWord? access.word = some access := by
  cases access <;> rfl

/-! ## instructions -/

namespace Instruction
variable {i : Instruction} {j : Json}

def shape : Instruction → Json.Shape
  | line number => {
      members := [
        .plain "kind" (.text "line_number"),
        .plain "line" (.ofNat number.toNat)]
      distinct := by simp }
  | field access owner name => {
      members := [
        .plain "kind" (.text "field"),
        .plain "opcode" (.text access.word),
        .plain "owner" (.text owner),
        .plain "name" (.text name)]
      distinct := by simp }
  | other code => {
      members := [
        .plain "kind" (.text "other"),
        .plain "opcode" (.ofNat code.toNat)]
      distinct := by simp }

/-- The records of an instruction that can be kept until its kind is known. -/
def Form (i : Instruction) (j : Json) : Prop := i.shape.Form j ∧ j.isHoldable = true

theorem ofKind?_of_form (h : i.shape.Form j) {rest : Json}
    (hrecord : ∀ width, rest.recordOf? width = some ())
    (hrest : ∀ {α : Type} (name : String) (p : Nat) (read : Json → Option α), name ≠ "kind" →
      rest.required name p read = j.required name p read) : ofKind? i.kind rest = some i := by
  cases i with
  | line number =>
    have hline : rest.required "line" 0 Json.word32? = some number := by
      rw [hrest _ _ _ (by simp)]
      exact h.required_plain (.ofNat number.toNat) (by simp [shape]) (Json.word32?_ofNat number)
    simp only [kind, ofKind?, hrecord, hline]
    rfl
  | field access owner name =>
    have haccess : rest.required "opcode" 0 (Json.heldChoiceOf? FieldAccess.ofWord?)
        = some access := by
      rw [hrest _ _ _ (by simp)]
      exact h.required_plain (.text access.word) (by simp [shape]) access.ofWord?_word
    have howner : rest.required "owner" 1 Json.text? = some owner := by
      rw [hrest _ _ _ (by simp)]
      exact h.required_plain (.text owner) (by simp [shape]) rfl
    have hname : rest.required "name" 2 Json.text? = some name := by
      rw [hrest _ _ _ (by simp)]
      exact h.required_plain (.text name) (by simp [shape]) rfl
    simp only [kind, ofKind?, hrecord, haccess, howner, hname]
    rfl
  | other code =>
    have hcode : rest.required "opcode" 0 Json.word8? = some code := by
      rw [hrest _ _ _ (by simp)]
      exact h.required_plain (.ofNat code.toNat) (by simp [shape]) (Json.word8?_ofNat code)
    simp only [kind, ofKind?, hrecord, hcode]
    rfl

/-- A record of an instruction is read exactly if it can be kept. -/
theorem ofJson?_eq_some_iff (h : i.shape.Form j) :
    ofJson? j = some i ↔ j.isHoldable = true := by
  -- the kind stands in the whole record, the other members are looked up in what is left of it
  obtain ⟨members, rfl⟩ := h.exists_object
  have hkind : (Json.object members).valuesOf "kind" 0 = [.text i.kind] :=
    h.values_plain (by cases i <;> simp [shape, kind]) 0
  rw [ofJson?]
  split
  case isTrue hheld =>
    simp only [hkind, hheld, iff_true]
    exact ofKind?_of_form h (fun _ => rfl) fun _ p read hname =>
      Json.required_filter_ne hname members p read
  case isFalse hheld => simp [hheld]

theorem ofJson?_of_form (h : i.Form j) : ofJson? j = some i :=
  (ofJson?_eq_some_iff h.1).mpr h.2

theorem isHoldable_toJson (i : Instruction) : i.toJson.isHoldable = true := by
  cases i with
  | line number =>
    have hnumber : (Json.ofNat number.toNat).isHoldable = true :=
      Json.isHoldable_ofNat (Nat.lt_trans number.toNat_lt (by decide))
    simp [toJson, Json.isHoldable, Json.membersHoldable, hnumber]
  | field access owner name => simp [toJson, Json.isHoldable, Json.membersHoldable]
  | other code =>
    have hcode : (Json.ofNat code.toNat).isHoldable = true :=
      Json.isHoldable_ofNat (Nat.lt_trans code.toNat_lt (by decide))
    simp [toJson, Json.isHoldable, Json.membersHoldable, hcode]

theorem form_toJson (i : Instruction) : i.Form i.toJson := by
  refine ⟨?_, i.isHoldable_toJson⟩
  cases i with
  | line number => exact Json.Shape.form_of_given (.keep rfl (.keep rfl .nil))
  | field access owner name =>
    exact Json.Shape.form_of_given (.keep rfl (.keep rfl (.keep rfl (.keep rfl .nil))))
  | other code => exact Json.Shape.form_of_given (.keep rfl (.keep rfl .nil))

end Instruction

/-! ## methods -/

namespace MethodBody
variable {m : MethodBody} {j : Json}

def shape (m : MethodBody) : Json.Shape where
  members := [
    .plain "declaring_type" (.text m.declaringType),
    .preset "name" (.text m.name) (m.name = ""),
    .list "instructions" Instruction.Form m.instructions False]
  distinct := by simp

theorem ofJson?_of_form (h : m.shape.Form j) : ofJson? j = some m := by
  have hdeclaring : j.required "declaring_type" 0 Json.text? = some m.declaringType :=
    h.required_plain (.text m.declaringType) (by simp [shape]) rfl
  have hname : j.optional "name" 1 "" Json.text? = some m.name :=
    h.optional_preset (.text m.name) (by simp [shape]) rfl id
  have hinstructions : j.required "instructions" 2 (Json.listOf? Instruction.ofJson?)
      = some m.instructions :=
    h.required_list (by simp [shape]) fun _ _ _ hi => Instruction.ofJson?_of_form hi
  rw [ofJson?, h.recordOf? 3, hdeclaring, hname, hinstructions]
  rfl

theorem form_toJson (m : MethodBody) : m.shape.Form m.toJson :=
  Json.Shape.form_of_given (.keep rfl (.keep rfl
    (.keep ⟨_, rfl, Json.forall₂_map fun i _ => i.form_toJson⟩ .nil)))

end MethodBody
end WireWrapper
