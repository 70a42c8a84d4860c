import WireWrapper.Message.Json
import WireWrapper.Proofs.Json.Records
import WireWrapper.WireOrder.Json

/-!
# Messages and scan results in all their forms

None of these records has a member with a default.  The position of a field is a number of 64 bits,
and only such a number is read back.

* `FieldDescriptor.shape`, `ScanResult.shape`, `MessageKey.shape`, `MessageType.shape`   what the
                      records consist of;
* `ofJson?_of_form`   every form is read as the value that it was made for;
* `form_toJson`       the record as it is written out is a form.
-/

namespace WireWrapper

/-! ## scan results -/

namespace FieldDescriptor
variable {f : FieldDescriptor} {j : Json}

def shape (f : FieldDescriptor) : Json.Shape where
  members := [
    .plain "declaring_type" (.text f.declaringType),
    .plain "runtime_type" (.text f.runtimeType),
    .plain "name" (.text f.name),
    .plain "ordinal" (.ofNat f.ordinal)]
  distinct := by simp

theorem ofJson?_of_form (hordinal : f.ordinal < UInt64.size) (h : f.shape.Form j) :
    ofJson? j = some f := by
  have hdeclaring : j.required "declaring_type" 0 Json.text? = some f.declaringType :=
    h.required_plain (.text f.declaringType) (by simp [shape]) rfl
  have hruntime : j.required "runtime_type" 1 Json.text? = some f.runtimeType :=
    h.required_plain (.text f.runtimeType) (by simp [shape]) rfl
  have hname : j.required "name" 2 Json.text? = some f.name :=
    h.required_plain (.text f.name) (by simp [shape]) rfl
  have hordinal : j.required "ordinal" 3 (Json.below? UInt64.size) = some f.ordinal :=
    h.required_plain (.ofNat f.ordinal) (by simp [shape]) (Json.below?_ofNat hordinal)
  rw [ofJson?, h.recordOf? 4, hdeclaring, hruntime, hname, hordinal]
  rfl

theorem form_toJson (f : FieldDescriptor) : f.shape.Form f.toJson :=
  Json.Shape.form_of_given (.keep rfl (.keep rfl (.keep rfl (.keep rfl .nil))))

end FieldDescriptor

namespace ScanResult
variable {r : ScanResult} {j : Json}

def shape (r : ScanResult) : Json.Shape where
  members := [
    .list "network_order" (fun f : FieldDescriptor => f.shape.Form) r.networkOrder False,
    .list "memory_order" (fun f : FieldDescriptor => f.shape.Form) r.memoryOrder False]
  distinct := by simp

theorem ofJson?_of_form (hordinals : ∀ f ∈ r.networkOrder ++ r.memoryOrder, f.ordinal < UInt64.size)
    (h : r.shape.Form j) : ofJson? j = some r := by
  obtain ⟨hnetworkOrdinals, hmemoryOrdinals⟩ := List.forall_mem_append.mp hordinals
  have hnetwork : j.required "network_order" 0 (Json.listOf? FieldDescriptor.ofJson?)
      = some r.networkOrder :=
    h.required_list (by simp [shape]) fun f hmem _ hf =>
      FieldDescriptor.ofJson?_of_form (hnetworkOrdinals f hmem) hf
  have hmemory : j.required "memory_order" 1 (Json.listOf? FieldDescriptor.ofJson?)
      = some r.memoryOrder :=
    h.required_list (by simp [shape]) fun f hmem _ hf =>
      FieldDescriptor.ofJson?_of_form (hmemoryOrdinals f hmem) hf
  rw [ofJson?, h.recordOf? 2, hnetwork, hmemory]
  rfl

theorem form_toJson (r : ScanResult) : r.shape.Form r.toJson :=
  Json.Shape.form_of_given
    (.keep ⟨_, rfl, Json.forall₂_map fun f _ => f.form_toJson⟩
    (.keep ⟨_, rfl, Json.forall₂_map fun f _ => f.form_toJson⟩ .nil))

end ScanResult

/-! ## messages -/

theorem Category.ofWord?_word (c : Category) : ofWord? c.word = some c := by cases c <;> rfl

theorem Direction.ofWord?_word (d : Direction) : ofWord? d.word = some d := by cases d <;> rfl

theorem Json.word32?_ofNat (n : UInt32) : Json.word32? (.ofNat n.toNat) = some n := by
  rw [word32?, below?_ofNat n.toNat_lt, Option.map_some, UInt32.ofNat_toNat]

namespace MessageKey
variable {key : MessageKey} {j : Json}

def shape (key : MessageKey) : Json.Shape where
  members := [
    .plain "category" (.text key.category.word),
    .plain "direction" (.text key.direction.word),
    .plain "id" (.ofNat key.id.toNat)]
  distinct := by simp

theorem ofJson?_of_form (h : key.shape.Form j) : ofJson? j = some key := by
  have hcategory : j.required "category" 0 (Json.choiceOf? Category.ofWord?)
      = some key.category :=
    h.required_plain (.text key.category.word) (by simp [shape]) key.category.ofWord?_word
  have hdirection : j.required "direction" 1 (Json.choiceOf? Direction.ofWord?)
      = some key.direction :=
    h.required_plain (.text key.direction.word) (by simp [shape]) key.direction.ofWord?_word
  have hid : j.required "id" 2 Json.word32? = some key.id :=
    h.required_plain (.ofNat key.id.toNat) (by simp [shape]) (Json.word32?_ofNat key.id)
  rw [ofJson?, h.recordOf? 3, hcategory, hdirection, hid]
  rfl

theorem form_toJson (key : MessageKey) : key.shape.Form key.toJson :=
  Json.Shape.form_of_given (.keep rfl (.keep rfl (.keep rfl .nil)))

end MessageKey

namespace MessageType
variable {m : MessageType} {j : Json}

def shape (m : MessageType) : Json.Shape where
  members := [
    ⟨"key", m.key.shape.Form, False⟩,
    .plain "name" (.text m.name)]
  distinct := by simp

theorem ofJson?_of_form (h : m.shape.Form j) : ofJson? j = some m := by
  have hkey : j.required "key" 0 MessageKey.ofJson? = some m.key :=
    h.required List.mem_cons_self id fun _ hkey => MessageKey.ofJson?_of_form hkey
  have hname : j.required "name" 1 Json.text? = some m.name :=
    h.required_plain (.text m.name) (by simp [shape]) rfl
  rw [ofJson?, h.recordOf? 2, hkey, hname]
  rfl

theorem form_toJson (m : MessageType) : m.shape.Form m.toJson :=
  Json.Shape.form_of_given (.keep m.key.form_toJson (.keep rfl .nil))

end MessageType
end WireWrapper
