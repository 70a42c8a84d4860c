import WireWrapper.Proofs.Json.Configs
import WireWrapper.Proofs.Json.Documents
import WireWrapper.Proofs.Json.Hierarchies
import WireWrapper.Proofs.Json.Methods

/-!
# What is written is read back

For each kind of data file one statement: its record as it is written out, and whatever else is a form
of that record, is read as the value that was written.  The forms of a record allow at every depth for
members in another order, for members that nobody asks for and for missing members that have their
default value.

* `Json.ReadsBack`    that a value comes back from its record and from all other forms of it;
* `readsBack_forms`   this holds of hierarchies, documentation trees, methods, scan results, messages
                      and configurations.
-/

namespace WireWrapper

/-- The record of `x` is one of its forms, and `read` gives `x` for each of them. -/
def Json.ReadsBack {α : Type} (read : Json → Option α) (record : Json) (Form : Json → Prop) (x : α) :
    Prop :=
  Form record ∧ read record = some x ∧ ∀ j, Form j → read j = some x

theorem Json.readsBack {α : Type} {read : Json → Option α} {record : Json} {Form : Json → Prop}
    {x : α} (hrecord : Form record) (hread : ∀ j, Form j → read j = some x) :
    ReadsBack read record Form x :=
  ⟨hrecord, hread record hrecord, hread⟩

/-- **Whatever form a record takes, it is read as the value that it was made for.**  The position of a
field is a number of 64 bits. -/
theorem readsBack_forms :
    (∀ h : Hierarchy, Json.ReadsBack Hierarchy.ofJson? h.toJson h.shape.Form h) ∧
    (∀ d : Document, Json.ReadsBack Document.ofJson? d.toJson d.shape.Form d) ∧
    (∀ m : MethodBody, Json.ReadsBack MethodBody.ofJson? m.toJson m.shape.Form m) ∧
    (∀ r : ScanResult, (∀ f ∈ r.networkOrder ++ r.memoryOrder, f.ordinal < UInt64.size) →
      Json.ReadsBack ScanResult.ofJson? r.toJson r.shape.Form r) ∧
    (∀ m : MessageType, Json.ReadsBack MessageType.ofJson? m.toJson m.shape.Form m) ∧
    (∀ c : Config, Json.ReadsBack Config.ofJson? c.toJson c.shape.Form c) := by
  refine ⟨fun h => ?_, fun d => ?_, fun m => ?_, fun r hordinals => ?_, fun m => ?_, fun c => ?_⟩
  · exact Json.readsBack h.form_toJson fun _ => Hierarchy.ofJson?_of_form
  · exact Json.readsBack d.form_toJson fun _ => Document.ofJson?_of_form
  · exact Json.readsBack m.form_toJson fun _ => MethodBody.ofJson?_of_form
  · exact Json.readsBack r.form_toJson fun _ => ScanResult.ofJson?_of_form hordinals
  · exact Json.readsBack m.form_toJson fun _ => MessageType.ofJson?_of_form
  · exact Json.readsBack c.form_toJson fun _ => Config.ofJson?_of_form

/-- A method without its name and with a part that cannot be read, in which an instruction is given
with its kind at the end; a scan result with its second list first; and settings none of which is
given. -/
theorem readsBack_forms_varied :
    MethodBody.ofJson? (.object [
      ("comment", .unreadable),
      ("declaring_type", .text "Chat"),
      ("instructions", .array [
        .object [("line", .ofNat 7), ("hint", .null), ("kind", .text "line_number")]])])
      = some ⟨"Chat", "", [.line 7]⟩ ∧
    ScanResult.ofJson? (.object [
      ("memory_order", .array []),
      ("network_order", .array [(FieldDescriptor.mk "Chat" "String" "text" 0).toJson])])
      = some ⟨[⟨"Chat", "String", "text", 0⟩], []⟩ ∧
    Config.ofJson? (.object []) = some Config.stock := by
  obtain ⟨-, -, hmethod, hscan, -, hconfig⟩ := readsBack_forms
  have hline : (Instruction.line 7).Form
      (.object [("line", .ofNat 7), ("hint", .null), ("kind", .text "line_number")]) := by
    have hform : (Instruction.line 7).shape.Form
        (.object [("hint", .null), ("kind", .text "line_number"), ("line", .ofNat 7)]) :=
      (Instruction.line 7).form_toJson.1.extend (by simp [Instruction.shape])
    have hseven : (Json.ofNat 7).isHoldable = true := Json.isHoldable_ofNat (by decide)
    exact ⟨hform.reorder (@List.perm_append_comm _ [_] [_, _]),
      by simp [Json.isHoldable, Json.membersHoldable, hseven]⟩
  refine ⟨(hmethod ⟨"Chat", "", [.line 7]⟩).2.2 _ ?_,
    (hscan ⟨[⟨"Chat", "String", "text", 0⟩], []⟩ (by decide)).2.2 _ ?_,
    (hconfig Config.stock).2.2 _ ?_⟩
  · have hfull : (MethodBody.mk "Chat" "" [.line 7]).shape.Form (.object [
        ("declaring_type", .text "Chat"), ("name", .text ""), ("instructions", .array [_])]) :=
      Json.Shape.form_of_given (.keep rfl (.keep rfl (.keep ⟨_, rfl, .cons hline .nil⟩ .nil)))
    have hname : .preset "name" (.text "") ("" = "") ∈
        (MethodBody.mk "Chat" "" [.line 7]).shape.members := by simp [MethodBody.shape]
    exact (hfull.without hname rfl).extend (by simp [MethodBody.shape])
  · exact (ScanResult.mk [⟨"Chat", "String", "text", 0⟩] []).form_toJson.reorder (.swap ..)
  · exact Json.Shape.form_of_given (.leave rfl (.leave rfl (.leave rfl (.leave rfl (.leave rfl
      (.leave rfl (.leave rfl (.leave rfl (.leave rfl (.leave rfl (.leave rfl (.leave rfl
      (.leave rfl (.leave rfl .nil))))))))))))))

end WireWrapper
