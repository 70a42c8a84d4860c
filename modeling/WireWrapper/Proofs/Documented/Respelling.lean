import WireWrapper.Proofs.Documented.Directions
import WireWrapper.Proofs.Text.UpperTwice

/-!
# Labels in other spellings

Headings and labels are compared by their heading form.  This form is its own heading form: its ends
are not blank, its letters are their own upper case, and it has no space left to replace.  So a label
may be configured in natural spelling or in heading form, with blanks around it or without.  The
reader never sees a difference: not in the headings that name a direction, not in the columns that it
finds in a table, and not in what it says of a document.

* `underscored`                        a text with underscores for spaces;
* `headingForm_headingForm`            the form of a form;
* `headingForm_padded`                 blanks around a heading;
* `Respelled`, `headingForm_respelled` other spellings of one label;
* `ofConfig_respelled`                 settings whose labels are respelled;
* `headingForm_normal`                 all this, and what is read.
-/

namespace WireWrapper

/-! ## the form of a form -/

/-- underscores for spaces -/
def underscored (cs : List Char) : List Char := cs.map fun c => if c = ' ' then '_' else c

theorem underscored_solidEnds {cs : List Char} (h : Text.SolidEnds cs) :
    Text.SolidEnds (underscored cs) := by
  apply h.map
  intro c hc
  split
  · decide
  · exact hc

theorem own_of_mem_underscored {cs : List Char} (h : ∀ c ∈ cs, Text.Own c) :
    ∀ c ∈ underscored cs, Text.Own c := by
  intro d hd
  obtain ⟨c, hc, rfl⟩ := List.mem_map.mp hd
  split
  · decide
  · exact h c hc

theorem underscored_underscored (cs : List Char) : underscored (underscored cs) = underscored cs := by
  unfold underscored
  rw [List.map_map]
  apply List.map_congr_left
  intro c _
  by_cases hc : c = ' '
  · simp [hc]
  · simp [hc]

theorem headingForm_toList (s : String) :
    (headingForm s).toList = underscored (Text.upper (Text.trim s.toList)) := String.toList_ofList

/-- **A heading form is its own heading form.** -/
theorem headingForm_headingForm (s : String) : headingForm (headingForm s) = headingForm s := by
  rw [← String.toList_inj, headingForm_toList, headingForm_toList]
  have hends := underscored_solidEnds (Text.upper_solidEnds (Text.trim_solidEnds s.toList))
  have hown : ∀ c ∈ underscored (Text.upper (Text.trim s.toList)), Text.Own c :=
    own_of_mem_underscored fun _ => Text.own_of_mem_upper
  rw [hends.trim_eq, Text.upper_eq_self hown, underscored_underscored]

/-! ## spellings -/

theorem headingForm_padded (s : String) {front back : String} (hfront : Text.IsBlanks front.toList)
    (hback : Text.IsBlanks back.toList) : headingForm (front ++ s ++ back) = headingForm s := by
  rw [headingForm, String.toList_append, String.toList_append, Text.trim_append hfront hback,
    headingForm]

/-- another spelling of a label: as it is or in heading form, with blanks around it -/
def Respelled (label other : String) : Prop :=
  ∃ front core back, Text.IsBlanks front.toList ∧ Text.IsBlanks back.toList ∧
    (core = label ∨ core = headingForm label) ∧ other = front ++ core ++ back

theorem headingForm_respelled {label other : String} (h : Respelled label other) :
    headingForm other = headingForm label := by
  obtain ⟨front, core, back, hfront, hback, hcore, rfl⟩ := h
  rw [headingForm_padded core hfront hback]
  rcases hcore with rfl | rfl
  · rfl
  · exact headingForm_headingForm label

/-- settings with other spellings of the same labels -/
structure Config.LabelsRespelled (c other : Config) : Prop where
  packetId : Respelled c.packetIdLabel other.packetIdLabel
  fieldName : Respelled c.fieldNameLabel other.fieldNameLabel
  serverbound : Respelled c.serverboundLabel other.serverboundLabel
  clientbound : Respelled c.clientboundLabel other.clientboundLabel

theorem ofConfig_respelled {c other : Config} (h : c.LabelsRespelled other) :
    Labels.ofConfig other = Labels.ofConfig c := by
  rw [Labels.ofConfig, headingForm_respelled h.packetId, headingForm_respelled h.fieldName,
    headingForm_respelled h.serverbound, headingForm_respelled h.clientbound, Labels.ofConfig]

/-- **Headings are compared by a normal form.**  A heading form is its own heading form, and blanks
around a heading never matter.  So other spellings of the labels change nothing of what is read: a
heading names the same direction, a label is found in the same header cell of a table, and a document
has the same documented fields, with the same events on the way. -/
theorem headingForm_normal :
    (∀ s, headingForm (headingForm s) = headingForm s) ∧
    (∀ s front back : String, Text.IsBlanks front.toList → Text.IsBlanks back.toList →
      headingForm (front ++ s ++ back) = headingForm s) ∧
    ∀ c other : Config, c.LabelsRespelled other →
      (∀ heading, (Labels.ofConfig other).direction? heading
        = (Labels.ofConfig c).direction? heading) ∧
      (∀ t : Table,
        t.headerColumn? (Labels.ofConfig other).packetId
            = t.headerColumn? (Labels.ofConfig c).packetId ∧
          t.headerColumn? (Labels.ofConfig other).fieldName
            = t.headerColumn? (Labels.ofConfig c).fieldName) ∧
      ∀ (r : Registry) (d : Document),
        (Labels.ofConfig other).fieldsOf r d = (Labels.ofConfig c).fieldsOf r d := by
  refine ⟨headingForm_headingForm, fun s _ _ => headingForm_padded s, fun c other h => ?_⟩
  rw [ofConfig_respelled h]
  exact ⟨fun _ => rfl, fun _ => ⟨rfl, rfl⟩, fun _ _ => rfl⟩

/-- the stock labels as a page shows them -/
def naturalConfig : Config :=
  { Config.stock with
    packetIdLabel := "Packet ID"
    fieldNameLabel := "Field Name"
    serverboundLabel := "Serverbound"
    clientboundLabel := "Clientbound" }

theorem headingForm_normal_natural :
    Text.IsBlanks "\u3000".toList ∧ Text.IsBlanks "\n".toList ∧
    headingForm "\u3000Packet ID\n" = "PACKET_ID" ∧
    naturalConfig.LabelsRespelled .stock ∧
    (Labels.ofConfig .stock).fieldsOf spawnRegistry (labelledDocument "clientbound ")
      = (Labels.ofConfig naturalConfig).fieldsOf spawnRegistry (labelledDocument "clientbound ") := by
  have hfront : Text.IsBlanks "\u3000".toList := by decide
  have hback : Text.IsBlanks "\n".toList := by decide
  have hform : ∀ {label other : String}, other = headingForm label → Respelled label other :=
    fun {label other} h => ⟨"", other, "", nofun, nofun, .inr h, by simp⟩
  have hrespelled : naturalConfig.LabelsRespelled .stock :=
    ⟨hform (by decide), hform (by decide), hform (by decide), hform (by decide)⟩
  refine ⟨hfront, hback, ?_, hrespelled, ?_⟩
  · have hpadded := headingForm_normal.2.1 "Packet ID" "\u3000" "\n" hfront hback
    exact hpadded.trans (by decide)
  · exact (headingForm_normal.2.2 naturalConfig .stock hrespelled).2.2 _ _

end WireWrapper
