import WireWrapper.Proofs.CheckedConfig
import WireWrapper.Proofs.Documented.LastTable
import WireWrapper.Proofs.Text.CaseImages

/-!
# Labels of checked settings

A heading counts by its heading form, and so does a label.  Upper case makes no text empty, so the
form of a label is empty only if the label is blank.  Settings are checked label by label as they are
written: that the two labels for directions differ does not mean that their forms do, and the label
of the field names is not looked at.  If the forms differ, each heading names the direction of its
label, and this direction is in force at every table up to the next heading that names one.

* `headingForm_eq_empty_iff`   blank labels, and no others, have an empty form;
* `Labels.Usable`              five conditions on labels;
* `ofConfig_usable_iff`        what is left of them for checked settings;
* `direction_foldl_turn`       a direction lasts up to the next heading that names one;
* `getElem?_readings_table`    the cursor over a table in the middle of a document;
* `validated_labels`           labels of checked settings, and the tables below their headings;
* `clashing_labels`            settings that are accepted although their headings run together.
-/

namespace WireWrapper

/-! ## heading forms -/

namespace Text

theorem upper_eq_nil_iff {cs : List Char} : upper cs = [] ↔ cs = [] := by
  rw [upper, List.flatMap_eq_nil_iff]
  refine ⟨fun h => List.eq_nil_iff_forall_not_mem.mpr fun c hc => upperChar_ne_nil c (h c hc), ?_⟩
  rintro rfl c hc
  cases hc

end Text

/-- **Only blank headings have an empty form.** -/
theorem headingForm_eq_empty_iff {s : String} : headingForm s = "" ↔ Text.trim s.toList = [] := by
  rw [headingForm, ← String.toList_inj, String.toList_ofList, ← Text.upper_eq_nil_iff]
  exact List.map_eq_nil_iff

/-! ## labels -/

namespace Labels

/-- labels that tell headings apart: none is empty, and those for the two directions differ -/
structure Usable (l : Labels) : Prop where
  packetId : l.packetId ≠ ""
  fieldName : l.fieldName ≠ ""
  serverbound : l.serverbound ≠ ""
  clientbound : l.clientbound ≠ ""
  apart : l.serverbound ≠ l.clientbound

theorem ofConfig_ne_empty {c : Config} (hc : c.Checked) :
    (ofConfig c).packetId ≠ "" ∧ (ofConfig c).serverbound ≠ "" ∧ (ofConfig c).clientbound ≠ "" := by
  obtain ⟨hpacket, hserver, hclient⟩ := Config.emptyLabel?_eq_none_iff.mp hc.labels
  exact ⟨mt headingForm_eq_empty_iff.mp hpacket, mt headingForm_eq_empty_iff.mp hserver,
    mt headingForm_eq_empty_iff.mp hclient⟩

/-- **Labels of checked settings are usable but for a blank label of the field names and for labels
of the directions with one form.** -/
theorem ofConfig_usable_iff {c : Config} (hc : c.Checked) :
    (ofConfig c).Usable ↔ Text.trim c.fieldNameLabel.toList ≠ [] ∧
      headingForm c.serverboundLabel ≠ headingForm c.clientboundLabel := by
  obtain ⟨hpacket, hserver, hclient⟩ := ofConfig_ne_empty hc
  constructor
  · intro h
    exact ⟨mt headingForm_eq_empty_iff.mpr h.fieldName, h.apart⟩
  · rintro ⟨hname, happart⟩
    exact ⟨hpacket, mt headingForm_eq_empty_iff.mp hname, hserver, hclient, happart⟩

variable (l : Labels)

theorem direction?_serverbound {heading : String} (h : headingForm heading = l.serverbound) :
    l.direction? heading = some .client := by
  rw [direction?, if_pos h]

theorem direction?_clientbound {heading : String} (h : headingForm heading = l.clientbound) :
    l.direction? heading = some (if l.serverbound = l.clientbound then .client else .server) := by
  rw [direction?, h, if_pos rfl]
  by_cases hsame : l.serverbound = l.clientbound
  · rw [if_pos hsame.symm, if_pos hsame]
  · rw [if_neg (Ne.symm hsame), if_neg hsame]

/-! ## directions in force -/

theorem direction_foldl_turn {vs : List Visit}
    (hvs : ∀ heading, .heading heading ∈ vs → l.direction? heading = none) (c : Cursor) :
    (vs.foldl l.turn c).direction = c.direction := by
  induction vs generalizing c with
  | nil => rfl
  | cons v vs ih =>
    rw [List.foldl_cons, ih fun heading hmem => hvs heading (List.mem_cons_of_mem v hmem)]
    cases v with
    | chapter heading => rw [turn]
    | heading heading => rw [turn, hvs heading List.mem_cons_self, Option.none_or]
    | table t => rw [turn]

theorem length_readings (c : Cursor) (vs : List Visit) :
    (l.readings c vs).length = vs.countP Visit.isTable := by
  induction vs generalizing c with
  | nil => rfl
  | cons v vs ih =>
    cases v with
    | chapter heading => rw [readings_chapter, ih, List.countP_cons_of_neg (by nofun)]
    | heading heading => rw [readings_heading, ih, List.countP_cons_of_neg (by nofun)]
    | table t => rw [readings_table, List.length_cons, ih, List.countP_cons_of_pos rfl]

theorem getElem?_readings_table (c : Cursor) (before after : List Visit) (t : Table) :
    (l.readings c (before ++ .table t :: after))[before.countP Visit.isTable]?
      = some (before.foldl l.turn c, t) := by
  rw [readings_append, ← l.length_readings c, List.getElem?_append_right (Nat.le_refl _),
    Nat.sub_self, readings_table, List.getElem?_cons_zero]

/-- a direction is in force at the tables behind its heading, up to the next that names one -/
theorem getElem?_readings_below {heading : String} {direction : Direction}
    (hheading : l.direction? heading = some direction) (c : Cursor) (before : List Visit)
    {between : List Visit}
    (hbetween : ∀ other, .heading other ∈ between → l.direction? other = none)
    (t : Table) (after : List Visit) :
    ∃ category, (l.readings c (before ++ .heading heading :: (between ++ .table t :: after)))[
        (before ++ between).countP Visit.isTable]? = some (⟨category, some direction⟩, t) := by
  have hsplit : before ++ .heading heading :: (between ++ .table t :: after)
      = (before ++ .heading heading :: between) ++ .table t :: after := by
    rw [List.append_assoc, List.cons_append]
  have hcount : (before ++ between).countP Visit.isTable
      = (before ++ .heading heading :: between).countP Visit.isTable := by
    rw [List.countP_append, List.countP_append, List.countP_cons_of_neg (by nofun)]
  have hdirection :
      ((before ++ .heading heading :: between).foldl l.turn c).direction = some direction := by
    rw [List.foldl_append, List.foldl_cons, l.direction_foldl_turn hbetween, turn, hheading,
      Option.some_or]
  rw [hsplit, hcount, getElem?_readings_table, ← hdirection]
  exact ⟨_, rfl⟩

/-- **Labels of checked settings.**  Only a blank label of the field names, or one form for both
directions, keeps them from being usable; labels that are written in heading form are told apart.
Tables are read in order under the direction in force.  A nested heading with the form of a
direction's label puts the tables behind it under this direction, up to the next heading that names
one; where both labels have one form, it is always the direction of what the client sends. -/
theorem validated_labels {c : Config} (hc : c.validate = .ok ()) :
    ((ofConfig c).packetId ≠ "" ∧ (ofConfig c).serverbound ≠ "" ∧ (ofConfig c).clientbound ≠ "") ∧
    ((ofConfig c).Usable ↔ Text.trim c.fieldNameLabel.toList ≠ [] ∧
      headingForm c.serverboundLabel ≠ headingForm c.clientboundLabel) ∧
    (headingForm c.serverboundLabel = c.serverboundLabel →
      headingForm c.clientboundLabel = c.clientboundLabel →
      headingForm c.serverboundLabel ≠ headingForm c.clientboundLabel) ∧
    (∀ (r : Registry) (d : Document), ((ofConfig c).fieldsOf r d).value
      = ((ofConfig c).readings .start d.visits).foldl ((ofConfig c).store r) ∅) ∧
    ∀ (d : Document) (before between after : List Visit) (heading : String) (t : Table),
      d.visits = before ++ .heading heading :: (between ++ .table t :: after) →
      (∀ other, .heading other ∈ between → (ofConfig c).direction? other = none) →
      (headingForm heading = headingForm c.serverboundLabel →
        ∃ category, ((ofConfig c).readings .start d.visits)[
          (before ++ between).countP Visit.isTable]? = some (⟨category, some .client⟩, t)) ∧
      (headingForm heading = headingForm c.clientboundLabel →
        ∃ category, ((ofConfig c).readings .start d.visits)[
          (before ++ between).countP Visit.isTable]? = some (⟨category, some
            (if headingForm c.serverboundLabel = headingForm c.clientboundLabel then .client
              else .server)⟩, t)) := by
  have hchecked := (Config.validate_eq_ok_iff.mp hc).1
  refine ⟨ofConfig_ne_empty hchecked, ofConfig_usable_iff hchecked, fun hserver hclient => ?_,
    fun r d => (ofConfig c).fieldsOf_value r d,
    fun d before between after heading t hd hbetween => ⟨fun hform => ?_, fun hform => ?_⟩⟩
  · rw [hserver, hclient]
    exact hchecked.directions
  · rw [hd]
    exact (ofConfig c).getElem?_readings_below ((ofConfig c).direction?_serverbound hform) _ before
      hbetween t after
  · rw [hd]
    exact (ofConfig c).getElem?_readings_below ((ofConfig c).direction?_clientbound hform) _ before
      hbetween t after

end Labels

/-! ## labels in natural spelling -/

/-- labels of directions as a page might show them -/
def labelled (serverbound clientbound : String) : Config :=
  { Config.stock with serverboundLabel := serverbound, clientboundLabel := clientbound }

theorem labelled_validate {serverbound clientbound : String}
    (hserver : Text.trim serverbound.toList ≠ []) (hclient : Text.trim clientbound.toList ≠ [])
    (hne : serverbound ≠ clientbound) : (labelled serverbound clientbound).validate = .ok () := by
  have hpacket := (Config.emptyLabel?_eq_none_iff.mp Config.stock_checked.labels).1
  have hchecked : (labelled serverbound clientbound).Checked :=
    { Config.stock_checked with
      labels := Config.emptyLabel?_eq_none_iff.mpr ⟨hpacket, hserver, hclient⟩
      directions := hne }
  exact Config.validate_eq_ok_iff.mpr ⟨hchecked, (Config.validate_eq_ok_iff.mp stock_validate).2⟩

/-- one table behind a heading, and a heading that names nothing in between -/
def labelledDocument (heading : String) : Document :=
  ⟨[⟨"Play", [], [⟨heading, [], [⟨"Spawn Entity", [oneFieldTable "0x00" "Entity ID"], []⟩]⟩]⟩]⟩

/-- With labels whose forms differ, a table below either is under its direction. -/
theorem validated_labels_natural :
    (labelled "To server" "To client").validate = .ok () ∧
    (Labels.ofConfig (labelled "To server" "To client")).Usable ∧
    (∃ category, ((Labels.ofConfig (labelled "To server" "To client")).readings .start
        (labelledDocument "TO CLIENT").visits)[0]?
      = some (⟨category, some .server⟩, oneFieldTable "0x00" "Entity ID")) ∧
    (∃ category, ((Labels.ofConfig (labelled "To server" "To client")).readings .start
        (labelledDocument " to server").visits)[0]?
      = some (⟨category, some .client⟩, oneFieldTable "0x00" "Entity ID")) ∧
    (labelled "SERVERBOUND" "CLIENTBOUND").validate = .ok () ∧
    (Labels.ofConfig (labelled "SERVERBOUND" "CLIENTBOUND")).serverbound
      ≠ (Labels.ofConfig (labelled "SERVERBOUND" "CLIENTBOUND")).clientbound := by
  have hvalid : (labelled "To server" "To client").validate = .ok () :=
    labelled_validate (by decide) (by decide) (by decide)
  have hupper : (labelled "SERVERBOUND" "CLIENTBOUND").validate = .ok () :=
    labelled_validate (by decide) (by decide) (by decide)
  obtain ⟨-, husable, -, -, hread⟩ := Labels.validated_labels hvalid
  obtain ⟨-, -, hown, -, -⟩ := Labels.validated_labels hupper
  have hforms : headingForm (labelled "To server" "To client").serverboundLabel
      ≠ headingForm (labelled "To server" "To client").clientboundLabel := by decide +kernel
  have hbetween : ∀ other, .heading other ∈ [Visit.heading "Spawn Entity"] →
      (Labels.ofConfig (labelled "To server" "To client")).direction? other = none := by
    intro other hmem
    obtain rfl := Visit.heading.inj (List.mem_singleton.mp hmem)
    decide +kernel
  have hclient := (hread (labelledDocument "TO CLIENT") [.chapter "Play"]
    [.heading "Spawn Entity"] [] "TO CLIENT" (oneFieldTable "0x00" "Entity ID") rfl hbetween).2
    (by decide +kernel)
  have hserver := (hread (labelledDocument " to server") [.chapter "Play"]
    [.heading "Spawn Entity"] [] " to server" (oneFieldTable "0x00" "Entity ID") rfl hbetween).1
    (by decide +kernel)
  simp only [if_neg hforms] at hclient
  exact ⟨hvalid, husable.mpr ⟨by decide +kernel, hforms⟩, hclient, hserver, hupper,
    hown (by decide +kernel) (by decide +kernel)⟩

/-- Two labels that differ in letter case only are accepted.  Then a table behind the label of what the
server sends is read as something that the client sends, and the message of the server stays without
documentation.  A blank label of the field names is accepted as well. -/
theorem clashing_labels :
    (labelled "Clientbound" "CLIENTBOUND").validate = .ok () ∧
    (Labels.ofConfig (labelled "Clientbound" "CLIENTBOUND")).serverbound
      = (Labels.ofConfig (labelled "Clientbound" "CLIENTBOUND")).clientbound ∧
    (Labels.ofConfig (labelled "Clientbound" "CLIENTBOUND")).readings .start
        (labelledDocument "CLIENTBOUND").visits
      = [(⟨some .play, some .client⟩, oneFieldTable "0x00" "Entity ID")] ∧
    ((Labels.ofConfig (labelled "Clientbound" "CLIENTBOUND")).fieldsOf spawnRegistry
        (labelledDocument "CLIENTBOUND")).value[(⟨.play, .server, 0⟩ : MessageKey)]? = none ∧
    { Config.stock with fieldNameLabel := "" }.validate = .ok () ∧
    (Labels.ofConfig { Config.stock with fieldNameLabel := "" }).fieldName = "" := by
  refine ⟨labelled_validate (by decide) (by decide) (by decide), by decide +kernel,
    by decide +kernel, ?_, ?_, by decide +kernel⟩
  · rw [Labels.getElem?_fieldsOf]
    decide +kernel
  · -- the label of the field names is in none of the checks
    exact Config.validate_eq_ok_iff.mpr
      ⟨{ Config.stock_checked with }, (Config.validate_eq_ok_iff.mp stock_validate).2⟩

end WireWrapper
