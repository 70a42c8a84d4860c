import WireWrapper.Config.Json
import WireWrapper.Proofs.Json.Records

/-!
# Configurations in all their forms

Any setting that has its stock value may be left out, so the empty object is a form of the stock
configuration.

* `Config.shape`             what the record consists of;
* `Config.ofJson?_of_form`   every form is read as the settings that it was made for;
* `Config.form_toJson`       the record as it is written out is a form.
-/

namespace WireWrapper
namespace Config
variable {c : Config} {j : Json}

theorem listOf?_ofTexts (ss : List String) : Json.listOf? Json.text? (.ofTexts ss) = some ss := by
  have htext : ∀ s : String, Json.text? (.text s) = some s := fun _ => rfl
  exact Json.listOf?_ofList htext ss

theorem replacements?_ofList (rs : List (String × String)) :
    replacements? (.ofList replacementJson rs) = some rs := by
  have hpair : ∀ r : String × String,
      Json.pairOf? Json.text? Json.text? (replacementJson r) = some r := fun _ => rfl
  exact Json.listOf?_ofList hpair rs

def shape (c : Config) : Json.Shape where
  members := [
    .preset "package" (.text c.package) (c.package = stock.package),
    .preset "base_class" (.text c.baseClass) (c.baseClass = stock.baseClass),
    .preset "class_prefix" (.text c.classPrefix) (c.classPrefix = stock.classPrefix),
    .preset "license_header" (.ofTexts c.licenseHeader) (c.licenseHeader = stock.licenseHeader),
    .preset "imports" (.ofTexts c.imports) (c.imports = stock.imports),
    .preset "packet_id_label" (.text c.packetIdLabel) (c.packetIdLabel = stock.packetIdLabel),
    .preset "field_name_label" (.text c.fieldNameLabel) (c.fieldNameLabel = stock.fieldNameLabel),
    .preset "serverbound_label" (.text c.serverboundLabel)
      (c.serverboundLabel = stock.serverboundLabel),
    .preset "clientbound_label" (.text c.clientboundLabel)
      (c.clientboundLabel = stock.clientboundLabel),
    .preset "array_stopwords" (.ofTexts c.arrayStopwords)
      (c.arrayStopwords = stock.arrayStopwords),
    .preset "name_synonyms" (.ofList replacementJson c.nameSynonyms)
      (c.nameSynonyms = stock.nameSynonyms),
    .preset "type_substitutions" (.ofList replacementJson c.typeSubstitutions)
      (c.typeSubstitutions = stock.typeSubstitutions),
    .preset "log_level" (.text c.logLevelName) (c.logLevelName = stock.logLevelName),
    .preset "modifier_table" (.ofText? c.modifierTable) (c.modifierTable = stock.modifierTable)]
  distinct := by simp

theorem optional_text (h : c.shape.Form j) {name s fallback : String} {p : Nat}
    (hm : .preset name (.text s) (s = fallback) ∈ c.shape.members) :
    j.optional name p fallback Json.text? = some s :=
  h.optional_preset (.text s) hm rfl id

theorem optional_texts (h : c.shape.Form j) {name : String} {ss fallback : List String} {p : Nat}
    (hm : .preset name (.ofTexts ss) (ss = fallback) ∈ c.shape.members) :
    j.optional name p fallback (Json.listOf? Json.text?) = some ss :=
  h.optional_preset (.ofTexts ss) hm (listOf?_ofTexts ss) id

theorem optional_replacements (h : c.shape.Form j) {name : String}
    {rs fallback : List (String × String)} {p : Nat}
    (hm : .preset name (.ofList replacementJson rs) (rs = fallback) ∈ c.shape.members) :
    j.optional name p fallback replacements? = some rs :=
  h.optional_preset (.ofList replacementJson rs) hm (replacements?_ofList rs) id

theorem ofJson?_of_form (h : c.shape.Form j) : ofJson? j = some c := by
  have hpackage : j.optional "package" 0 stock.package Json.text? = some c.package :=
    optional_text h (by simp [shape])
  have hbase : j.optional "base_class" 1 stock.baseClass Json.text? = some c.baseClass :=
    optional_text h (by simp [shape])
  have hprefix : j.optional "class_prefix" 2 stock.classPrefix Json.text? = some c.classPrefix :=
    optional_text h (by simp [shape])
  have hlicense : j.optional "license_header" 3 stock.licenseHeader (Json.listOf? Json.text?)
      = some c.licenseHeader :=
    optional_texts h (by simp [shape])
  have himports : j.optional "imports" 4 stock.imports (Json.listOf? Json.text?)
      = some c.imports :=
    optional_texts h (by simp [shape])
  have hpacketId : j.optional "packet_id_label" 5 stock.packetIdLabel Json.text?
      = some c.packetIdLabel :=
    optional_text h (by simp [shape])
  have hfieldName : j.optional "field_name_label" 6 stock.fieldNameLabel Json.text?
      = some c.fieldNameLabel :=
    optional_text h (by simp [shape])
  have hserverbound : j.optional "serverbound_label" 7 stock.serverboundLabel Json.text?
      = some c.serverboundLabel :=
    optional_text h (by simp [shape])
  have hclientbound : j.optional "clientbound_label" 8 stock.clientboundLabel Json.text?
      = some c.clientboundLabel :=
    optional_text h (by simp [shape])
  have hstopwords : j.optional "array_stopwords" 9 stock.arrayStopwords (Json.listOf? Json.text?)
      = some c.arrayStopwords :=
    optional_texts h (by simp [shape])
  have hsynonyms : j.optional "name_synonyms" 10 stock.nameSynonyms replacements?
      = some c.nameSynonyms :=
    optional_replacements h (by simp [shape])
  have hsubstitutions : j.optional "type_substitutions" 11 stock.typeSubstitutions replacements?
      = some c.typeSubstitutions :=
    optional_replacements h (by simp [shape])
  have hlogLevel : j.optional "log_level" 12 stock.logLevelName Json.text?
      = some c.logLevelName :=
    optional_text h (by simp [shape])
  have htable : j.optional "modifier_table" 13 stock.modifierTable (Json.orNull? Json.text?)
      = some c.modifierTable :=
    h.optional_preset (.ofText? c.modifierTable) (by simp [shape]) (Json.orNull?_ofText? _) id
  rw [ofJson?, h.recordOf? 14, hpackage, hbase, hprefix, hlicense, himports, hpacketId, hfieldName,
    hserverbound, hclientbound, hstopwords, hsynonyms, hsubstitutions, hlogLevel, htable]
  rfl

theorem form_toJson (c : Config) : c.shape.Form c.toJson :=
  Json.Shape.form_of_given
    (.keep rfl (.keep rfl (.keep rfl (.keep rfl (.keep rfl (.keep rfl (.keep rfl (.keep rfl
    (.keep rfl (.keep rfl (.keep rfl (.keep rfl (.keep rfl (.keep rfl .nil))))))))))))))

end Config
end WireWrapper
