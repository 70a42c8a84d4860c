import WireWrapper.Config
import WireWrapper.Json.Record

/-!
# Configurations as JSON

* `Config.ofJson?`   settings from a record where every member has its default;
* `Config.toJson`    the record with all members.
-/

namespace WireWrapper
namespace Config

def replacements? : Json → Option (List (String × String)) :=
  Json.listOf? (Json.pairOf? Json.text? Json.text?)

def ofJson? (j : Json) : Option Config := do
  j.recordOf? 14
  let package ← j.optional "package" 0 stock.package Json.text?
  let baseClass ← j.optional "base_class" 1 stock.baseClass Json.text?
  let classPrefix ← j.optional "class_prefix" 2 stock.classPrefix Json.text?
  let licenseHeader ← j.optional "license_header" 3 stock.licenseHeader (Json.listOf? Json.text?)
  let imports ← j.optional "imports" 4 stock.imports (Json.listOf? Json.text?)
  let packetIdLabel ← j.optional "packet_id_label" 5 stock.packetIdLabel Json.text?
  let fieldNameLabel ← j.optional "field_name_label" 6 stock.fieldNameLabel Json.text?
  let serverboundLabel ← j.optional "serverbound_label" 7 stock.serverboundLabel Json.text?
  let clientboundLabel ← j.optional "clientbound_label" 8 stock.clientboundLabel Json.text?
  let arrayStopwords ← j.optional "array_stopwords" 9 stock.arrayStopwords
    (Json.listOf? Json.text?)
  let nameSynonyms ← j.optional "name_synonyms" 10 stock.nameSynonyms replacements?
  let typeSubstitutions ← j.optional "type_substitutions" 11 stock.typeSubstitutions
    replacements?
  let logLevelName ← j.optional "log_level" 12 stock.logLevelName Json.text?
  let modifierTable ← j.optional "modifier_table" 13 stock.modifierTable (Json.orNull? Json.text?)
  return {
    package, baseClass, classPrefix, licenseHeader, imports, packetIdLabel, fieldNameLabel,
    serverboundLabel, clientboundLabel, arrayStopwords, nameSynonyms, typeSubstitutions,
    logLevelName, modifierTable }

/-- A replacement as an array of two texts. -/
def replacementJson (r : String × String) : Json := .array [.text r.1, .text r.2]

def toJson (c : Config) : Json := .object [
  ("package", .text c.package),
  ("base_class", .text c.baseClass),
  ("class_prefix", .text c.classPrefix),
  ("license_header", .ofTexts c.licenseHeader),
  ("imports", .ofTexts c.imports),
  ("packet_id_label", .text c.packetIdLabel),
  ("field_name_label", .text c.fieldNameLabel),
  ("serverbound_label", .text c.serverboundLabel),
  ("clientbound_label", .text c.clientboundLabel),
  ("array_stopwords", .ofTexts c.arrayStopwords),
  ("name_synonyms", .ofList replacementJson c.nameSynonyms),
  ("type_substitutions", .ofList replacementJson c.typeSubstitutions),
  ("log_level", .text c.logLevelName),
  ("modifier_table", .ofText? c.modifierTable)]

end Config
end WireWrapper
