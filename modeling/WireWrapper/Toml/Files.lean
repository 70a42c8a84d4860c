import WireWrapper.Config
import WireWrapper.Modifier
import WireWrapper.Registry
import WireWrapper.Toml.Reader

/-!
# The files in TOML

A record stands as a table of its members.  Unknown names are passed over, but the numbers in their
values have to be in range.

* `Toml.recordOf?`           the members of a table, if the unknown ones are in range;
* `required?`, `optional?`   the value of a member, read; or its default;
* `text?`, `bool?`, `below?` plain values; `listOf?` lists, `pairOf?` pairs;
* `choiceOf?`                one of several names;
* `Catalog.ofToml`           the catalog of a document with one `[[modifier]]` table for each binding;
* `Registry.ofToml`          the registry of a document with one `[[message]]` table for each message;
* `Config.ofToml`            settings from a document where every member has its default, so that the
                             empty document gives the stock configuration.

Readers answer `none` when the value has another shape.
-/

namespace WireWrapper

/-! ## records -/

namespace Toml

def text? : Toml → Option String
  | .text s => some s
  | _ => none

def bool? : Toml → Option Bool
  | .bool b => some b
  | _ => none

/-- An integer from 0 up to, and without, `bound`. -/
def below? (bound : Nat) : Toml → Option Nat
  | .integer n => if 0 ≤ n ∧ n < bound then some n.toNat else none
  | _ => none

def listOf? {α : Type} (read : Toml → Option α) : Toml → Option (List α)
  | .array items => items.mapM read
  | _ => none

/-- The first two values of an array; what follows them is not looked at. -/
def pairOf? {α β : Type} (first : Toml → Option α) (second : Toml → Option β) :
    Toml → Option (α × β)
  | .array (a :: b :: _) => (first a).bind fun a => (second b).map fun b => (a, b)
  | _ => none

/-- A name, given as a text or as a table whose one member has that name and an empty value. -/
def choiceOf? {α : Type} (choose : String → Option α) : Toml → Option α
  | .text s => choose s
  | .table [(s, .table [])] => choose s
  | .table [(s, .array [])] => choose s
  | _ => none

/-- The members of a record with the given names, if nothing else is out of range. -/
def checkOthers? (known : List String) (members : List (String × Toml)) :
    Option (List (String × Toml)) :=
  if members.all fun (name, value) => known.contains name || value.isInRange then some members
  else none

/-- The members of a table that stands for a record. -/
def recordOf? (known : List String) : Toml → Option (List (String × Toml))
  | .table members => checkOthers? known members
  | _ => none

def required? {α : Type} (members : List (String × Toml)) (name : String)
    (read : Toml → Option α) : Option α :=
  (members.lookup name).bind read

def optional? {α : Type} (members : List (String × Toml)) (name : String) (fallback : α)
    (read : Toml → Option α) : Option α :=
  match members.lookup name with
  | some value => read value
  | none => some fallback

end Toml

/-! ## modifier tables -/

namespace Catalog

def modifierOf? (t : Toml) : Option Modifier := do
  let ms ← t.recordOf? ["runtime_type", "output_type", "accessor", "wrapper"]
  let runtimeType ← Toml.required? ms "runtime_type" Toml.text?
  let outputType ← Toml.required? ms "output_type" Toml.text?
  let accessor ← Toml.required? ms "accessor" Toml.text?
  let isWrapper ← Toml.optional? ms "wrapper" false Toml.bool?
  return ⟨runtimeType, outputType, accessor, isWrapper⟩

def entriesOf? (members : List (String × Toml)) : Option (List Modifier) := do
  let ms ← Toml.checkOthers? ["modifier"] members
  Toml.optional? ms "modifier" [] (Toml.listOf? modifierOf?)

def ofToml (document : String) : Except CatalogFailure Catalog :=
  match (Toml.parse? document).bind entriesOf? with
  | some entries => ofEntries entries
  | none => .error (.malformed "not a modifier table")

end Catalog

/-! ## registries -/

namespace Registry

def messageOf? (t : Toml) : Option MessageType := do
  let ms ← t.recordOf? ["category", "direction", "id", "name"]
  let category ← Toml.required? ms "category" (Toml.choiceOf? Category.ofWord?)
  let direction ← Toml.required? ms "direction" (Toml.choiceOf? Direction.ofWord?)
  let id ← Toml.required? ms "id" (Toml.below? UInt32.size)
  let name ← Toml.required? ms "name" Toml.text?
  return ⟨⟨category, direction, UInt32.ofNat id⟩, name⟩

def messagesOf? (members : List (String × Toml)) : Option (List MessageType) := do
  let ms ← Toml.checkOthers? ["message"] members
  Toml.optional? ms "message" [] (Toml.listOf? messageOf?)

def ofToml (document : String) : Except RegistryFailure Registry :=
  match (Toml.parse? document).bind messagesOf? with
  | some ms => empty.registerAll ms
  | none => .error (.malformed "not a registry document")

end Registry

/-! ## configurations -/

namespace Config

/-- The names of the settings in a document. -/
def memberNames : List String := [
  "package", "base_class", "class_prefix", "license_header", "imports", "packet_id_label",
  "field_name_label", "serverbound_label", "clientbound_label", "array_stopwords",
  "name_synonyms", "type_substitutions", "log_level", "modifier_table"]

def tomlReplacements? : Toml → Option (List (String × String)) :=
  Toml.listOf? (Toml.pairOf? Toml.text? Toml.text?)

def ofMembers? (members : List (String × Toml)) : Option Config := do
  let ms ← Toml.checkOthers? memberNames members
  let package ← Toml.optional? ms "package" stock.package Toml.text?
  let baseClass ← Toml.optional? ms "base_class" stock.baseClass Toml.text?
  let classPrefix ← Toml.optional? ms "class_prefix" stock.classPrefix Toml.text?
  let licenseHeader ← Toml.optional? ms "license_header" stock.licenseHeader
    (Toml.listOf? Toml.text?)
  let imports ← Toml.optional? ms "imports" stock.imports (Toml.listOf? Toml.text?)
  let packetIdLabel ← Toml.optional? ms "packet_id_label" stock.packetIdLabel Toml.text?
  let fieldNameLabel ← Toml.optional? ms "field_name_label" stock.fieldNameLabel Toml.text?
  let serverboundLabel ← Toml.optional? ms "serverbound_label" stock.serverboundLabel Toml.text?
  let clientboundLabel ← Toml.optional? ms "clientbound_label" stock.clientboundLabel Toml.text?
  let arrayStopwords ← Toml.optional? ms "array_stopwords" stock.arrayStopwords
    (Toml.listOf? Toml.text?)
  let nameSynonyms ← Toml.optional? ms "name_synonyms" stock.nameSynonyms tomlReplacements?
  let typeSubstitutions ← Toml.optional? ms "type_substitutions" stock.typeSubstitutions
    tomlReplacements?
  let logLevelName ← Toml.optional? ms "log_level" stock.logLevelName Toml.text?
  let modifierTable ← Toml.optional? ms "modifier_table" stock.modifierTable
    fun value => (Toml.text? value).map some
  return {
    package, baseClass, classPrefix, licenseHeader, imports, packetIdLabel, fieldNameLabel,
    serverboundLabel, clientboundLabel, arrayStopwords, nameSynonyms, typeSubstitutions,
    logLevelName, modifierTable }

def ofToml (document : String) : Except ConfigFailure Config :=
  match (Toml.parse? document).bind ofMembers? with
  | some c => .ok c
  | none => .error (.malformed "not a configuration document")

end Config

end WireWrapper
