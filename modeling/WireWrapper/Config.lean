import WireWrapper.Failure
import WireWrapper.LogLevel
import WireWrapper.Text.Blank
import WireWrapper.Text.Replace
import WireWrapper.TypeText

/-!
# Configuration

* `Config`              the settings of the generator; `Config.stock` are the defaults;
* `Config.validate`     the first unusable value, in a fixed order;
* `Config.logLevel`     the level that the settings name;
* `Config.normalizer`   how the settings read type text.

A name in a Java source is an identifier of ASCII letters, digits, underscores and dollar signs that
does not start with a digit.
-/

namespace WireWrapper

/-- The settings of the generator. -/
structure Config where
  /-- The package of the generated classes. -/
  package : String
  /-- The class that every generated class extends. -/
  baseClass : String
  /-- What the name of every generated class starts with. -/
  classPrefix : String
  /-- The lines at the top of every file. -/
  licenseHeader : List String
  /-- The imports behind the package declaration. -/
  imports : List String
  /-- The header of the column that holds a message's number. -/
  packetIdLabel : String
  /-- The header of the first column that describes a field. -/
  fieldNameLabel : String
  /-- The heading above messages that the client sends. -/
  serverboundLabel : String
  /-- The heading above messages that the server sends. -/
  clientboundLabel : String
  /-- Words that are never the element type of an array. -/
  arrayStopwords : List String
  /-- Replacements in accessor names, in order. -/
  nameSynonyms : List (String × String)
  /-- Replacements in lower-case type text, in order. -/
  typeSubstitutions : List (String × String)
  /-- The name of a log level. -/
  logLevelName : String
  /-- The file of a modifier table that takes the place of the built-in one.  Paths that are not
  UTF-8, which no record can hold, are left out. -/
  modifierTable : Option String
deriving DecidableEq, Repr

namespace Config

/-- The lines at the top of a file by default. -/
def stockLicenseHeader : List String := [
  "/*",
  " * This file is part of PacketWrapper.",
  " * Copyright (C) 2012-2015 Kristian S. Strangeland",
  " * Copyright (C) 2015 dmulloy2",
  " *",
  " * PacketWrapper is free software: you can redistribute it and/or modify",
  " * it under the terms of the GNU Lesser General Public License as published by",
  " * the Free Software Foundation, either version 3 of the License, or",
  " * (at your option) any later version.",
  " *",
  " * PacketWrapper is distributed in the hope that it will be useful,",
  " * but WITHOUT ANY WARRANTY; without even the implied warranty of",
  " * MERCHANTABILITY or FITNESS FOR A PARTICULAR PURPOSE.  See the",
  " * GNU General Public License for more details.",
  " *",
  " * You should have received a copy of the GNU Lesser General Public License",
  " * along with PacketWrapper.  If not, see <https://www.gnu.org/licenses/>.",
  " */"]

def stock : Config where
  package := "com.comphenix.packetwrapper"
  baseClass := "AbstractPacket"
  classPrefix := "Wrapper"
  licenseHeader := stockLicenseHeader
  imports := [
    "com.comphenix.protocol.PacketType",
    "com.comphenix.protocol.events.PacketContainer"]
  packetIdLabel := "PACKET_ID"
  fieldNameLabel := "FIELD_NAME"
  serverboundLabel := "SERVERBOUND"
  clientboundLabel := "CLIENTBOUND"
  arrayStopwords := Normalizer.stockStopwords
  nameSynonyms := [("Eid", "EntityID"), ("EntityId", "EntityID"), ("JsonData", "Message")]
  typeSubstitutions := Normalizer.stockSubstitutions
  logLevelName := "info"
  modifierTable := none

def startsIdentifier (c : Char) : Bool := c.isAlpha || c == '_' || c == '$'

def continuesIdentifier (c : Char) : Bool := c.isAlphanum || c == '_' || c == '$'

/-- Whether a text is a Java identifier in ASCII. -/
def isIdentifier : List Char → Bool
  | [] => false
  | c :: cs => startsIdentifier c && cs.all continuesIdentifier

/-- The first part of a dotted name that is no identifier. -/
def badSegment? (package : String) : Option (List Char) :=
  (Text.pieces (· == '.') package.toList).find? (!isIdentifier ·)

/-- The first label without a visible character. -/
def emptyLabel? (c : Config) : Option String :=
  ([("packet_id_label", c.packetIdLabel), ("serverbound_label", c.serverboundLabel),
    ("clientbound_label", c.clientboundLabel)].find? fun (_, label) =>
      (Text.trim label.toList).isEmpty).map (·.1)

def logLevel (c : Config) : Except ConfigFailure LogLevel :=
  match LogLevel.parse? c.logLevelName with
  | some level => .ok level
  | none => .error (.invalid ("unknown log level '" ++ c.logLevelName ++ "'"))

def normalizer (c : Config) : Normalizer := ⟨c.typeSubstitutions, c.arrayStopwords⟩

/-- The reason why a configuration cannot be used, the first of several, apart from its log level. -/
def fault? (c : Config) : Option String :=
  if c.package.isEmpty then some "package cannot be empty"
  else if let some segment := badSegment? c.package then
    some ("package segment '" ++ String.ofList segment ++ "' is not a valid identifier")
  else if !isIdentifier c.classPrefix.toList then
    some ("class prefix '" ++ c.classPrefix ++ "' is not a valid identifier")
  else if !isIdentifier c.baseClass.toList then
    some ("base class '" ++ c.baseClass ++ "' is not a valid identifier")
  else if let some name := c.emptyLabel? then some (name ++ " cannot be empty")
  else if c.serverboundLabel = c.clientboundLabel then
    some "serverbound and clientbound labels must differ"
  else if c.typeSubstitutions.any (·.1.isEmpty) then
    some "type substitution patterns cannot be empty"
  else if c.nameSynonyms.any (·.1.isEmpty) then some "name synonym patterns cannot be empty"
  else none

/-- Whether a configuration can be used. -/
def validate (c : Config) : Except ConfigFailure Unit :=
  match c.fault? with
  | some reason => .error (.invalid reason)
  | none => c.logLevel.map fun _ => ()

end Config
end WireWrapper
