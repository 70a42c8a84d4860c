/-!
# What can go wrong

One type per activity, and `Failure` for any of them.

* `ScanFailure`       an instruction stream and the type hierarchy disagree;
* `CatalogFailure`    a modifier table cannot be used;
* `ConfigFailure`     a configuration cannot be read or holds unusable values;
* `RegistryFailure`   a message registry cannot be used;
* `FieldFailure`      an accessor cannot be written;
* `Failure.message`   the text shown; `Failure.code` the number of the activity;
* `Failure.isFatal`   whether a run ends, or only one field or one message is lost.
-/

namespace WireWrapper

/-- Failures while the wire order is recovered. -/
inductive ScanFailure where
  /-- A selected field is declared by no type of the hierarchy. -/
  | unresolvedField (typeName field : String)
  /-- The hierarchy does not hold the scanned type. -/
  | unknownType (typeName : String)
deriving DecidableEq, Repr

/-- The members of a modifier that may not be blank. -/
inductive ModifierMember where
  | runtimeType
  | outputType
  | accessor
deriving DecidableEq, Repr

/-- Failures while a modifier catalog is built. -/
inductive CatalogFailure where
  /-- The file of the table cannot be read. -/
  | unreadable (path reason : String)
  /-- The text is no modifier table. -/
  | malformed (reason : String)
  /-- Two entries have this runtime type. -/
  | duplicate (runtimeType : String)
  /-- A member of the entry for this runtime type is blank. -/
  | blank (runtimeType : String) (member : ModifierMember)
deriving DecidableEq, Repr

/-- Failures while a configuration is read or checked. -/
inductive ConfigFailure where
  /-- The file cannot be read. -/
  | unreadable (path reason : String)
  /-- The text is no configuration. -/
  | malformed (reason : String)
  /-- The configuration holds an unusable value. -/
  | invalid (reason : String)
deriving DecidableEq, Repr

/-- Failures while a message registry is built. -/
inductive RegistryFailure where
  /-- The text is no registry. -/
  | malformed (reason : String)
  /-- Two messages claim one key; the text names the key and both of them. -/
  | duplicateKey (claim : String)
deriving DecidableEq, Repr

/-- Failures while one accessor is written. -/
inductive FieldFailure where
  /-- The scanned field is not among the fields in memory. -/
  | notInMemoryOrder (field : String)
  /-- The documented name holds no character of an identifier. -/
  | emptyAccessorName (displayName : String)
  /-- The documented type is empty once normalized. -/
  | emptyDeclaredType (field : String)
  /-- The output refused the text. -/
  | format
deriving DecidableEq, Repr

/-- The two inputs that generating a message needs. -/
inductive RequiredInput where
  | serializationMethod
  | documentation
deriving DecidableEq, Repr

/-- Any failure of the generator. -/
inductive Failure where
  | scan (cause : ScanFailure)
  | catalog (cause : CatalogFailure)
  | config (cause : ConfigFailure)
  | registry (cause : RegistryFailure)
  | field (cause : FieldFailure)
  /-- A message has no method or no documentation. -/
  | missingInput (input : RequiredInput) (messageType : String)
  /-- An input document does not have the shape of the value it stands for. -/
  | decoding (reason : String)
deriving DecidableEq, Repr

def ScanFailure.message : ScanFailure → String
  | unresolvedField typeName field =>
    "field '" ++ field ++ "' not found in '" ++ typeName ++ "' or any superclass"
  | unknownType typeName => "unknown declaring type: " ++ typeName

def ModifierMember.label : ModifierMember → String
  | runtimeType => "runtime_type"
  | outputType => "output_type"
  | accessor => "accessor"

def CatalogFailure.message : CatalogFailure → String
  | unreadable path reason => "malformed modifier table: " ++ path ++ ": " ++ reason
  | malformed reason => "malformed modifier table: " ++ reason
  | duplicate runtimeType => "duplicate modifier for runtime type: " ++ runtimeType
  | blank runtimeType member =>
    "modifier for '" ++ runtimeType ++ "' has an empty " ++ member.label

def ConfigFailure.message : ConfigFailure → String
  | unreadable path reason => "failed to read " ++ path ++ ": " ++ reason
  | malformed reason => "failed to parse configuration: " ++ reason
  | invalid reason => "invalid configuration: " ++ reason

def RegistryFailure.message : RegistryFailure → String
  | malformed reason => "malformed registry: " ++ reason
  | duplicateKey claim => "duplicate message key: " ++ claim

def FieldFailure.message : FieldFailure → String
  | notInMemoryOrder field => "field '" ++ field ++ "' is missing from the memory layout"
  | emptyAccessorName displayName =>
    "display name '" ++ displayName ++ "' yields an empty accessor name"
  | emptyDeclaredType field => "field '" ++ field ++ "' has no declared type"
  | format => "formatting failed: an error occurred when formatting an argument"

def RequiredInput.label : RequiredInput → String
  | serializationMethod => "serialization method"
  | documentation => "documentation"

namespace Failure

/-- The text of a failure. -/
def message : Failure → String
  | scan cause => cause.message
  | catalog cause => cause.message
  | config cause => cause.message
  | registry cause => cause.message
  | field cause => cause.message
  | missingInput input messageType => "missing " ++ input.label ++ " input for " ++ messageType
  | decoding reason => "serialization error: " ++ reason

/-- The number of the activity that failed. -/
def code : Failure → Nat
  | scan _ => 1
  | catalog _ => 2
  | config _ => 3
  | registry _ => 4
  | field _ => 5
  | missingInput _ _ => 6
  | decoding _ => 7

/-- Whether the failure ends a run.  The others cost one accessor or one message. -/
def isFatal : Failure → Bool
  | field _ => false
  | missingInput _ _ => false
  | _ => true

end Failure
end WireWrapper
