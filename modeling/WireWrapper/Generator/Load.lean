import WireWrapper.Document.Json
import WireWrapper.Generator
import WireWrapper.Hierarchy.Json
import WireWrapper.Json.Reader

/-!
# Loading from files

* `LoadFailure`          what was being done, and why it failed;
* `Generator.load`       a generator from a TOML configuration (or the stock one), a JSON hierarchy and
                         a TOML registry, read in this order;
* `loadDocument`         a documentation tree from JSON.
-/

namespace WireWrapper

/-- Why a file could not be used. -/
inductive LoadCause where
  | failure (cause : Failure)
  /-- The text is no JSON document of the wanted shape. -/
  | json
  /-- There is no such file. -/
  | missingFile
deriving DecidableEq, Repr

/-- What was being done, and why it failed. -/
structure LoadFailure where
  activity : String
  cause : LoadCause
deriving DecidableEq, Repr

def Hierarchy.parse? (s : String) : Option Hierarchy := (Json.parse? s).bind ofJson?

def Document.parse? (s : String) : Option Document := (Json.parse? s).bind ofJson?

def readFile (files : Files) (path : String) : Except LoadFailure String :=
  match files path with
  | some text => .ok text
  | none => .error ⟨"Failed to read " ++ path, .missingFile⟩

def loadDocument (files : Files) (path : String) : Except LoadFailure Document := do
  let text ← readFile files path
  match Document.parse? text with
  | some d => .ok d
  | none => .error ⟨"Failed to parse document: " ++ path, .json⟩

namespace Generator

def configFile (files : Files) (path : String) : Except ConfigFailure Config :=
  match files path with
  | some document => Config.ofToml document
  | none => .error (.unreadable path missingFileText)

/-- The settings in a file, or the stock ones. -/
def loadConfig (files : Files) : Option String → Except LoadFailure Config
  | none => .ok .stock
  | some path =>
    match configFile files path with
    | .ok c => .ok c
    | .error failure => .error ⟨"Failed to load config: " ++ path, .failure (.config failure)⟩

def loadHierarchy (files : Files) (path : String) : Except LoadFailure Hierarchy := do
  let text ← readFile files path
  match Hierarchy.parse? text with
  | some h => .ok h
  | none => .error ⟨"Failed to parse type hierarchy: " ++ path, .json⟩

def loadRegistry (files : Files) (path : String) : Except LoadFailure Registry := do
  let text ← readFile files path
  match Registry.ofToml text with
  | .ok r => .ok r
  | .error failure =>
    .error ⟨"Failed to parse message registry: " ++ path, .failure (.registry failure)⟩

/-- The parts of a generator that files give. -/
def loadParts (files : Files) (configPath : Option String) (hierarchyPath registryPath : String) :
    Except LoadFailure (Config × Hierarchy × Registry) := do
  let c ← loadConfig files configPath
  let h ← loadHierarchy files hierarchyPath
  let r ← loadRegistry files registryPath
  return (c, h, r)

def load (files : Files) (configPath : Option String) (hierarchyPath registryPath : String) :
    Logged (Except LoadFailure Generator) :=
  match loadParts files configPath hierarchyPath registryPath with
  | .error failure => pure (.error failure)
  | .ok (c, h, r) => do
    match ← ofConfig files c h r with
    | .ok g => pure (.ok g)
    | .error cause => pure (.error ⟨"Invalid generator configuration", .failure cause⟩)

end Generator
end WireWrapper
