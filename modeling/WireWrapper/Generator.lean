import WireWrapper.ClassWriter
import WireWrapper.Documented
import WireWrapper.Modifier.Builtin
import WireWrapper.Toml.Files

/-!
# The generator

All that stays the same from message to message, and what is done for each of them.

* `Generator.ofConfig`      a generator with checked settings and the modifier table they name;
* `Generator.generate`      the wrapper of one message;
* `Generator.generateAll`   the wrapper of every registered message, or what it lacks.

Messages do not depend on one another.
-/

namespace WireWrapper

/-- A generated wrapper class. -/
structure Wrapper where
  messageType : MessageType
  className : String
  source : String
deriving DecidableEq, Repr

def Wrapper.fileName (w : Wrapper) : String := w.className ++ ".java"

/-- The text of a file by its path, if it can be read. -/
abbrev Files := String → Option String

/-- What is said of a file that is not there. -/
def missingFileText : String := "No such file or directory (os error 2)"

/-- All that generating needs. -/
structure Generator where
  catalog : Catalog
  hierarchy : Hierarchy
  registry : Registry
  normalizer : Normalizer
  config : Config

/-- What becomes of each message of a batch. -/
abbrev BatchResults := KeyMap (Except Failure Wrapper)

namespace Generator

def target : String := "wrapgen_codegen::generator"

/-- A generator that reads types as its settings say. -/
def ofParts (c : Config) (catalog : Catalog) (h : Hierarchy) (r : Registry) : Generator :=
  ⟨catalog, h, r, c.normalizer, c⟩

/-- The modifier table that the settings name, or the built-in one. -/
def catalogOf (files : Files) (c : Config) : Except CatalogFailure Catalog :=
  match c.modifierTable with
  | none => Catalog.builtin
  | some path =>
    match files path with
    | some document => Catalog.ofToml document
    | none => .error (.unreadable path missingFileText)

def ofConfig (files : Files) (c : Config) (h : Hierarchy) (r : Registry) :
    Logged (Except Failure Generator) :=
  match c.validate with
  | .error failure => pure (.error (.config failure))
  | .ok () =>
    match catalogOf files c with
    | .error failure => pure (.error (.catalog failure))
    | .ok catalog => do
      .log (.ofMessage .debug target "generator ready"
        [("modifiers", .integer catalog.size), ("types", .integer h.size),
          ("messages", .integer r.size)])
      pure (.ok (ofParts c catalog h r))

def classWriter (g : Generator) : ClassWriter := ⟨g.catalog, g.hierarchy, g.normalizer, g.config⟩

def documentedFields (g : Generator) (d : Document) : Logged DocumentedFields :=
  (Labels.ofConfig g.config).fieldsOf g.registry d

/-- The fields of a method's type in both orders. -/
def scan (g : Generator) (m : MethodBody) : Logged (Except ScanFailure ScanResult) := do
  let (result, _) ← (Scanner.ofSelector g.hierarchy firstReadPerLine).scanMethod m
  pure result

/-- The wrapper of one message. -/
def generate (g : Generator) (m : MessageType) (method : MethodBody) (docs : List DocField) :
    Logged (Except Failure Wrapper) := do
  match ← g.scan method with
  | .error failure => pure (.error (.scan failure))
  | .ok result =>
    let source ← g.classWriter.write m result docs
    pure (.ok ⟨m, g.classWriter.className m, source⟩)

/-- The wrapper of a message from the inputs there are for it. -/
def generateFrom (g : Generator) (m : MessageType) (method : Option MethodBody)
    (docs : Option (List DocField)) : Logged (Except Failure Wrapper) :=
  match method, docs with
  | some method, some docs => g.generate m method docs
  | none, _ => pure (.error (.missingInput .serializationMethod m.reference))
  | _, none => pure (.error (.missingInput .documentation m.reference))

def resultFor (g : Generator) (methods : KeyMap MethodBody) (documented : DocumentedFields)
    (m : MessageType) : Logged (Except Failure Wrapper) :=
  g.generateFrom m methods[m.key]? documented[m.key]?

/-- Whether a message was lost. -/
def isFailed (result : Except Failure Wrapper) : Bool :=
  match result with
  | .ok _ => false
  | .error _ => true

def addResult (g : Generator) (methods : KeyMap MethodBody) (documented : DocumentedFields)
    (results : BatchResults) (m : MessageType) : BatchResults :=
  results.insert m.key (g.resultFor methods documented m).value

/-- The events of a batch on the way to its results, in the log of a subscriber that is scoped to the
calling thread.  Several messages are worked on by other threads, out of reach of this log; a single
one is worked on in place.  A subscriber of the whole process receives the other threads' events too,
in an order that nothing fixes. -/
def batchEvents (g : Generator) (methods : KeyMap MethodBody) (documented : DocumentedFields) :
    List Event :=
  match g.registry.messages with
  | [m] => (g.resultFor methods documented m).events
  | _ => []

/-- The wrapper of every registered message, or what it lacks; in the end the log tells how many there
are.  The log is that of the calling thread, as in `batchEvents`. -/
def generateAll (g : Generator) (methods : KeyMap MethodBody) (documented : DocumentedFields) :
    Logged BatchResults := do
  .logAll (g.batchEvents methods documented)
  let results := g.registry.messages.foldl (g.addResult methods documented) ∅
  let failed := (results.toList.filter fun (_, result) => isFailed result).length
  .log (.ofMessage .info target "generation finished"
    [("generated", .integer (results.size - failed : Nat)), ("failed", .integer failed)])
  pure results

end Generator
end WireWrapper
