import WireWrapper.Diagnostic
import WireWrapper.Failure
import WireWrapper.Hierarchy
import WireWrapper.Method

/-!
# Wire order

The order in which a serialization method writes the fields of its type is the order in which it
reads them.  Which reads count is up to a `Selector`; the usual one relies on method bodies that
write exactly one field in each source line.

* `Selector`               picks the instructions whose field is written;
* `firstReadPerLine`       the first instance field read after each line marker;
* `everyRead`              every instance field read;
* `Scanner`                a selector with its state, a hierarchy, and a filter on fields;
* `Scanner.scan`           the fields that a stream writes, in wire order;
* `Scanner.scanMethod`     the same for a method, with the memory order of its type.
-/

namespace WireWrapper

/-- A way to pick the instructions whose field is written.  It walks along a stream with a state. -/
structure Selector (σ : Type) where
  /-- The state before anything was read. -/
  initial : σ
  /-- The state at the start of a stream, from the one after the last stream. -/
  reset : σ → σ
  /-- The name of the field that an instruction writes, if any; the text is the scanned type. -/
  select : σ → Instruction → String → Option String × σ

/-- Picks the first instance field read after each line marker.  The state says whether the line is
still unused. -/
def firstReadPerLine : Selector Bool where
  initial := false
  reset _ := false
  select fresh instruction type :=
    match instruction with
    | .line _ => (none, true)
    | .field .getField owner name =>
      -- a field of another type uses up the line too, but is not picked
      if fresh then (if owner = type then some name else none, false) else (none, false)
    | _ => (none, fresh)

/-- Picks every instance field read, whatever its owner and its line. -/
def everyRead : Selector Unit where
  initial := ()
  reset _ := ()
  select _ instruction _ :=
    match instruction with
    | .field .getField _ name => (some name, ())
    | _ => (none, ())

/-- The fields of a message in both orders. -/
structure ScanResult where
  networkOrder : List FieldDescriptor
  memoryOrder : List FieldDescriptor
deriving DecidableEq, Repr

/-- What is needed to scan streams one after the other. -/
structure Scanner (σ : Type) where
  hierarchy : Hierarchy
  selector : Selector σ
  /-- Which fields are kept. -/
  accepts : FieldDescriptor → Bool
  state : σ

namespace Scanner

variable {σ : Type}

/-- A scanner that keeps all fields and has read nothing yet. -/
def ofSelector (h : Hierarchy) (selector : Selector σ) : Scanner σ :=
  ⟨h, selector, fun _ => true, selector.initial⟩

def target : String := "wrapgen_codegen::scanner"

/-- The field in memory that a picked name stands for; none when the name is that of a static field.
A name that no type declares is an error: the stream and the hierarchy disagree. -/
def record? (h : Hierarchy) (memory : List FieldDescriptor) (type name : String) :
    Except ScanFailure (Option FieldDescriptor) :=
  match h.findField? type name with
  | none => .error (.unresolvedField type name)
  | some (owner, field) =>
    .ok (memory.find? fun f => f.declaringType == owner && f.name == field.name)

/-- The fields that a stream writes, in wire order, and the state at its end or at the failure. -/
def walk (h : Hierarchy) (selector : Selector σ) (accepts : FieldDescriptor → Bool)
    (memory : List FieldDescriptor) (type : String) :
    σ → List Instruction → Logged (Except ScanFailure (List FieldDescriptor) × σ)
  | state, [] => pure (.ok [], state)
  | state, i :: is =>
    match selector.select state i type with
    | (none, state) => walk h selector accepts memory type state is
    | (some name, state) =>
      match record? h memory type name with
      | .error failure => pure (.error failure, state)
      | .ok none => do
        .log (.ofMessage .debug target "skipping static field read" [("field", .text name)])
        walk h selector accepts memory type state is
      | .ok (some field) => do
        let (rest, state) ← walk h selector accepts memory type state is
        pure (rest.map fun fields => if accepts field then field :: fields else fields, state)

/-- The fields that a stream of a type writes, in wire order, and the scanner for the next stream. -/
def scan (s : Scanner σ) (instructions : List Instruction) (type : String) :
    Logged (Except ScanFailure (List FieldDescriptor) × Scanner σ) :=
  if s.hierarchy.contains type then do
    let (result, state) ← walk s.hierarchy s.selector s.accepts (s.hierarchy.memoryOrder type) type
      (s.selector.reset s.state) instructions
    match result with
    | .ok fields => .log (.ofMessage .debug target "recovered wire order"
        [("declaring_type", .text type), ("fields", .integer fields.length)])
    | .error _ => pure ()
    pure (result, { s with state })
  else pure (.error (.unknownType type), s)

/-- The fields of a method's type in wire order and in memory order, and the scanner for the next
method. -/
def scanMethod (s : Scanner σ) (m : MethodBody) :
    Logged (Except ScanFailure ScanResult × Scanner σ) := do
  let (result, s) ← s.scan m.instructions m.declaringType
  pure (result.map fun fields => ⟨fields, s.hierarchy.memoryOrder m.declaringType⟩, s)

end Scanner
end WireWrapper
