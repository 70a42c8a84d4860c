import Std.Data.ExtTreeMap
import WireWrapper.Message

/-!
# The hierarchy of runtime types

For each known type its superclass and the fields it declares, in declaration order.  Field names and
field types are both looked up from a type upwards.

* `Hierarchy.superclass?`   the type that a type extends;
* `Hierarchy.ancestors`     a type and its superclasses, nearest first, up to the first repetition;
* `Hierarchy.findField?`    the nearest declaration of a name, with the type that declares it;
* `Hierarchy.memoryOrder`   the instance fields of a type as they lie in memory: its own first, then
                            those of each superclass.
-/

namespace WireWrapper

/-- The type that every reference type extends. -/
def objectRoot : String := "java.lang.Object"

/-- A field as a type declares it. -/
structure FieldDecl where
  name : String
  runtimeType : String
  isStatic : Bool
deriving DecidableEq, Repr

/-- What is known of one type. -/
structure TypeInfo where
  superclass : Option String
  fields : List FieldDecl
deriving DecidableEq, Repr

/-- The known types by their qualified names. -/
structure Hierarchy where
  types : Std.ExtTreeMap String TypeInfo

namespace Hierarchy

def empty : Hierarchy := ⟨∅⟩

/-- Adds a type, or replaces the one of that name. -/
def insert (h : Hierarchy) (name : String) (info : TypeInfo) : Hierarchy :=
  ⟨h.types.insert name info⟩

/-- The hierarchy of the given types; of two with one name the later one counts. -/
def ofTypes (types : List (String × TypeInfo)) : Hierarchy :=
  types.foldl (fun h t => h.insert t.1 t.2) empty

def get? (h : Hierarchy) (name : String) : Option TypeInfo := h.types[name]?

def contains (h : Hierarchy) (name : String) : Bool := h.types.contains name

def size (h : Hierarchy) : Nat := h.types.size

/-- Whether a name is that of an array type. -/
def isArrayName (name : String) : Bool := "[]".toList.isSuffixOf name.toList

/-- The type that a type extends.  An unknown array type extends the root; of other unknown types
nothing is known. -/
def superclass? (h : Hierarchy) (name : String) : Option String :=
  match h.get? name with
  | some info => info.superclass
  | none => if isArrayName name then some objectRoot else none

/-- The superclasses from `name` on, itself first, up to a type that was `seen` before. -/
def chain (h : Hierarchy) : (fuel : Nat) → (seen : List String) → (name : String) → List String
  | 0, _, _ => []
  | fuel + 1, seen, name =>
    if name ∈ seen then []
    else name :: match h.superclass? name with
      | some above => chain h fuel (name :: seen) above
      | none => []

/-- A type and its superclasses, nearest first.  The walk ends where no superclass is known or where
a type comes again.  It meets each known type at most once, and at most two others: both are arrays,
or the last one has no superclass. -/
def ancestors (h : Hierarchy) (start : String) : List String := h.chain (h.size + 2) [] start

/-- The first declaration of a name in one type. -/
def declared? (h : Hierarchy) (type name : String) : Option FieldDecl :=
  (h.get? type).bind fun info => info.fields.find? (·.name == name)

/-- The nearest declaration of a name, with the type that declares it. -/
def findField? (h : Hierarchy) (start name : String) : Option (String × FieldDecl) :=
  (h.ancestors start).findSome? fun type => (h.declared? type name).map (type, ·)

def instanceFields (h : Hierarchy) (type : String) : List (String × FieldDecl) :=
  match h.get? type with
  | some info => (info.fields.filter (!·.isStatic)).map (type, ·)
  | none => []

/-- The instance fields of a type as they lie in memory. -/
def memoryOrder (h : Hierarchy) (start : String) : List FieldDescriptor :=
  ((h.ancestors start).flatMap h.instanceFields).mapIdx fun i (type, field) =>
    ⟨type, field.runtimeType, field.name, i⟩

end Hierarchy
end WireWrapper
