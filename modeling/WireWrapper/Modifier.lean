import WireWrapper.Failure
import WireWrapper.Hierarchy
import WireWrapper.Text.Blank
import WireWrapper.Text.Case

/-!
# Modifiers and their catalog

A modifier binds a runtime type to the accessor of the packet handle that reads and writes it.

* `Modifier`              one binding;
* `Catalog.ofEntries`     the catalog of a table, unless a member is blank or a type comes twice;
* `Catalog.get?`          the modifier of exactly a type;
* `Catalog.resolve?`      the modifier of a type or of its nearest superclass that has one, short of
                          the root, so that unrelated types never share an entry for everything.
-/

namespace WireWrapper

/-- The binding of a runtime type to an accessor. -/
structure Modifier where
  runtimeType : String
  /-- The Java type that the accessor yields. -/
  outputType : String
  /-- The call on the packet handle, `getIntegers()` say. -/
  accessor : String
  /-- Whether the accessor always yields the output type, whatever the documentation says. -/
  isWrapper : Bool
deriving DecidableEq, Repr

namespace Modifier

def isBlankText (s : String) : Bool := (Text.trim s.toList).isEmpty

def blankMember? (m : Modifier) : Option ModifierMember :=
  if isBlankText m.runtimeType then some .runtimeType
  else if isBlankText m.outputType then some .outputType
  else if isBlankText m.accessor then some .accessor
  else none

/-- Whether the accessor yields `int` or `float`, the types that take in narrower values. -/
def isWidening (m : Modifier) : Bool :=
  Text.equalIgnoringCase m.outputType "int" || Text.equalIgnoringCase m.outputType "float"

end Modifier

/-- Modifiers by runtime type. -/
structure Catalog where
  byType : Std.ExtTreeMap String Modifier

namespace Catalog

def empty : Catalog := ⟨∅⟩

/-- The modifier of exactly this type. -/
def get? (c : Catalog) (runtimeType : String) : Option Modifier := c.byType[runtimeType]?

/-- Adds a modifier without blank members for a type that has none. -/
def add (c : Catalog) (m : Modifier) : Except CatalogFailure Catalog :=
  match m.blankMember? with
  | some member => .error (.blank m.runtimeType member)
  | none =>
    if (c.get? m.runtimeType).isSome then .error (.duplicate m.runtimeType)
    else .ok ⟨c.byType.insert m.runtimeType m⟩

/-- The catalog of a table. -/
def ofEntries (entries : List Modifier) : Except CatalogFailure Catalog :=
  entries.foldlM add empty

/-- All modifiers, in the order of their types. -/
def modifiers (c : Catalog) : List Modifier := c.byType.toList.map (·.2)

def size (c : Catalog) : Nat := c.byType.size

/-- The modifier of a type or of its nearest superclass that has one, short of the root. -/
def resolve? (c : Catalog) (h : Hierarchy) (runtimeType : String) : Option Modifier :=
  ((h.ancestors runtimeType).takeWhile (· != objectRoot)).findSome? c.get?

/-- A modifier that is found is one of the catalog. -/
theorem resolve?_mem {c : Catalog} {h : Hierarchy} {type : String} {m : Modifier}
    (hm : c.resolve? h type = some m) : m ∈ c.modifiers := by
  obtain ⟨above, _, hget⟩ := List.exists_of_findSome?_eq_some hm
  rw [modifiers, List.mem_map]
  exact ⟨(above, m), Std.ExtTreeMap.mem_toList_iff_getElem?_eq_some.mpr hget, rfl⟩

end Catalog
end WireWrapper
