import WireWrapper.Config
import WireWrapper.Message
import WireWrapper.Modifier
import WireWrapper.Name
import WireWrapper.Source

/-!
# Accessors

A field gets a getter and a setter, each with its Javadoc.  A field that holds an entity's number
gets two more getters for the entity itself.

* `FieldTyping`            the Java type that an accessor declares, and whether its values are cast;
* `typingOf`               the typing of a field from its modifier and its documentation;
* `slotIndex`              the place of a field among the fields of its runtime type: the index that
                           the host's typed accessors use;
* `commentText`            documentation text that is safe inside a comment line;
* `FieldEntry`             all that is known of one field;
* `Accessor`               name, type and index of its accessors;
* `FieldEntry.accessor`    these, unless one of them cannot be had;
* `getter`, `setter`       the text of the accessors.
-/

namespace WireWrapper

/-! ## types and slots -/

/-- The Java type that an accessor declares. -/
structure FieldTyping where
  declared : String
  /-- Whether values are cast between this type and that of the modifier. -/
  cast : Bool
deriving DecidableEq, Repr

/-- Whether a type is narrower than the types that take in narrower values. -/
def isNarrow (type : String) : Bool :=
  Text.equalIgnoringCase type "byte" || Text.equalIgnoringCase type "short"

/-- The typing of a field.  A wrapper modifier keeps its own type, and so does one that yields `int`
or `float` over `byte` or `short`; else the documented type is declared, with a cast if it differs
from the modifier's. -/
def typingOf (n : Normalizer) (m : Modifier) (doc : DocField) : FieldTyping :=
  if m.isWrapper then ⟨m.outputType, false⟩
  else
    let documented := n.normalize doc.typeText
    if m.isWidening && isNarrow documented then ⟨m.outputType, false⟩
    else ⟨documented, documented != m.outputType⟩

/-- The place of a field among the fields in memory that share its runtime type. -/
def slotIndex (memory : List FieldDescriptor) (field : FieldDescriptor) :
    Except FieldFailure Nat :=
  let slots := memory.filter (·.runtimeType == field.runtimeType)
  match slots.findIdx? fun f => f.declaringType == field.declaringType && f.name == field.name with
  | some index => .ok index
  | none => .error (.notInMemoryOrder field.name)

/-! ## methods -/

/-- Text for one line of a comment: its words with one space in between, and nothing that would end
the comment. -/
def commentText (s : String) : String :=
  String.ofList (Text.replace "*/".toList "*&#47;".toList (Text.collapse s.toList))

/-- A field with its documented name and its modifier. -/
structure FieldEntry where
  field : FieldDescriptor
  doc : DocField
  displayName : String
  modifier : Modifier
  memoryOrder : List FieldDescriptor
deriving Repr

/-- What the accessors of a field need. -/
structure Accessor where
  /-- The name behind `get` and `set`. -/
  name : String
  typing : FieldTyping
  index : Nat
deriving DecidableEq, Repr

namespace FieldEntry

/-- Name, type and index of a field's accessors, or the first of them that cannot be had. -/
def accessor (e : FieldEntry) (c : Config) (n : Normalizer) : Except FieldFailure Accessor :=
  let name := Name.accessor e.displayName c.nameSynonyms
  let typing := typingOf n e.modifier e.doc
  if name.isEmpty then .error (.emptyAccessorName e.displayName)
  else if typing.declared.isEmpty then .error (.emptyDeclaredType e.field.name)
  else (slotIndex e.memoryOrder e.field).map fun index => ⟨name, typing, index⟩

end FieldEntry

/-- A method: its header, its only line one level deeper, and an empty line behind it. -/
def writeMethod (header body : String) (w : Source) : Source :=
  ((((w.writeLine (header ++ " \x7b")).indent.writeLine body).dedent).writeLine "\x7d").newline

/-- A conversion to a type, with a space in front, where one is needed. -/
def castText (needed : Bool) (type : String) : String :=
  if needed then " (" ++ type ++ ")" else ""

def noteLines (note : String) : List String :=
  if note.isEmpty then [] else [" * <p>", " * Notes: " ++ note]

def getterDoc (e : FieldEntry) : List String :=
  let name := commentText e.displayName
  ["/**", " * Retrieve " ++ name ++ "."] ++
    noteLines (Name.lowerFirst (commentText e.doc.notes)) ++
    [" * @return The current " ++ name, " */"]

def setterDoc (e : FieldEntry) : List String :=
  ["/**", " * Set " ++ commentText e.displayName ++ ".", " * @param value - new value.", " */"]

def entityDoc (param : String) : List String :=
  ["/**", " * Retrieve the entity involved in this event.", " * @param " ++ param,
    " * @return The involved entity.", " */"]

/-- The getters for the entity whose number a field holds. -/
def writeEntityGetters (index : Nat) (w : Source) : Source :=
  let w := writeMethod "public Entity getEntity(World world)"
    ("return handle.getEntityModifier(world).read(" ++ toString index ++ ");")
    (w.writeLines (entityDoc "world - the current world of the entity."))
  writeMethod "public Entity getEntity(PacketEvent event)"
    "return getEntity(event.getPlayer().getWorld());"
    (w.writeLines (entityDoc "event - the packet event."))

/-- Whether a field of this accessor name holds an entity's number. -/
def namesEntity (name : String) : Bool := Text.occursIn "entityid".toList (Text.lower name.toList)

def writeGetter (e : FieldEntry) (a : Accessor) (w : Source) : Source :=
  let w := writeMethod ("public " ++ a.typing.declared ++ " get" ++ a.name ++ "()")
    ("return" ++ castText a.typing.cast a.typing.declared ++ " handle." ++ e.modifier.accessor ++
      ".read(" ++ toString a.index ++ ");")
    (w.writeLines (getterDoc e))
  if namesEntity a.name then writeEntityGetters a.index w else w

def writeSetter (e : FieldEntry) (a : Accessor) (w : Source) : Source :=
  writeMethod ("public void set" ++ a.name ++ "(" ++ a.typing.declared ++ " value)")
    ("handle." ++ e.modifier.accessor ++ ".write(" ++ toString a.index ++ "," ++
      castText a.typing.cast e.modifier.outputType ++ " value);")
    (w.writeLines (setterDoc e))

end WireWrapper
