import Std.Data.ExtTreeMap
import WireWrapper.Text.Blank
import WireWrapper.Text.Case
import WireWrapper.Text.Digits

/-!
# Messages of the protocol and their fields

Headings and header cells are compared in one spelling, the upper-snake form: no blanks at the ends,
upper case, and an underscore for each space.  `Packet ID` and `PACKET_ID` are the same heading.

* `headingForm`   that form;
* `Category`      the phase of a connection that a message belongs to;
* `Direction`     the side that sends it;
* `MessageKey`    category, direction and number: what identifies a message;
* `MessageType`   a key with the name that the host framework has for it;
* `MessageKey.order`   keys by category, then direction, then number;
* `FieldDescriptor`    a field of a compiled type, found by its serialization method;
* `DocField`           a field that the documentation lists.

Each enumeration has a word for data files and a name for generated sources.
-/

namespace WireWrapper

/-- The upper-snake form of a heading. -/
def headingForm (heading : String) : String :=
  String.ofList <|
    (Text.upper (Text.trim heading.toList)).map fun c => if c = ' ' then '_' else c

example : headingForm " Packet ID " = "PACKET_ID" := by decide

/-! ## messages -/

/-- A phase of the protocol. -/
inductive Category where
  | handshaking
  | status
  | login
  | configuration
  | play
deriving DecidableEq, Repr

namespace Category

def rank : Category → Nat
  | handshaking => 0
  | status => 1
  | login => 2
  | configuration => 3
  | play => 4

/-- The word for a category in data files. -/
def word : Category → String
  | handshaking => "handshaking"
  | status => "status"
  | login => "login"
  | configuration => "configuration"
  | play => "play"

/-- The category that a word in a data file stands for. -/
def ofWord? : String → Option Category
  | "handshaking" => some handshaking
  | "status" => some status
  | "login" => some login
  | "configuration" => some configuration
  | "play" => some play
  | _ => none

/-- The name in type references and class names. -/
def javaName : Category → String
  | handshaking => "Handshake"
  | status => "Status"
  | login => "Login"
  | configuration => "Configuration"
  | play => "Play"

/-- The category whose section has this heading.  A decorated heading, `Play (v1)` say, is none. -/
def ofHeading? (heading : String) : Option Category :=
  match headingForm heading with
  | "HANDSHAKING" => some handshaking
  | "STATUS" => some status
  | "LOGIN" => some login
  | "CONFIGURATION" => some configuration
  | "PLAY" => some play
  | _ => none

theorem rank_injective {a b : Category} (h : a.rank = b.rank) : a = b := by
  cases a <;> cases b <;> simp_all [rank]

end Category

/-- The side that sends a message. -/
inductive Direction where
  /-- Sent by the client; documented as serverbound. -/
  | client
  /-- Sent by the server; documented as clientbound. -/
  | server
deriving DecidableEq, Repr

namespace Direction

def rank : Direction → Nat
  | client => 0
  | server => 1

def word : Direction → String
  | client => "client"
  | server => "server"

def ofWord? : String → Option Direction
  | "client" => some client
  | "server" => some server
  | _ => none

def javaName : Direction → String
  | client => "Client"
  | server => "Server"

theorem rank_injective {a b : Direction} (h : a.rank = b.rank) : a = b := by
  cases a <;> cases b <;> simp_all [rank]

end Direction

/-- What identifies a message. -/
structure MessageKey where
  category : Category
  direction : Direction
  id : UInt32
deriving DecidableEq, Repr

namespace MessageKey

/-- A key as it stands in error texts, `Play/Server/0x2A`. -/
def display (key : MessageKey) : String :=
  key.category.javaName ++ "/" ++ key.direction.javaName ++ "/0x" ++
    String.ofList (Text.hex 2 key.id.toNat)

/-- Keys are ordered by category, then by direction, then by number. -/
def order : MessageKey → MessageKey → Ordering :=
  compareLex (compareOn (·.category.rank))
    (compareLex (compareOn (·.direction.rank)) (compareOn (·.id)))

instance : Std.TransCmp order := by
  unfold order
  infer_instance

instance : Std.LawfulEqCmp order where
  compare_self := by
    intro a
    simp [order, compareLex, compareOn, Std.ReflCmp.compare_self]
  eq_of_compare := by
    intro a b h
    obtain ⟨ca, da, ia⟩ := a
    obtain ⟨cb, db, ib⟩ := b
    simp only [order, compareLex_eq_eq, compareOn, Std.LawfulEqCmp.compare_eq_iff_eq] at h
    obtain ⟨hc, hd, hi⟩ := h
    rw [Category.rank_injective hc, Direction.rank_injective hd, hi]

end MessageKey

/-- A message that the host framework knows. -/
structure MessageType where
  key : MessageKey
  /-- The upper-snake name of the constant, `SPAWN_ENTITY` say. -/
  name : String
deriving DecidableEq, Repr

/-- The qualified reference to the constant of the host framework. -/
def MessageType.reference (m : MessageType) : String :=
  "PacketType." ++ m.key.category.javaName ++ "." ++ m.key.direction.javaName ++ "." ++ m.name

/-- Finite maps over message keys, listed in key order. -/
abbrev KeyMap (α : Type) := Std.ExtTreeMap MessageKey α MessageKey.order

theorem KeyMap.getElem?_insert {α : Type} (m : KeyMap α) (written key : MessageKey) (v : α) :
    (m.insert written v)[key]? = if written = key then some v else m[key]? := by
  rw [Std.ExtTreeMap.getElem?_insert]
  by_cases h : written = key
  · rw [if_pos h, if_pos (Std.LawfulEqCmp.compare_eq_iff_eq.mpr h)]
  · rw [if_neg h, if_neg (mt Std.LawfulEqCmp.eq_of_compare h)]

theorem KeyMap.mem_of_getElem? {α : Type} {m : KeyMap α} {key : MessageKey} {v : α}
    (h : m[key]? = some v) : key ∈ m := by
  rw [Std.ExtTreeMap.mem_iff_isSome_getElem?, h]
  rfl

/-! ## fields -/

structure FieldDescriptor where
  /-- The type that declares the field: the scanned type or one of its superclasses. -/
  declaringType : String
  runtimeType : String
  name : String
  /-- The position in the memory order of the scanned type. -/
  ordinal : Nat
deriving DecidableEq, Repr

/-- A field as documented. -/
structure DocField where
  /-- `none` when the row of the field has no name cell. -/
  displayName : Option String
  typeText : String
  notes : String
deriving DecidableEq, Repr

/-- What the field is called in stubs and warnings. -/
def DocField.label (doc : DocField) : String := doc.displayName.getD "<unnamed>"

end WireWrapper
