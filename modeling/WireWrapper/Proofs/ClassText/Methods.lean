import WireWrapper.Accessor
import WireWrapper.Proofs.Source.Lines

/-!
# The methods of a field

The getter, the setter and the getters for entities are values here: Javadoc, header and the only
line of the body.  Writing them one after the other adds the text of these values.

* `ClassMethod`                     a Java method with its Javadoc;
* `ClassMethod.signature`           its name with the types of its parameters;
* `ClassMethod.text`                its text at some depth;
* `FieldEntry.getter`, `setter`, `worldGetter`, `eventGetter`   the methods that a field may get;
* `FieldEntry.getters`, `FieldEntry.methods`                  those that it gets;
* `writeGetter_atLine`, `writeSetter_atLine`                  the writers add the text of these.
-/

namespace WireWrapper

/-! ## methods -/

/-- a Java method whose body is one line -/
structure ClassMethod where
  /-- the lines of the Javadoc -/
  doc : List String
  result : String
  name : String
  /-- types and names of the parameters -/
  params : List (String × String)
  body : String
deriving DecidableEq, Repr

namespace ClassMethod

/-- what Java tells methods of a class apart by: the name and the types of the parameters -/
def signature (m : ClassMethod) : String × List String := (m.name, m.params.map (·.1))

/-- result, name and parameters, as they stand in front of the body -/
def header (m : ClassMethod) : String :=
  "public " ++ m.result ++ " " ++ m.name ++ "(" ++
    String.intercalate ", " (m.params.map fun p => p.1 ++ " " ++ p.2) ++ ")"

/-- a method without its Javadoc, and the empty line behind it -/
def codeText (depth : Nat) (header body : String) : String :=
  paragraph depth (header ++ " \x7b") ++ paragraph (depth + 1) body ++
    paragraph depth "\x7d" ++ "\n"

def text (depth : Nat) (m : ClassMethod) : String :=
  joinMap (paragraph depth) m.doc ++ codeText depth m.header m.body

theorem writeMethod_atLine (header body text : String) (depth : Nat) :
    writeMethod header body (Source.atLine text depth)
      = Source.atLine (text ++ codeText depth header body) depth := by
  rw [writeMethod, Source.writeLine_atLine, Source.indent_atLine, Source.writeLine_atLine,
    Source.dedent_atLine, Source.writeLine_atLine, Source.newline_atLine, codeText]
  simp only [String.append_assoc]

/-- Javadoc, header and body in turn add the text of the method -/
theorem write_atLine (m : ClassMethod) (text : String) (depth : Nat) :
    writeMethod m.header m.body ((Source.atLine text depth).writeLines m.doc)
      = Source.atLine (text ++ m.text depth) depth := by
  rw [Source.writeLines_atLine, writeMethod_atLine, ClassMethod.text, String.append_assoc]

theorem text_endsWithBreak (m : ClassMethod) (depth : Nat) :
    Source.endsWithBreak (m.text depth) = true := by
  rw [ClassMethod.text, codeText]
  exact Source.endsWithBreak_append _ (Source.endsWithBreak_append _ (by decide +kernel))

end ClassMethod

/-! ## accessors -/

namespace FieldEntry
variable (e : FieldEntry) (a : Accessor)

/-- `get<Name>()` -/
def getter : ClassMethod where
  doc := getterDoc e
  result := a.typing.declared
  name := "get" ++ a.name
  params := []
  body := "return" ++ castText a.typing.cast a.typing.declared ++ " handle." ++
    e.modifier.accessor ++ ".read(" ++ toString a.index ++ ");"

/-- `set<Name>(<declared type>)` -/
def setter : ClassMethod where
  doc := setterDoc e
  result := "void"
  name := "set" ++ a.name
  params := [(a.typing.declared, "value")]
  body := "handle." ++ e.modifier.accessor ++ ".write(" ++ toString a.index ++ "," ++
    castText a.typing.cast e.modifier.outputType ++ " value);"

end FieldEntry

/-- `getEntity(World)`, for the entity whose number lies in a slot -/
def worldGetter (index : Nat) : ClassMethod where
  doc := entityDoc "world - the current world of the entity."
  result := "Entity"
  name := "getEntity"
  params := [("World", "world")]
  body := "return handle.getEntityModifier(world).read(" ++ toString index ++ ");"

/-- `getEntity(PacketEvent)`, which asks the getter above -/
def eventGetter : ClassMethod where
  doc := entityDoc "event - the packet event."
  result := "Entity"
  name := "getEntity"
  params := [("PacketEvent", "event")]
  body := "return getEntity(event.getPlayer().getWorld());"

namespace FieldEntry
variable (e : FieldEntry) (a : Accessor)

def getters : List ClassMethod :=
  e.getter a :: if namesEntity a.name then [worldGetter a.index, eventGetter] else []

/-- all methods of a field, in the order of the file -/
def methods : List ClassMethod := e.getters a ++ [e.setter a]

theorem getter_header :
    (e.getter a).header = "public " ++ a.typing.declared ++ " get" ++ a.name ++ "()" := by
  show "public " ++ a.typing.declared ++ " " ++ ("get" ++ a.name) ++ "(" ++ "" ++ ")" = _
  rw [show " get" = " " ++ "get" from rfl, show "()" = "(" ++ ")" from rfl]
  simp only [String.append_assoc, String.empty_append]

theorem setter_header :
    (e.setter a).header
      = "public void set" ++ a.name ++ "(" ++ a.typing.declared ++ " value)" := by
  show "public " ++ "void" ++ " " ++ ("set" ++ a.name) ++ "(" ++
    (a.typing.declared ++ " " ++ "value") ++ ")" = _
  rw [show "public void set" = "public " ++ "void" ++ " " ++ "set" from rfl,
    show " value)" = " " ++ "value" ++ ")" from rfl]
  simp only [String.append_assoc]

end FieldEntry

/-! ## the writers -/

section
variable (e : FieldEntry) (a : Accessor) (text : String) (depth : Nat)

theorem writeEntityGetters_atLine (index : Nat) :
    writeEntityGetters index (Source.atLine text depth)
      = Source.atLine
          (text ++ joinMap (ClassMethod.text depth) [worldGetter index, eventGetter]) depth := by
  have hworld : writeMethod "public Entity getEntity(World world)" (worldGetter index).body
      ((Source.atLine text depth).writeLines (worldGetter index).doc)
        = Source.atLine (text ++ (worldGetter index).text depth) depth :=
    (worldGetter index).write_atLine text depth
  rw [joinMap_cons, joinMap_singleton, ← String.append_assoc]
  refine Eq.trans ?_ (eventGetter.write_atLine _ depth)
  rw [← hworld]
  rfl

/-- **The getter's writer adds the getters.** -/
theorem writeGetter_atLine :
    writeGetter e a (Source.atLine text depth)
      = Source.atLine (text ++ joinMap (ClassMethod.text depth) (e.getters a)) depth := by
  have hget : writeMethod ("public " ++ a.typing.declared ++ " get" ++ a.name ++ "()")
      (e.getter a).body ((Source.atLine text depth).writeLines (e.getter a).doc)
        = Source.atLine (text ++ (e.getter a).text depth) depth := by
    rw [← e.getter_header a, ClassMethod.write_atLine]
  by_cases hn : namesEntity a.name = true
  · rw [writeGetter, if_pos hn, FieldEntry.getters, if_pos hn, joinMap_cons]
    refine (congrArg (writeEntityGetters a.index) hget).trans ?_
    rw [writeEntityGetters_atLine, String.append_assoc]
  · rw [writeGetter, if_neg hn, FieldEntry.getters, if_neg hn, joinMap_singleton]
    exact hget

/-- **The setter's writer adds the setter.** -/
theorem writeSetter_atLine :
    writeSetter e a (Source.atLine text depth)
      = Source.atLine (text ++ joinMap (ClassMethod.text depth) [e.setter a]) depth := by
  rw [joinMap_singleton, ← ClassMethod.write_atLine, e.setter_header a]
  rfl

end

end WireWrapper
