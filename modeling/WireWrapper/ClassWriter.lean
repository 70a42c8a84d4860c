import WireWrapper.Accessor
import WireWrapper.Alignment
import WireWrapper.Diagnostic
import WireWrapper.Message
import WireWrapper.WireOrder

/-!
# Wrapper classes

A wrapper class gives a message's fields typed accessors.  Writing one always succeeds: for what
cannot be written there is a comment in the class and a warning in the log.

* `ClassWriter`              modifiers, hierarchy, normalizer and settings;
* `ClassWriter.className`    the name of a message's class;
* `ClassWriter.preamble`     the file up to the first accessor;
* `ClassWriter.writeField`   the accessors of one aligned field;
* `ClassWriter.write`        the whole file.
-/

namespace WireWrapper

/-- What is needed to write wrapper classes. -/
structure ClassWriter where
  catalog : Catalog
  hierarchy : Hierarchy
  normalizer : Normalizer
  config : Config

namespace ClassWriter

def target : String := "wrapgen_codegen::emitter"

/-- The name of a message's class, `WrapperPlayServerSpawnEntity` say. -/
def className (c : ClassWriter) (m : MessageType) : String :=
  c.config.classPrefix ++ m.key.category.javaName ++ m.key.direction.javaName ++
    Name.pascalCase m.name

/-- A constructor: its header and the lines of its body. -/
def writeConstructor (header : String) (body : List String) (w : Source) : Source :=
  (((w.line (header ++ " \x7b")).indent.lines body).dedent.line "\x7d").newline

/-- The file up to the first accessor, one level deep. -/
def preamble (c : ClassWriter) (m : MessageType) : Source :=
  let name := c.className m
  let w := (Source.empty.lines c.config.licenseHeader).line ("package " ++ c.config.package ++ ";")
  let w := (w.newline.lines (c.config.imports.map fun i => "import " ++ i ++ ";")).newline
  let w := w.line ("public class " ++ name ++ " extends " ++ c.config.baseClass ++ " \x7b")
  let w := w.newline.indent
  let w := (w.line ("public static final PacketType TYPE = " ++ m.reference ++ ";")).newline
  let w := writeConstructor ("public " ++ name ++ "()")
    ["super(new PacketContainer(TYPE), TYPE);", "handle.getModifier().writeDefaults();"] w
  writeConstructor ("public " ++ name ++ "(PacketContainer packet)") ["super(packet, TYPE);"] w

/-- One accessor, or a comment in its place. -/
def stageAccessor (m : MessageType) (field : FieldDescriptor) (kind : String)
    (render : Source → Except FieldFailure Source) (w : Source) : Logged Source :=
  match w.stage ("// Cannot generate " ++ kind ++ " " ++ field.name) render with
  | (w, none) => pure w
  | (w, some failure) => do
    .log (.ofMessage .warn target ("failed to generate " ++ kind)
      [("message_type", .text m.reference), ("field", .text field.name),
        ("error", .text failure.message)])
    pure w

def writeAccessors (c : ClassWriter) (m : MessageType) (e : FieldEntry) (w : Source) :
    Logged Source := do
  let accessor := e.accessor c.config c.normalizer
  let w ← stageAccessor m e.field "getter"
    (fun staged => accessor.map fun a => writeGetter e a staged) w
  stageAccessor m e.field "setter" (fun staged => accessor.map fun a => writeSetter e a staged) w

/-- The accessors of one aligned field.  Without a modifier a comment takes their place; without a
documented name they are left out. -/
def writeField (c : ClassWriter) (m : MessageType) (memory : List FieldDescriptor)
    (pair : AlignedField) (w : Source) : Logged Source :=
  match c.catalog.resolve? c.hierarchy pair.scan.runtimeType, pair.doc.displayName with
  | none, _ => do
    .log (.ofMessage .warn target "cannot find modifier for field type"
      [("message_type", .text m.reference), ("field", .text pair.scan.name),
        ("runtime_type", .text pair.scan.runtimeType)])
    pure (w.line ("// Cannot find type for " ++ pair.scan.name))
  | some _, none => do
    .log (.ofMessage .warn target "undocumented field skipped"
      [("message_type", .text m.reference), ("index", .integer pair.index),
        ("runtime_type", .text pair.scan.runtimeType)])
    pure w
  | some modifier, some displayName =>
    c.writeAccessors m ⟨pair.scan, pair.doc, displayName, modifier, memory⟩ w

def writeFields (c : ClassWriter) (m : MessageType) (memory : List FieldDescriptor) :
    List AlignedField → Source → Logged Source
  | [], w => pure w
  | pair :: pairs, w => do
    let w ← c.writeField m memory pair w
    c.writeFields m memory pairs w

/-- The comment in place of a documented field that was not scanned. -/
def missingFieldLine (doc : DocField) : String :=
  "// Cannot generate field " ++ commentText doc.label

def reportMismatch (m : MessageType) : Option CountMismatch → Logged Unit
  | none => pure ()
  | some mismatch => .log (.ofMessage .warn target "scanned and documented field counts differ"
      [("message_type", .text m.reference), ("scanned", .integer mismatch.scanned),
        ("documented", .integer mismatch.documented)])

/-- The file of a message's class. -/
def write (c : ClassWriter) (m : MessageType) (scan : ScanResult) (docs : List DocField) :
    Logged String := do
  let alignment := align scan.networkOrder docs
  reportMismatch m alignment.mismatch
  let w ← c.writeFields m scan.memoryOrder alignment.pairs (c.preamble m)
  let w := ((w.lines (alignment.unmatchedDocs.map missingFieldLine)).dedent).line "\x7d"
  .log (.ofMessage .debug target "emitted wrapper"
    [("message_type", .text m.reference), ("class", .text (c.className m))])
  pure w.text

end ClassWriter
end WireWrapper
