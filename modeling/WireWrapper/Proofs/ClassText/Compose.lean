import WireWrapper.Proofs.Alignment
import WireWrapper.Proofs.ClassText.Members

/-!
# The file of a class, piece by piece

The file is put together from texts that know nothing of one another: a head for the settings and
the message, a text for each aligned field, a line for each documented field past the scan, and the
closing brace.  Every one of them ends where the next starts, at a line and one level deep, so they
only stand one behind the other.

* `Config.headText`                   the file up to the first field;
* `ClassWriter.fieldText`             the text of one aligned field;
* `ClassWriter.fieldTexts`, `stubTexts`   those of all of them, and the lines past the scan;
* `write_value`                       the file as its members between head and closing brace;
* `write_eq_classText`                the file as its pieces in turn;
* `write_local`                       what another field, or one more, does to the file.
-/

namespace WireWrapper

/-! ## head -/

/-- the name of a message's class; the settings have only the front of it -/
def Config.className (config : Config) (m : MessageType) : String :=
  config.classPrefix ++ m.key.category.javaName ++ m.key.direction.javaName ++
    Name.pascalCase m.name

def constructorText (header : String) (body : List String) : String :=
  lineText 1 (header ++ " \x7b") ++ joinMap (lineText 2) body ++ lineText 1 "\x7d" ++ "\n"

/-- the file up to the first field -/
def Config.headText (config : Config) (m : MessageType) : String :=
  joinMap (lineText 0) config.licenseHeader ++
  lineText 0 ("package " ++ config.package ++ ";") ++ "\n" ++
  joinMap (lineText 0) (config.imports.map fun i => "import " ++ i ++ ";") ++ "\n" ++
  lineText 0
    ("public class " ++ config.className m ++ " extends " ++ config.baseClass ++ " \x7b") ++ "\n" ++
  lineText 1 ("public static final PacketType TYPE = " ++ m.reference ++ ";") ++ "\n" ++
  constructorText ("public " ++ config.className m ++ "()")
    ["super(new PacketContainer(TYPE), TYPE);", "handle.getModifier().writeDefaults();"] ++
  constructorText ("public " ++ config.className m ++ "(PacketContainer packet)")
    ["super(packet, TYPE);"]

theorem Config.headText_endsWithBreak (config : Config) (m : MessageType) :
    Source.endsWithBreak (config.headText m) = true := by
  have hconstructor : ∀ header body, Source.endsWithBreak (constructorText header body) = true := by
    intro header body
    rw [constructorText]
    exact Source.endsWithBreak_append _ (by decide)
  rw [headText]
  exact Source.endsWithBreak_append _ (hconstructor _ _)

namespace ClassWriter

theorem writeConstructor_atLine (header : String) (body : List String) (text : String) :
    writeConstructor header body (Source.atLine text 1)
      = Source.atLine (text ++ constructorText header body) 1 := by
  rw [writeConstructor, Source.line_atLine, Source.indent_atLine, Source.lines_atLine,
    Source.dedent_atLine, Source.line_atLine, Source.newline_atLine, constructorText]
  simp only [String.append_assoc]

variable (c : ClassWriter) (m : MessageType)

theorem preamble_eq_atLine : c.preamble m = Source.atLine (c.config.headText m) 1 := by
  have hname : c.className m = c.config.className m := rfl
  rw [preamble, hname, Source.empty_eq_atLine, Source.lines_atLine, Source.line_atLine,
    Source.newline_atLine, Source.lines_atLine, Source.newline_atLine, Source.line_atLine,
    Source.newline_atLine, Source.indent_atLine, Source.line_atLine, Source.newline_atLine,
    writeConstructor_atLine, writeConstructor_atLine, Config.headText, String.empty_append]

/-! ## pieces -/

def fieldText (memory : List FieldDescriptor) (field : FieldDescriptor) (doc : DocField) : String :=
  joinMap (Member.text 1) (c.fieldMembers memory field doc)

def fieldTexts (scan : ScanResult) (docs : List DocField) : List String :=
  List.zipWith (c.fieldText scan.memoryOrder) scan.networkOrder docs

/-- the line of a documented field past the scan -/
def stubText (doc : DocField) : String := lineText 1 (missingFieldLine doc)

def stubTexts (scan : ScanResult) (docs : List DocField) : List String :=
  (docs.drop scan.networkOrder.length).map stubText

end ClassWriter

/-- a file: head, fields, lines past the scan, closing brace -/
def classText (head : String) (fields stubs : List String) : String :=
  head ++ String.join fields ++ String.join stubs ++ "\x7d\n"

namespace ClassWriter
variable (c : ClassWriter) (m : MessageType) (scan : ScanResult) (docs : List DocField)

theorem stubMembers_text (past : List DocField) :
    joinMap (Member.text 1) (past.map fun doc => .comment (missingFieldLine doc))
      = joinMap stubText past := by
  rw [joinMap_map]
  rfl

theorem members_text :
    joinMap (Member.text 1) (c.members scan docs)
      = String.join (c.fieldTexts scan docs) ++ String.join (stubTexts scan docs) := by
  have hfields : joinMap (fun p : FieldDescriptor × DocField =>
      joinMap (Member.text 1) (c.fieldMembers scan.memoryOrder p.1 p.2))
        (scan.networkOrder.zip docs) = String.join (c.fieldTexts scan docs) :=
    congrArg String.join List.map_zip_eq_zipWith
  rw [members, joinMap_append, joinMap_flatMap, stubMembers_text, hfields]
  rfl

/-! ## the file -/

theorem write_value :
    (c.write m scan docs).value
      = c.config.headText m ++ joinMap (Member.text 1) (c.members scan docs) ++ "\x7d\n" := by
  have hpairs : (align scan.networkOrder docs).pairs.flatMap
      (fun p => c.fieldMembers scan.memoryOrder p.scan p.doc)
        = (scan.networkOrder.zip docs).flatMap fun p =>
            c.fieldMembers scan.memoryOrder p.1 p.2 := by
    rw [← align_pairs, List.flatMap_map]
  have hstubs : joinMap (lineText 1) ((docs.drop scan.networkOrder.length).map missingFieldLine)
      = joinMap stubText (docs.drop scan.networkOrder.length) := by
    rw [joinMap_map]
    rfl
  have hclose : lineText 0 "\x7d" = "\x7d\n" := by decide +kernel
  rw [write]
  dsimp only
  rw [Logged.value_bind, Logged.value_bind, preamble_eq_atLine, writeFields_atLine, hpairs,
    align_unmatchedDocs, Source.lines_atLine, Source.dedent_atLine, Source.line_atLine, hstubs,
    hclose, members, joinMap_append, stubMembers_text]
  exact congrArg (· ++ "\x7d\n") String.append_assoc

theorem write_eq_classText :
    (c.write m scan docs).value
      = classText (c.config.headText m) (c.fieldTexts scan docs) (stubTexts scan docs) := by
  rw [write_value, members_text, classText]
  exact congrArg (· ++ "\x7d\n") String.append_assoc.symm

/-! ## another field, or one more -/

theorem zipWith_set {α β γ : Type} (f : α → β → γ) (y : β) {xs : List α} {i : Nat}
    (hi : i < xs.length) (ys : List β) :
    List.zipWith f xs (ys.set i y) = (List.zipWith f xs ys).set i (f xs[i] y) := by
  induction xs generalizing ys i with
  | nil => exact absurd hi (Nat.not_lt_zero i)
  | cons x xs ih =>
    cases ys with
    | nil => rfl
    | cons z zs =>
      cases i with
      | zero => rfl
      | succ i => exact congrArg (_ :: ·) (ih (Nat.lt_of_succ_lt_succ hi) zs)

section
variable {c scan docs}

theorem fieldTexts_set {i : Nat} (hi : i < scan.networkOrder.length) (doc : DocField) :
    c.fieldTexts scan (docs.set i doc)
      = (c.fieldTexts scan docs).set i (c.fieldText scan.memoryOrder scan.networkOrder[i] doc) :=
  zipWith_set _ doc hi docs

theorem stubTexts_set {i : Nat} (hi : i < scan.networkOrder.length) (doc : DocField) :
    stubTexts scan (docs.set i doc) = stubTexts scan docs := by
  rw [stubTexts, List.drop_set, if_pos hi, stubTexts]

/-- once every scanned field is documented, further documentation is not aligned -/
theorem fieldTexts_append (hle : scan.networkOrder.length ≤ docs.length) (extra : List DocField) :
    c.fieldTexts scan (docs ++ extra) = c.fieldTexts scan docs := by
  refine List.ext_getElem? fun i => ?_
  rw [fieldTexts, fieldTexts, List.getElem?_zipWith', List.getElem?_zipWith']
  rcases Nat.lt_or_ge i scan.networkOrder.length with hi | hi
  · rw [List.getElem?_append_left (Nat.lt_of_lt_of_le hi hle)]
  · rw [List.getElem?_eq_none hi]
    rfl

theorem stubTexts_append (hle : scan.networkOrder.length ≤ docs.length) (extra : List DocField) :
    stubTexts scan (docs ++ extra) = stubTexts scan docs ++ extra.map stubText := by
  rw [stubTexts, List.drop_append_of_le_length hle, List.map_append, stubTexts]

end

/-- **The file is head, fields, lines past the scan and closing brace.**  There are as many fields
as the shorter list has, in the order of both; another documentation of one field changes the text
of this field alone; and documentation past the scan only adds lines in front of the closing brace.
-/
theorem write_local :
    (c.write m scan docs).value
        = classText (c.config.headText m) (c.fieldTexts scan docs) (stubTexts scan docs) ∧
      (c.fieldTexts scan docs).length = min scan.networkOrder.length docs.length ∧
      (∀ (i : Nat) (hi : i < scan.networkOrder.length) (doc : DocField),
        (c.write m scan (docs.set i doc)).value
          = classText (c.config.headText m)
              ((c.fieldTexts scan docs).set i
                (c.fieldText scan.memoryOrder scan.networkOrder[i] doc))
              (stubTexts scan docs)) ∧
      (scan.networkOrder.length ≤ docs.length → ∀ extra : List DocField,
        (c.write m scan (docs ++ extra)).value
          = classText (c.config.headText m) (c.fieldTexts scan docs)
              (stubTexts scan docs ++ extra.map stubText)) := by
  refine ⟨c.write_eq_classText m scan docs, List.length_zipWith, ?_, ?_⟩
  · intro i hi doc
    rw [write_eq_classText, fieldTexts_set hi, stubTexts_set hi]
  · intro hle extra
    rw [write_eq_classText, fieldTexts_append hle, stubTexts_append hle]

end ClassWriter

/-! ## a message with two numbers -/

/-- a writer that knows one type -/
def numberWriter : ClassWriter where
  catalog := ⟨(∅ : Std.ExtTreeMap String Modifier).insert "int"
    ⟨"int", "int", "getIntegers()", false⟩⟩
  hierarchy := Hierarchy.ofTypes []
  normalizer := Config.stock.normalizer
  config := .stock

def lookMessage : MessageType := ⟨⟨.play, .server, 0x2E⟩, "LOOK"⟩

def lookFields : List FieldDescriptor := [⟨"Look", "int", "a", 0⟩, ⟨"Look", "int", "b", 1⟩]

def lookDocs : List DocField := [⟨some "Yaw", "Int", ""⟩, ⟨some "Pitch", "Int", ""⟩]

/-- Without its name the second field leaves the text of the first as it is; a third name is one
more line. -/
theorem write_local_look :
    1 < lookFields.length ∧ lookFields.length ≤ lookDocs.length ∧
    (numberWriter.write lookMessage ⟨lookFields, lookFields⟩
        (lookDocs.set 1 ⟨none, "Int", ""⟩)).value
      = classText (Config.stock.headText lookMessage)
          [numberWriter.fieldText lookFields lookFields[0] lookDocs[0], ""] [] ∧
    (numberWriter.write lookMessage ⟨lookFields, lookFields⟩
        (lookDocs ++ [⟨some "Roll", "Int", ""⟩])).value
      = classText (Config.stock.headText lookMessage)
          (numberWriter.fieldTexts ⟨lookFields, lookFields⟩ lookDocs)
          ["    // Cannot generate field Roll\n"] := by
  have hlocal := numberWriter.write_local lookMessage ⟨lookFields, lookFields⟩ lookDocs
  have hnone : numberWriter.fieldText lookFields lookFields[1] ⟨none, "Int", ""⟩ = "" := by
    decide +kernel
  have hroll : ClassWriter.stubText ⟨some "Roll", "Int", ""⟩
      = "    // Cannot generate field Roll\n" := by decide +kernel
  refine ⟨by decide, by decide, ?_, ?_⟩
  · refine (hlocal.2.2.1 1 (by decide) ⟨none, "Int", ""⟩).trans ?_
    show classText _ [_, numberWriter.fieldText lookFields lookFields[1] _] [] = _
    rw [hnone]
    rfl
  · refine (hlocal.2.2.2 (by decide) [⟨some "Roll", "Int", ""⟩]).trans ?_
    show classText _ _ [ClassWriter.stubText _] = _
    rw [hroll]
    rfl

end WireWrapper
