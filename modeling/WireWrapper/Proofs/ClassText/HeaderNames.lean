import WireWrapper.Proofs.CheckedConfig
import WireWrapper.Proofs.ClassText.Compose
import WireWrapper.Proofs.FileNames
import WireWrapper.Proofs.Text.AsciiImages
import WireWrapper.Proofs.TypeText.NameTexts

/-!
# Names in the head of a file

The head of a file names a package, a base class and the class itself.  Package and base class are
settings and are looked at before anything is written.  The name of the class goes on with the name
that a message is registered under, and nobody has looked at that one: Pascal case cuts it and
changes letters, and every other character stays.  So the class has a legal name exactly if the words
of the message are written in name characters, or in one of the few letters that become ASCII.  For
upper-snake names they are.  A reserved word it never is, for a category starts with a capital letter.

* `isPlainWord`, `isPlainName`   what a registered name may be made of;
* `pascalWord_continues`, `pascalCase_continues`   it is this that leaves name characters only;
* `isPlainName_of_continues`, `isPlainName_upperSnake`   names in name characters and hyphens;
* `isIdentifier_className_iff`   when the name of a class is an identifier;
* `className_not_reserved`       it is no reserved word;
* `headText_names`               the three names in the head;
* `header_names`, `header_names_illegal`   what settings that can be used promise, and what not.
-/

namespace WireWrapper

/-! ## identifiers -/

namespace Config

/-- behind an identifier there may be any name characters, and no others -/
theorem isIdentifier_append {front : List Char} (h : isIdentifier front = true)
    (rest : List Char) : isIdentifier (front ++ rest) = rest.all continuesIdentifier := by
  cases front with
  | nil => cases h
  | cons c cs =>
    obtain ⟨hstart, hcs⟩ := Bool.and_eq_true_iff.mp h
    rw [List.cons_append, isIdentifier, List.all_append, hstart, hcs, Bool.true_and, Bool.true_and]

theorem badSegment?_eq_none_iff {package : String} :
    badSegment? package = none ↔
      ∀ segment ∈ Text.pieces (· == '.') package.toList, isIdentifier segment = true := by
  rw [badSegment?, List.find?_eq_none]
  simp only [Bool.not_eq_true', Bool.not_eq_false]

end Config

/-! ## registered names -/

namespace Name

/-- a word that Pascal case turns into name characters -/
def isPlainWord : List Char → Bool
  | [] => true
  | c :: cs => (Config.continuesIdentifier c || Text.asciiUppers.contains c) &&
      cs.all fun d => Config.continuesIdentifier d || Text.asciiLowers.contains d

def isPlainName (s : String) : Bool :=
  (Text.pieces (fun c => c == '-' || c == '_') s.toList).all isPlainWord

theorem pascalWord_continues (w : List Char) :
    (pascalWord w).all Config.continuesIdentifier = isPlainWord w := by
  cases w with
  | nil => rfl
  | cons c cs =>
    rw [pascalWord, isPlainWord, List.all_append, List.all_flatMap, all_upperChar]
    simp only [all_lowerChar]

/-- **Pascal case of a name consists of name characters** exactly if its words are plain. -/
theorem pascalCase_continues (s : String) :
    (pascalCase s).toList.all Config.continuesIdentifier = isPlainName s := by
  rw [pascalCase, String.toList_ofList, List.all_flatMap, isPlainName]
  simp only [pascalWord_continues]

-- a long s becomes a capital letter at the start of a word, and stays as it is further on
example : pascalCase "ſTOP_POſT" = "StopPoſt" := by decide
example : isPlainName "ſTOP_POST" = true ∧ isPlainName "STOP_POſT" = false := by decide

theorem isPlainName_of_continues {s : String}
    (h : ∀ c ∈ s.toList, Config.continuesIdentifier c = true ∨ c = '-') :
    isPlainName s = true := by
  refine List.all_eq_true.mpr fun w hw => ?_
  have hword : ∀ c ∈ w, Config.continuesIdentifier c = true := by
    intro c hc
    obtain ⟨hseparator, hmem⟩ := Text.mem_of_mem_pieces hw hc
    refine (h c hmem).resolve_right ?_
    rintro rfl
    cases hseparator
  cases w with
  | nil => rfl
  | cons c cs =>
    obtain ⟨hc, hcs⟩ := List.forall_mem_cons.mp hword
    rw [isPlainWord, hc, Bool.true_or, Bool.true_and, List.all_eq_true]
    intro d hd
    rw [hcs d hd, Bool.true_or]

theorem continues_of_isUpperChar {c : Char} (hc : isUpperChar c = true) :
    Config.continuesIdentifier c = true :=
  of_isUpperChar (P := fun c => Config.continuesIdentifier c = true) (by decide) hc

theorem isPlainName_upperSnake {s : String} (hs : isUpperSnake s = true) : isPlainName s = true := by
  refine isPlainName_of_continues fun c hc => .inl ?_
  rcases @Text.mem_pieces_of_mem (· == '_') s.toList c hc with hseparator | ⟨w, hw, hcw⟩
  · rw [beq_iff_eq.mp hseparator]
    decide
  · obtain ⟨d, ds, rfl, hd, hds⟩ := exists_of_isUpperWord (List.all_eq_true.mp hs w hw)
    rcases List.mem_cons.mp hcw with rfl | hcw
    · exact continues_of_isUpperChar (Bool.or_eq_true_iff.mpr (.inl hd))
    · exact continues_of_isUpperChar (hds c hcw)

end Name

/-! ## names of classes -/

theorem javaNames_continue (category : Category) (direction : Direction) :
    (category.javaName.toList ++ direction.javaName.toList).all Config.continuesIdentifier
      = true := by
  cases category <;> cases direction <;> decide

/-- **The name of a class is an identifier** exactly if the name of its message is plain. -/
theorem isIdentifier_className_iff (c : ClassWriter)
    (hfront : Config.isIdentifier c.config.classPrefix.toList = true) (m : MessageType) :
    Config.isIdentifier (c.className m).toList = true ↔ Name.isPlainName m.name = true := by
  rw [ClassWriter.className, String.toList_append, String.toList_append, String.toList_append,
    List.append_assoc, List.append_assoc, Config.isIdentifier_append hfront, ← List.append_assoc,
    List.all_append, javaNames_continue, Name.pascalCase_continues, Bool.true_and]

theorem not_reserved_of_isUpper {s : String} (hupper : s.toList.any Char.isUpper = true) :
    s ∉ reservedWords := by
  -- reserved words are written small
  have hsmall : ∀ word ∈ reservedWords, word.toList.any Char.isUpper = false := by decide
  intro hs
  rw [hsmall s hs] at hupper
  cases hupper

theorem className_not_reserved (c : ClassWriter) (m : MessageType) :
    c.className m ∉ reservedWords := by
  have hcapital : m.key.category.javaName.toList.any Char.isUpper = true := by
    cases m.key.category <;> decide
  refine not_reserved_of_isUpper ?_
  simp only [ClassWriter.className, String.toList_append, List.any_append, hcapital, Bool.or_true,
    Bool.true_or]

/-! ## the head -/

theorem lineText_zero (s : String) : lineText 0 s = s ++ "\n" := by
  rw [lineText]
  split
  · next hs => rw [String.isEmpty_iff.mp hs]
  · rw [show Source.padding 0 = "" from rfl, String.empty_append]

/-- what stands behind the line that opens the class -/
def bodyText (className reference : String) : String :=
  "\n" ++ lineText 1 ("public static final PacketType TYPE = " ++ reference ++ ";") ++ "\n" ++
  constructorText ("public " ++ className ++ "()")
    ["super(new PacketContainer(TYPE), TYPE);", "handle.getModifier().writeDefaults();"] ++
  constructorText ("public " ++ className ++ "(PacketContainer packet)") ["super(packet, TYPE);"]

theorem Config.headText_names (config : Config) (m : MessageType) :
    config.headText m
      = joinMap (lineText 0) config.licenseHeader ++
        ("package " ++ config.package ++ ";\n") ++ "\n" ++
        joinMap (lineText 0) (config.imports.map fun i => "import " ++ i ++ ";") ++ "\n" ++
        ("public class " ++ config.className m ++ " extends " ++ config.baseClass ++ " \x7b\n") ++
        bodyText (config.className m) m.reference := by
  have hpackage : lineText 0 ("package " ++ config.package ++ ";")
      = "package " ++ config.package ++ ";\n" := by
    rw [lineText_zero, String.append_assoc]
    rfl
  have hclass : lineText 0 ("public class " ++ config.className m ++ " extends " ++
        config.baseClass ++ " \x7b")
      = "public class " ++ config.className m ++ " extends " ++ config.baseClass ++ " \x7b\n" := by
    rw [lineText_zero, String.append_assoc]
    rfl
  rw [headText, hpackage, hclass, bodyText]
  simp only [String.append_assoc]

/-- **What settings that can be used promise of the names in a head.**  The parts of the package and
the base class are identifiers.  The name of a class is one exactly if that of its message is plain,
as all names in name characters and hyphens are, upper-snake names among them; and it is never a
reserved word.  The file of a wrapper has the name of its class, and names package, class and base
class as they are. -/
theorem header_names (g : Generator) (hvalid : g.config.validate = .ok ()) :
    (∀ segment ∈ Text.pieces (· == '.') g.config.package.toList,
      Config.isIdentifier segment = true) ∧
    Config.isIdentifier g.config.baseClass.toList = true ∧
    ∀ m : MessageType,
      (Config.isIdentifier (g.classWriter.className m).toList = true ↔
        Name.isPlainName m.name = true) ∧
      g.classWriter.className m ∉ reservedWords ∧
      ((∀ c ∈ m.name.toList, Config.continuesIdentifier c = true ∨ c = '-') →
        IsFreeName (g.classWriter.className m).toList) ∧
      (Name.isUpperSnake m.name = true → IsFreeName (g.classWriter.className m).toList) ∧
      ∀ (method : MethodBody) (docs : List DocField) (w : Wrapper),
        (g.generate m method docs).value = .ok w →
        w.fileName = g.classWriter.className m ++ ".java" ∧
        ∃ rest, w.source
          = joinMap (lineText 0) g.config.licenseHeader ++
            ("package " ++ g.config.package ++ ";\n") ++ "\n" ++
            joinMap (lineText 0) (g.config.imports.map fun i => "import " ++ i ++ ";") ++ "\n" ++
            ("public class " ++ g.classWriter.className m ++ " extends " ++ g.config.baseClass ++
              " \x7b\n") ++ rest := by
  have hchecked := (Config.validate_eq_ok_iff.mp hvalid).1
  refine ⟨Config.badSegment?_eq_none_iff.mp hchecked.segments, hchecked.baseClass, fun m => ?_⟩
  have hname := isIdentifier_className_iff g.classWriter hchecked.classPrefix m
  have hreserved := className_not_reserved g.classWriter m
  have hfree : Name.isPlainName m.name = true → IsFreeName (g.classWriter.className m).toList := by
    intro hplain
    refine ⟨hname.mpr hplain, ?_⟩
    rwa [String.ofList_toList]
  refine ⟨hname, hreserved, fun hchars => hfree (Name.isPlainName_of_continues hchars),
    fun hsnake => hfree (Name.isPlainName_upperSnake hsnake), fun method docs w hw => ?_⟩
  obtain ⟨result, -, rfl⟩ := g.generate_eq_ok hw
  refine ⟨rfl, bodyText (g.classWriter.className m) m.reference ++
    (joinMap (Member.text 1) (g.classWriter.members result docs) ++ "\x7d\n"), ?_⟩
  show (g.classWriter.write m result docs).value = _
  rw [ClassWriter.write_value, Config.headText_names]
  simp only [String.append_assoc]
  rfl

/-! ## names of one message -/

def nameGenerator (config : Config) (name : String) : Generator :=
  .ofParts config .empty (.ofTypes [("Slot", ⟨none, [⟨"id", "int", false⟩]⟩)])
    (.ofCalls [⟨firstKey, name⟩])

theorem generate_name (config : Config) (name : String) :
    ∃ w, ((nameGenerator config name).generate ⟨firstKey, name⟩ pairMethod []).value = .ok w :=
  ⟨_, rfl⟩

/-- With the default settings an upper-snake name makes a legal class in a file of its own name. -/
theorem header_names_spawn :
    (nameGenerator .stock "SPAWN_ENTITY").config.validate = .ok () ∧
    Name.isUpperSnake "SPAWN_ENTITY" = true ∧
    IsFreeName "WrapperPlayServerSpawnEntity".toList ∧
    ∃ w, ((nameGenerator .stock "SPAWN_ENTITY").generate ⟨firstKey, "SPAWN_ENTITY"⟩ pairMethod
        []).value = .ok w ∧
      w.fileName = "WrapperPlayServerSpawnEntity.java" ∧
      ∃ rest, w.source = joinMap (lineText 0) Config.stockLicenseHeader ++
        "package com.comphenix.packetwrapper;\n" ++ "\n" ++
        joinMap (lineText 0) ["import com.comphenix.protocol.PacketType;",
          "import com.comphenix.protocol.events.PacketContainer;"] ++ "\n" ++
        "public class WrapperPlayServerSpawnEntity extends AbstractPacket \x7b\n" ++ rest := by
  obtain ⟨-, -, hnames⟩ := header_names (nameGenerator .stock "SPAWN_ENTITY") stock_validate
  obtain ⟨-, -, -, hsnake, hwritten⟩ := hnames ⟨firstKey, "SPAWN_ENTITY"⟩
  have hclass : (nameGenerator .stock "SPAWN_ENTITY").classWriter.className
      ⟨firstKey, "SPAWN_ENTITY"⟩ = "WrapperPlayServerSpawnEntity" := by decide
  obtain ⟨w, hw⟩ := generate_name .stock "SPAWN_ENTITY"
  have hsource := hwritten pairMethod [] w hw
  rw [hclass] at hsnake hsource
  exact ⟨stock_validate, by decide, hsnake (by decide), w, hw, hsource⟩

/-- settings with keywords in them -/
def keywordConfig : Config := { Config.stock with package := "com.class", baseClass := "int" }

/-- Settings with keywords for names can be used; and with the default settings a name with a blank in
it can be registered and makes a class whose name has the blank in it as well. -/
theorem header_names_illegal :
    (keywordConfig.validate = .ok () ∧
      "class".toList ∈ Text.pieces (· == '.') keywordConfig.package.toList ∧
      "class" ∈ reservedWords ∧ keywordConfig.baseClass ∈ reservedWords) ∧
    ((nameGenerator .stock "SPAWN ENTITY").config.validate = .ok () ∧
      ⟨firstKey, "SPAWN ENTITY"⟩ ∈ (nameGenerator .stock "SPAWN ENTITY").registry.messages ∧
      ∃ w, ((nameGenerator .stock "SPAWN ENTITY").generate ⟨firstKey, "SPAWN ENTITY"⟩ pairMethod
          []).value = .ok w ∧
        w.fileName = "WrapperPlayServerSpawn entity.java" ∧
        Config.isIdentifier "WrapperPlayServerSpawn entity".toList = false) := by
  have hkeyword : keywordConfig.validate = .ok () := by
    refine Config.validate_eq_ok_iff.mpr ⟨?_, (Config.validate_eq_ok_iff.mp stock_validate).2⟩
    exact { Config.stock_checked with
      package := by decide
      segments := by decide
      baseClass := by decide }
  have hheld : (nameGenerator .stock "SPAWN ENTITY").registry.messages
      = [⟨firstKey, "SPAWN ENTITY"⟩] := rfl
  have hclass : (nameGenerator .stock "SPAWN ENTITY").classWriter.className
      ⟨firstKey, "SPAWN ENTITY"⟩ = "WrapperPlayServerSpawn entity" := by decide
  obtain ⟨w, hw⟩ := generate_name .stock "SPAWN ENTITY"
  have hfile : w.fileName = "WrapperPlayServerSpawn entity.java" := by
    rw [Wrapper.fileName, (Generator.generate_ok _ hw).2, hclass]
    rfl
  refine ⟨⟨hkeyword, by decide, by decide, by decide⟩, stock_validate, ?_, w, hw, hfile, by decide⟩
  rw [hheld]
  exact List.mem_singleton_self _

end WireWrapper
