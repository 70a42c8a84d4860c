import WireWrapper.Proofs.Accessor
import WireWrapper.Proofs.ClassText.Comments

/-!
# The lines of a class file

Documentation text fills places in a fixed layout: words in a Javadoc, a name and a type in a header,
a label in the line for a field past the scan.  What it fills them with has no line breaks and does
not end a comment, so the layout is that of the templates, whatever the documentation says: only
whether notes are blank tells a Javadoc of four lines from one of six.

* `ClassMethod.lines`, `Member.lines`   a method and a member as they are laid out, one level deep;
* `IsJavadoc`                the lines of a Javadoc, closed by its last line and by no other;
* `IsDocLine`                a line between its two ends;
* `docSize`                  how many lines the Javadoc of a method has;
* `methods_isJavadoc`, `methods_unbroken`   the methods of a field: Javadoc, header and body;
* `fieldMembers_lines`       the members of a field are laid out as they are, line by line;
* `write_layout`             so is the whole file.
-/

namespace WireWrapper

/-! ## layout -/

namespace ClassMethod

def javadoc (m : ClassMethod) : List String := m.doc.map ("    " ++ ·)

def lines (m : ClassMethod) : List String :=
  m.javadoc ++ ["    " ++ m.header ++ " \x7b", "        " ++ m.body, "    \x7d", ""]

end ClassMethod

def Member.lines : Member → List String
  | comment s => ["    " ++ s]
  | method m => m.lines

/-- the lines of a Javadoc one level deep: each starts like one, and only the last ends the comment -/
structure IsJavadoc (size : Nat) (ls : List String) : Prop where
  length : ls.length = size
  isLine : ∀ line ∈ ls, IsLine line
  starts : ∀ line ∈ ls, "    /**".toList <+: line.toList ∨ "     * ".toList <+: line.toList ∨
    "     */".toList <+: line.toList
  last : ls.getLast? = some "     */"
  inside : ∀ line ∈ ls.dropLast, ¬ ['*', '/'] <:+: line.toList

/-- a line between the two ends of a Javadoc -/
structure IsDocLine (line : String) : Prop where
  isLine : IsLine line
  starts : " * ".toList <+: line.toList
  inside : ¬ ['*', '/'] <:+: line.toList

instance (line : String) : Decidable (IsDocLine line) :=
  decidable_of_iff
    (IsLine line ∧ " * ".toList <+: line.toList ∧ ¬ ['*', '/'] <:+: line.toList)
    ⟨fun h => ⟨h.1, h.2.1, h.2.2⟩, fun h => ⟨h.isLine, h.starts, h.inside⟩⟩

/-- how many lines the Javadoc of a method has: notes that are not blank take two more -/
def docSize (doc : DocField) (m : ClassMethod) : Nat :=
  if (Member.method m).isGetter then
    if doc.notes.toList.all Text.isBlank then 4 else 6
  else if (Member.method m).isSetter then 4
  else 5

/-! ## Javadocs -/

theorem isDocLine_sentence {front text back : String} (hfront : IsDocLine front)
    (hspace : front.toList.getLast? = some ' ') (htext : IsLine text)
    (hinside : ¬ ['*', '/'] <:+: text.toList) (hback : IsLine back)
    (hend : ¬ ['*', '/'] <:+: '*' :: back.toList) : IsDocLine (front ++ text ++ back) where
  isLine := isLine_append.mpr ⟨isLine_append.mpr ⟨hfront.isLine, htext⟩, hback⟩
  starts := by
    rw [String.toList_append, String.toList_append, List.append_assoc]
    exact hfront.starts.trans (List.prefix_append _ _)
  inside := by
    rw [Text.pair_infix_cons, not_or] at hend
    rw [String.toList_append, String.toList_append, Text.pair_infix_append, Text.pair_infix_append,
      hspace]
    -- at the seams there is a space in front of the text, and no slash behind it
    rintro ((hpair | hpair | ⟨hstar, -⟩) | hpair | ⟨-, hslash⟩)
    · exact hfront.inside hpair
    · exact hinside hpair
    · exact absurd hstar (by decide)
    · exact hend.2 hpair
    · exact hend.1 ⟨rfl, hslash⟩

theorem ClassMethod.HasDoc.isJavadoc {m : ClassMethod} {lines : List String} (h : m.HasDoc lines)
    (hlines : ∀ line ∈ lines, IsDocLine line) : IsJavadoc (lines.length + 2) m.javadoc := by
  have hdoc : m.javadoc = ("    /**" :: lines.map ("    " ++ ·)) ++ ["     */"] := by
    rw [javadoc, h.doc, List.map_append]
    rfl
  have hstar : '*' ∉ "    ".toList := by decide
  rw [hdoc]
  refine ⟨?_, ?_, ?_, List.getLast?_concat, ?_⟩
  · simp
  · rw [List.forall_mem_append, List.forall_mem_cons, List.forall_mem_map]
    exact ⟨⟨by decide, fun line hline => isLine_append.mpr ⟨by decide, (hlines line hline).isLine⟩⟩,
      by decide⟩
  · rw [List.forall_mem_append, List.forall_mem_cons, List.forall_mem_map]
    refine ⟨⟨.inl (List.prefix_refl _), fun line hline => .inr (.inl ?_)⟩, by simp⟩
    rw [String.toList_append]
    exact (List.prefix_append_right_inj "    ".toList).mpr (hlines line hline).starts
  · rw [List.dropLast_concat, List.forall_mem_cons, List.forall_mem_map]
    refine ⟨by decide, fun line hline => ?_⟩
    rw [String.toList_append, Text.pair_infix_append_left hstar]
    exact (hlines line hline).inside

namespace FieldEntry
variable (e : FieldEntry) (a : Accessor)

theorem length_noteLines :
    (noteLines (noteText e.doc)).length = if e.doc.notes.toList.all Text.isBlank then 0 else 2 := by
  have hblank : noteText e.doc = "" ↔ e.doc.notes.toList.all Text.isBlank = true := by
    rw [noteText_eq_empty_iff, List.all_eq_true]
    rfl
  unfold noteLines
  by_cases hnote : noteText e.doc = ""
  · rw [if_pos (String.isEmpty_iff.mpr hnote), if_pos (hblank.mp hnote)]
    rfl
  · rw [if_neg (mt String.isEmpty_iff.mp hnote), if_neg (mt hblank.mpr hnote)]
    rfl

theorem noteLines_isDocLine : ∀ line ∈ noteLines (noteText e.doc), IsDocLine line := by
  have hnotes : IsDocLine (" * Notes: " ++ noteText e.doc ++ "") :=
    isDocLine_sentence (by decide) (by decide) (noteText_isLine e.doc) (noteText_comment e.doc)
      (by decide) (by decide)
  have hparagraph : IsDocLine " * <p>" := by decide
  rw [String.append_empty] at hnotes
  unfold noteLines
  split
  · exact fun line hline => absurd hline List.not_mem_nil
  · simp [hparagraph, hnotes]

theorem getter_isJavadoc : IsJavadoc (docSize e.doc (e.getter a)) (e.getter a).javadoc := by
  have hname := commentText_isLine e.displayName
  have hopen := commentText_comment e.displayName
  have hretrieve : IsDocLine (" * Retrieve " ++ commentText e.displayName ++ ".") :=
    isDocLine_sentence (by decide) (by decide) hname hopen (by decide) (by decide)
  have hreturn : IsDocLine (" * @return The current " ++ commentText e.displayName ++ "") :=
    isDocLine_sentence (by decide) (by decide) hname hopen (by decide) (by decide)
  rw [String.append_empty] at hreturn
  have hsize : ((" * Retrieve " ++ commentText e.displayName ++ ".") :: noteLines (noteText e.doc) ++
      [" * @return The current " ++ commentText e.displayName]).length + 2
        = docSize e.doc (e.getter a) := by
    rw [List.length_append, List.length_cons, length_noteLines]
    show _ = if _ then 4 else 6
    split <;> rfl
  rw [← hsize]
  refine (e.getter_hasDoc a).isJavadoc ?_
  rw [List.cons_append, List.forall_mem_cons, List.forall_mem_append]
  exact ⟨hretrieve, e.noteLines_isDocLine, by simpa using hreturn⟩

theorem setter_isJavadoc : IsJavadoc (docSize e.doc (e.setter a)) (e.setter a).javadoc := by
  have hset : IsDocLine (" * Set " ++ commentText e.displayName ++ ".") :=
    isDocLine_sentence (by decide) (by decide) (commentText_isLine e.displayName)
      (commentText_comment e.displayName) (by decide) (by decide)
  have hparam : IsDocLine " * @param value - new value." := by decide
  refine (e.setter_hasDoc a).isJavadoc ?_
  simp [hset, hparam]

end FieldEntry

theorem entityLines_isDocLine {param : String} (hline : IsLine param)
    (hopen : ¬ ['*', '/'] <:+: param.toList) : ∀ line ∈ entityLines param, IsDocLine line := by
  have hretrieve : IsDocLine " * Retrieve the entity involved in this event." := by decide
  have hparam : IsDocLine (" * @param " ++ param ++ "") :=
    isDocLine_sentence (by decide) (by decide) hline hopen (by decide) (by decide)
  have hreturn : IsDocLine " * @return The involved entity." := by decide
  rw [String.append_empty] at hparam
  simp [entityLines, hretrieve, hparam, hreturn]

theorem entity_isJavadoc (doc : DocField) {method : ClassMethod} {index : Nat}
    (h : method = worldGetter index ∨ method = eventGetter) :
    IsJavadoc (docSize doc method) method.javadoc := by
  rcases h with rfl | rfl
  · exact (worldGetter_hasDoc index).isJavadoc (entityLines_isDocLine (by decide) (by decide))
  · exact eventGetter_hasDoc.isJavadoc (entityLines_isDocLine (by decide) (by decide))

/-! ## code -/

theorem prefix_toList_append (s t : String) : s.toList <+: (s ++ t).toList := by
  rw [String.toList_append]
  exact List.prefix_append _ _

theorem ClassMethod.header_start (m : ClassMethod) : "public ".toList <+: m.header.toList := by
  unfold header
  simp only [String.append_assoc]
  exact prefix_toList_append _ _

namespace FieldEntry
variable {e : FieldEntry} {a : Accessor} {method : ClassMethod}

theorem methods_body_start (h : method ∈ e.methods a) :
    "return".toList <+: method.body.toList ∨ "handle.".toList <+: method.body.toList := by
  rcases (e.mem_methods a).mp h with rfl | rfl | ⟨-, rfl | rfl⟩
  · unfold getter
    simp only [String.append_assoc]
    exact .inl (prefix_toList_append _ _)
  · unfold setter
    simp only [String.append_assoc]
    exact .inr (prefix_toList_append _ _)
  · have hreturn : "return handle.getEntityModifier(world).read("
        = "return" ++ " handle.getEntityModifier(world).read(" := rfl
    unfold worldGetter
    simp only [hreturn, String.append_assoc]
    exact .inl (prefix_toList_append _ _)
  · exact .inl (by decide)

theorem methods_unbroken (hname : Unbroken a.name) (htype : Unbroken a.typing.declared)
    (houtput : Unbroken e.modifier.outputType) (haccessor : Unbroken e.modifier.accessor)
    (h : method ∈ e.methods a) : Unbroken method.header ∧ Unbroken method.body := by
  have hindex := index_unbroken a.index
  have hget := castText_unbroken htype a.typing.cast
  have hset := castText_unbroken houtput a.typing.cast
  rcases (e.mem_methods a).mp h with rfl | rfl | ⟨-, rfl | rfl⟩
  · rw [getter_header, getter]
    simp only [unbroken_append, and_assoc]
    exact ⟨by decide, htype, by decide, hname, by decide, by decide, hget, by decide, haccessor,
      by decide, hindex, by decide⟩
  · rw [setter_header, setter]
    simp only [unbroken_append, and_assoc]
    exact ⟨by decide, hname, by decide, htype, by decide, by decide, haccessor, by decide, hindex,
      by decide, hset, by decide⟩
  · have hheader : (worldGetter a.index).header = "public Entity getEntity(World world)" := rfl
    rw [hheader, worldGetter]
    simp only [unbroken_append, and_assoc]
    exact ⟨by decide, by decide, hindex, by decide⟩
  · exact ⟨by decide, by decide⟩

theorem methods_isJavadoc (h : method ∈ e.methods a) :
    IsJavadoc (docSize e.doc method) method.javadoc := by
  rcases (e.mem_methods a).mp h with rfl | rfl | ⟨-, hentity⟩
  · exact e.getter_isJavadoc a
  · exact e.setter_isJavadoc a
  · exact entity_isJavadoc e.doc hentity

end FieldEntry

/-! ## lines of members -/

/-- what is laid out as a Javadoc has been written line by line -/
theorem IsJavadoc.unbroken {m : ClassMethod} {size : Nat} (h : IsJavadoc size m.javadoc) :
    ∀ line ∈ m.doc, Unbroken line ∧ line ≠ "" := by
  intro line hline
  have hmem : "    " ++ line ∈ m.javadoc := List.mem_map.mpr ⟨line, hline, rfl⟩
  refine ⟨(isLine_append.mp (h.isLine _ hmem)).2.unbroken, ?_⟩
  rintro rfl
  exact absurd (h.starts _ hmem) (by decide)

theorem ClassMethod.sourceLines_text {m : ClassMethod} {size : Nat} (hdoc : IsJavadoc size m.javadoc)
    (hheader : Unbroken m.header) (hbody : Unbroken m.body) (hne : m.body ≠ "") :
    sourceLines (m.text 1) = m.lines := by
  have hopen : Unbroken (m.header ++ " \x7b") := unbroken_append.mpr ⟨hheader, by decide⟩
  have hopen_ne : m.header ++ " \x7b" ≠ "" :=
    fun h => absurd (String.append_eq_empty_iff.mp h).2 (by decide)
  have hclose : sourceLines (paragraph 1 "\x7d" ++ "\n") = ["    \x7d", ""] := by decide
  have hone : Source.padding 1 = "    " := by decide
  have htwo : Source.padding 2 = "        " := by decide
  rw [text, codeText, String.append_assoc, String.append_assoc,
    sourceLines_paragraphs 1 hdoc.unbroken, sourceLines_append (paragraph_endsWithBreak 1 _),
    sourceLines_append (paragraph_endsWithBreak 2 _), sourceLines_paragraph 1 hopen hopen_ne,
    sourceLines_paragraph 2 hbody hne, hclose, hone, htwo, lines, javadoc, String.append_assoc]
  rfl

theorem Member.sourceLines_comment {s : String} (hs : Unbroken s) (hne : s ≠ "") :
    sourceLines ((Member.comment s).text 1) = (Member.comment s).lines :=
  sourceLines_lineText 1 hs hne

/-! ## a field -/

/-- no line break stands in the texts of synonyms nor in the types and calls of modifiers -/
structure ClassWriter.BreakFree (c : ClassWriter) : Prop where
  synonyms : ∀ rule ∈ c.config.nameSynonyms, Unbroken rule.2
  outputType : ∀ modifier ∈ c.catalog.modifiers, Unbroken modifier.outputType
  accessor : ∀ modifier ∈ c.catalog.modifiers, Unbroken modifier.accessor

theorem stubComment_unbroken (kind : String) (hkind : Unbroken kind) {field : FieldDescriptor}
    (hfield : Unbroken field.name) :
    Unbroken (stubComment kind field) ∧ stubComment kind field ≠ "" := by
  unfold stubComment
  simp only [unbroken_append, and_assoc]
  refine ⟨by decide, hkind, by decide, hfield, fun h => ?_⟩
  simp only [String.append_eq_empty_iff, and_assoc] at h
  exact absurd h.1 (by decide)

namespace ClassWriter
variable {c : ClassWriter} {memory : List FieldDescriptor} {field : FieldDescriptor} {doc : DocField}

/-- **The members of a field are laid out as they are**, whatever is documented of it: each comment is
one line, and each method has the lines of its Javadoc, its header and its body. -/
theorem fieldMembers_lines (hc : c.BreakFree) (hfield : Unbroken field.name) :
    ∀ member ∈ c.fieldMembers memory field doc, sourceLines (member.text 1) = member.lines := by
  intro member hmember
  rcases c.mem_fieldMembers hmember with
    rfl | rfl | rfl | ⟨e, a, method, -, -, hmodifier, ha, hmethod, rfl⟩
  · have hcomment : Unbroken ("// Cannot find type for " ++ field.name) :=
      unbroken_append.mpr ⟨by decide, hfield⟩
    exact Member.sourceLines_comment hcomment
      fun h => absurd (String.append_eq_empty_iff.mp h).1 (by decide)
  · obtain ⟨hcomment, hne⟩ := stubComment_unbroken "getter" (by decide) hfield
    exact Member.sourceLines_comment hcomment hne
  · obtain ⟨hcomment, hne⟩ := stubComment_unbroken "setter" (by decide) hfield
    exact Member.sourceLines_comment hcomment hne
  · -- the code of a method: templates, and what settings, catalog and normalizer put into them
    obtain ⟨hname, htyping, -⟩ := FieldEntry.accessor_eq_ok ha
    have hmem := Catalog.resolve?_mem hmodifier
    have houtput := hc.outputType e.modifier hmem
    have hunbroken : Unbroken a.name ∧ Unbroken a.typing.declared := by
      rw [hname, htyping]
      exact ⟨Name.accessor_unbroken hc.synonyms e.displayName,
        typingOf_unbroken c.normalizer houtput e.doc⟩
    obtain ⟨hheader, hbody⟩ := FieldEntry.methods_unbroken hunbroken.1 hunbroken.2 houtput
      (hc.accessor e.modifier hmem) hmethod
    have hne : method.body ≠ "" := by
      intro hempty
      have hstart := FieldEntry.methods_body_start hmethod
      rw [hempty] at hstart
      exact absurd hstart (by decide)
    exact ClassMethod.sourceLines_text (FieldEntry.methods_isJavadoc hmethod) hheader hbody hne

theorem fieldMembers_isJavadoc {method : ClassMethod}
    (h : Member.method method ∈ c.fieldMembers memory field doc) :
    IsJavadoc (docSize doc method) method.javadoc ∧
      ("return".toList <+: method.body.toList ∨ "handle.".toList <+: method.body.toList) := by
  rcases c.mem_fieldMembers h with h | h | h | ⟨e, a, method', rfl, -, -, -, hmethod, h⟩
  · cases h
  · cases h
  · cases h
  · obtain rfl := Member.method.inj h
    exact ⟨FieldEntry.methods_isJavadoc hmethod, FieldEntry.methods_body_start hmethod⟩

end ClassWriter

/-! ## a file -/

theorem missingFieldLine_lines (doc : DocField) :
    sourceLines ((Member.comment (ClassWriter.missingFieldLine doc)).text 1)
      = ["    // Cannot generate field " ++ commentText doc.label] := by
  have hfront : Unbroken "// Cannot generate field " := by decide
  have hline : Unbroken (ClassWriter.missingFieldLine doc) :=
    unbroken_append.mpr ⟨hfront, (commentText_isLine doc.label).unbroken⟩
  rw [Member.sourceLines_comment hline (missingFieldLine_ne_empty doc)]
  show ["    " ++ ("// Cannot generate field " ++ commentText doc.label)] = _
  rw [← String.append_assoc]
  rfl

/-- **The layout of a class does not depend on documentation text.**  Behind the lines of the head, the
file has those of each aligned field, one comment line for each documented field past the scan, and
the closing brace.  The Javadoc of a setter has four lines, that of a getter four or, with notes, six,
and that of a getter for an entity five; each of its lines starts like one, and the last closes it,
none before.  The header behind it starts at four spaces, the body at eight. -/
theorem write_layout (c : ClassWriter) (m : MessageType) (scan : ScanResult) (docs : List DocField)
    (hc : c.BreakFree) (hscan : ∀ field ∈ scan.networkOrder, Unbroken field.name) :
    sourceLines (c.write m scan docs).value
        = sourceLines (c.config.headText m) ++
          (scan.networkOrder.zip docs).flatMap (fun p =>
            (c.fieldMembers scan.memoryOrder p.1 p.2).flatMap Member.lines) ++
          (docs.drop scan.networkOrder.length).map (fun doc =>
            "    // Cannot generate field " ++ commentText doc.label) ++ ["\x7d"] ∧
      (∀ doc ∈ docs.drop scan.networkOrder.length, IsLine (ClassWriter.missingFieldLine doc)) ∧
      ∀ p ∈ scan.networkOrder.zip docs, ∀ method,
        Member.method method ∈ c.fieldMembers scan.memoryOrder p.1 p.2 →
          IsJavadoc (docSize p.2 method) method.javadoc ∧
          "public ".toList <+: method.header.toList ∧
          ("return".toList <+: method.body.toList ∨ "handle.".toList <+: method.body.toList) := by
  have hfields : ∀ p ∈ scan.networkOrder.zip docs,
      (c.fieldMembers scan.memoryOrder p.1 p.2).flatMap (fun member => sourceLines (member.text 1))
        = (c.fieldMembers scan.memoryOrder p.1 p.2).flatMap Member.lines := by
    intro p hp
    have hfield : Unbroken p.1.name := hscan p.1 (List.of_mem_zip hp).1
    exact List.flatMap_congr (ClassWriter.fieldMembers_lines hc hfield)
  have hclose : sourceLines "\x7d\n" = ["\x7d"] := by decide
  refine ⟨?_, fun doc _ => isLine_append.mpr ⟨by decide, commentText_isLine doc.label⟩,
    fun p _ method hmethod => ?_⟩
  · have hmembers : (c.members scan docs).flatMap (fun member => sourceLines (member.text 1))
        = (scan.networkOrder.zip docs).flatMap (fun p =>
            (c.fieldMembers scan.memoryOrder p.1 p.2).flatMap Member.lines) ++
          (docs.drop scan.networkOrder.length).map (fun doc =>
            "    // Cannot generate field " ++ commentText doc.label) := by
      rw [ClassWriter.members, List.flatMap_append, List.flatMap_assoc, List.flatMap_congr hfields,
        List.flatMap_map, List.map_eq_flatMap]
      exact congrArg _ (List.flatMap_congr fun doc _ => missingFieldLine_lines doc)
    rw [c.write_value, String.append_assoc, sourceLines_append (c.config.headText_endsWithBreak m),
      sourceLines_joinMap (Member.text_endsWithBreak 1), hmembers, hclose]
    simp only [List.append_assoc]
  · obtain ⟨hdoc, hbody⟩ := ClassWriter.fieldMembers_isJavadoc hmethod
    exact ⟨hdoc, method.header_start, hbody⟩

/-! ## documentation that tries to break out -/

def angleField : FieldDescriptor := ⟨"Look", "int", "a", 0⟩

/-- a name, a type and notes on two lines, all but the type with the end of a comment -/
def brokenDoc : DocField := ⟨some "Yaw\n*/", "In\nt", "in\n*/ degrees"⟩

/-- the label of the second field is for no scanned field -/
def brokenDocs : List DocField := [brokenDoc, ⟨some "Roll\n*/", "Int", ""⟩]

def brokenGetter : ClassMethod :=
  FieldEntry.getter
    ⟨angleField, brokenDoc, "Yaw\n*/", ⟨"int", "int", "getIntegers()", false⟩, []⟩
    ⟨"Yaw", ⟨"int", false⟩, 0⟩

theorem write_layout_broken :
    numberWriter.BreakFree ∧ (∀ field ∈ [angleField], Unbroken field.name) ∧
    (angleField, brokenDoc) ∈ [angleField].zip brokenDocs ∧
    Member.method brokenGetter ∈ numberWriter.fieldMembers [angleField] angleField brokenDoc ∧
    IsJavadoc 6 brokenGetter.javadoc ∧
    sourceLines (numberWriter.write lookMessage ⟨[angleField], [angleField]⟩ brokenDocs).value
      = sourceLines (Config.stock.headText lookMessage) ++ [
        "    /**",
        "     * Retrieve Yaw *&#47;.",
        "     * <p>",
        "     * Notes: in *&#47; degrees",
        "     * @return The current Yaw *&#47;",
        "     */",
        "    public int getYaw() \x7b",
        "        return handle.getIntegers().read(0);",
        "    \x7d",
        "",
        "    /**",
        "     * Set Yaw *&#47;.",
        "     * @param value - new value.",
        "     */",
        "    public void setYaw(int value) \x7b",
        "        handle.getIntegers().write(0, value);",
        "    \x7d",
        "",
        "    // Cannot generate field Roll *&#47;",
        "\x7d"] := by
  have hmodifiers : numberWriter.catalog.modifiers = [⟨"int", "int", "getIntegers()", false⟩] := by
    decide +kernel
  have hfree : numberWriter.BreakFree := by
    constructor
    · decide
    · rw [hmodifiers]
      decide
    · rw [hmodifiers]
      decide
  have hscan : ∀ field ∈ [angleField], Unbroken field.name := by decide
  have hpair : (angleField, brokenDoc) ∈ [angleField].zip brokenDocs := List.mem_cons_self
  have hgetter : Member.method brokenGetter
      ∈ numberWriter.fieldMembers [angleField] angleField brokenDoc := by decide +kernel
  obtain ⟨hlines, -, hmethods⟩ := write_layout numberWriter lookMessage
    ⟨[angleField], [angleField]⟩ brokenDocs hfree hscan
  refine ⟨hfree, hscan, hpair, hgetter, (hmethods _ hpair _ hgetter).1, ?_⟩
  rw [hlines, List.append_assoc, List.append_assoc]
  refine congrArg (sourceLines (Config.stock.headText lookMessage) ++ ·) ?_
  decide +kernel

end WireWrapper
