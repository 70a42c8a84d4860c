import WireWrapper.Proofs.ClassText.Balance
import WireWrapper.Proofs.Source.TextLines
import WireWrapper.Proofs.Text.CommentText

/-!
# Documentation text inside comments

Documentation text stands in the Javadoc of accessors and in the comment lines for fields past the
scan.  The end of a comment does not stand in it; but nothing is done about its escapes, so the
compiler may still find one there.  It finds one in the Javadocs of a field exactly if it finds one in
the name or in the notes of this field, and a line breaks off before its end exactly if an escape
says so.

* `ClassMethod.docInner`           the text between the two ends of a Javadoc;
* `ClassMethod.HasDoc`             the lines of a Javadoc;
* `javaInput_text`                 such a Javadoc is translated apart from its two ends;
* `getter_endsComment`, `setter_endsComment`   which texts end the Javadoc of an accessor;
* `methods_endsComment`            the Javadocs of a field;
* `breaksLine_missingFieldLine`    the line of a field past the scan;
* `write_comments`                 the comments of a whole class;
* `write_comments_escaped`         escapes that end a Javadoc, and one that breaks a line.
-/

namespace WireWrapper

/-! ## lines -/

theorem IsLine.unbroken {s : String} (hs : IsLine s) : Unbroken s := fun h => (hs _ h).1 rfl

theorem endsAtSeam_of_break {s : String} (hs : Source.endsWithBreak s = true) :
    endsAtSeam s = true := by
  rw [Source.endsWithBreak, beq_iff_eq] at hs
  rw [endsAtSeam, hs]
  rfl

theorem endsComment_lineText (s : String) : EndsComment (lineText 1 s) ↔ EndsComment s := by
  rw [lineText, endsComment_before (by decide) (by decide)]
  split
  · next hempty => rw [String.isEmpty_iff.mp hempty]
  · exact endsComment_behind (by decide) (by decide) s

theorem javaInput_lineText {s : String} (hs : s ≠ "") :
    javaInput (lineText 1 s) = javaInput "    " ++ javaInput s ++ javaInput "\n" := by
  have hpadding : Source.padding 1 = "    " := by decide
  have hne : ¬ s.isEmpty = true := mt String.isEmpty_iff.mp hs
  rw [lineText, if_neg hne, hpadding, javaInput_append_of_starts _ (by decide),
    javaInput_append_of_ends (by decide)]

theorem endsComment_joinMap (lines : List String) (hlines : ∀ line ∈ lines, IsLine line) :
    EndsComment (joinMap (paragraph 1) lines) ↔ ∃ line ∈ lines, EndsComment line := by
  induction lines with
  | nil => simp [joinMap_nil, show ¬ EndsComment "" by decide]
  | cons line lines ih =>
    obtain ⟨hline, hlines⟩ := List.forall_mem_cons.mp hlines
    rw [joinMap_cons, paragraph_eq_lineText 1 hline.unbroken,
      endsComment_append_of_ends (endsAtSeam_of_break (Source.lineText_endsWithBreak 1 line)),
      endsComment_lineText, ih hlines, List.exists_mem_cons_iff]

/-! ## Javadocs -/

namespace ClassMethod

/-- the lines of a Javadoc between its first and its last -/
def docLines (m : ClassMethod) : List String := m.doc.tail.dropLast

/-- the text of a Javadoc between its two ends, one level deep -/
def docInner (m : ClassMethod) : String := "\n" ++ joinMap (paragraph 1) m.docLines ++ "     "

/-- a Javadoc with its two ends on lines of their own, and the lines in between -/
structure HasDoc (m : ClassMethod) (lines : List String) : Prop where
  doc : m.doc = "/**" :: lines ++ [" */"]
  isLine : ∀ line ∈ lines, IsLine line

section
variable {m : ClassMethod} {lines : List String} (h : m.HasDoc lines)
include h

theorem docLines_eq : m.docLines = lines := by
  rw [docLines, h.doc]
  exact List.dropLast_concat

theorem text_eq_docInner :
    m.text 1 = "    /**" ++ m.docInner ++ "*/\n" ++ codeText 1 m.header m.body := by
  have hopen : paragraph 1 "/**" = "    /**" ++ "\n" := by decide
  have hclose : paragraph 1 " */" = "     " ++ "*/\n" := by decide
  rw [text, h.doc, List.cons_append, joinMap_cons, joinMap_append, joinMap_singleton, hopen, hclose,
    docInner, docLines_eq h]
  simp only [String.append_assoc]

/-- the two ends of a Javadoc are translated alone, and so is what stands between them -/
theorem javaInput_text :
    javaInput (m.text 1)
      = javaInput "    /**" ++ javaInput m.docInner ++ javaInput "*/\n" ++
        javaInput (codeText 1 m.header m.body) := by
  have hstart : startsAtSeam m.docInner = true := by
    rw [docInner, String.append_assoc]
    exact startsAtSeam_append (by decide) _
  have hend : endsAtSeam m.docInner = true := endsAtSeam_append _ (by decide)
  rw [text_eq_docInner h, javaInput_append_of_ends (endsAtSeam_append _ (by decide)),
    javaInput_append_of_ends (endsAtSeam_append _ hend), javaInput_append_of_starts _ hstart]

theorem endsComment_docInner : EndsComment m.docInner ↔ ∃ line ∈ lines, EndsComment line := by
  rw [docInner, docLines_eq h, endsComment_before (by decide) (by decide),
    endsComment_behind (by decide) (by decide), endsComment_joinMap _ h.isLine]

end

end ClassMethod

/-! ## the Javadocs of a field -/

theorem noteLines_isLine {note : String} (h : IsLine note) :
    ∀ line ∈ noteLines note, IsLine line := by
  rw [noteLines]
  split
  · exact fun line hline => absurd hline List.not_mem_nil
  · have hfirst : IsLine " * <p>" := by decide
    have hsecond : IsLine (" * Notes: " ++ note) := isLine_append.mpr ⟨by decide, h⟩
    simp [hfirst, hsecond]

theorem endsComment_noteLines (note : String) :
    (∃ line ∈ noteLines note, EndsComment line) ↔ EndsComment note := by
  rw [noteLines]
  split
  · next hempty =>
    rw [String.isEmpty_iff.mp hempty]
    exact iff_of_false (by simp) (by decide)
  · have hfirst : ¬ EndsComment " * <p>" := by decide
    have hsecond : EndsComment (" * Notes: " ++ note) ↔ EndsComment note :=
      endsComment_behind (by decide) (by decide) note
    simp [hfirst, hsecond]

theorem endsComment_sentence {front : String} (hfront : endsAtSeam front = true)
    (hfree : ¬ EndsComment front) (s : String) :
    EndsComment (front ++ s ++ ".") ↔ EndsComment s :=
  (endsComment_before (by decide) (by decide) (front ++ s)).trans (endsComment_behind hfront hfree s)

namespace FieldEntry
variable (e : FieldEntry) (a : Accessor)

theorem getter_hasDoc :
    (e.getter a).HasDoc
      ((" * Retrieve " ++ commentText e.displayName ++ ".") :: noteLines (noteText e.doc) ++
        [" * @return The current " ++ commentText e.displayName]) := by
  have hname := commentText_isLine e.displayName
  constructor
  · show ["/**", " * Retrieve " ++ commentText e.displayName ++ "."] ++ noteLines (noteText e.doc)
      ++ [" * @return The current " ++ commentText e.displayName, " */"] = _
    simp
  · have hretrieve : IsLine (" * Retrieve " ++ commentText e.displayName ++ ".") :=
      isLine_append.mpr ⟨isLine_append.mpr ⟨by decide, hname⟩, by decide⟩
    have hreturn : IsLine (" * @return The current " ++ commentText e.displayName) :=
      isLine_append.mpr ⟨by decide, hname⟩
    rw [List.cons_append, List.forall_mem_cons, List.forall_mem_append]
    exact ⟨hretrieve, noteLines_isLine (noteText_isLine e.doc), by simpa using hreturn⟩

theorem setter_hasDoc :
    (e.setter a).HasDoc
      [" * Set " ++ commentText e.displayName ++ ".", " * @param value - new value."] := by
  have hset : IsLine (" * Set " ++ commentText e.displayName ++ ".") :=
    isLine_append.mpr
      ⟨isLine_append.mpr ⟨by decide, commentText_isLine e.displayName⟩, by decide⟩
  have hparam : IsLine " * @param value - new value." := by decide
  refine ⟨rfl, ?_⟩
  simp [hset, hparam]

theorem getter_endsComment :
    EndsComment (e.getter a).docInner ↔
      EndsComment (commentText e.displayName) ∨ EndsComment (noteText e.doc) := by
  have hretrieve : EndsComment (" * Retrieve " ++ commentText e.displayName ++ ".")
      ↔ EndsComment (commentText e.displayName) := endsComment_sentence (by decide) (by decide) _
  have hreturn : EndsComment (" * @return The current " ++ commentText e.displayName)
      ↔ EndsComment (commentText e.displayName) :=
    endsComment_behind (by decide) (by decide) _
  rw [ClassMethod.endsComment_docInner (e.getter_hasDoc a)]
  constructor
  · rintro ⟨line, hline, hends⟩
    rcases List.mem_append.mp hline with hline | hline
    · rcases List.mem_cons.mp hline with rfl | hline
      · exact .inl (hretrieve.mp hends)
      · exact .inr ((endsComment_noteLines _).mp ⟨line, hline, hends⟩)
    · rw [List.mem_singleton.mp hline] at hends
      exact .inl (hreturn.mp hends)
  · rintro (hname | hnote)
    · exact ⟨_, List.mem_append_left _ List.mem_cons_self, hretrieve.mpr hname⟩
    · obtain ⟨line, hline, hends⟩ := (endsComment_noteLines _).mpr hnote
      exact ⟨line, List.mem_append_left _ (List.mem_cons_of_mem _ hline), hends⟩

theorem setter_endsComment :
    EndsComment (e.setter a).docInner ↔ EndsComment (commentText e.displayName) := by
  have hset : EndsComment (" * Set " ++ commentText e.displayName ++ ".")
      ↔ EndsComment (commentText e.displayName) := endsComment_sentence (by decide) (by decide) _
  have hparam : ¬ EndsComment " * @param value - new value." := by decide
  rw [ClassMethod.endsComment_docInner (e.setter_hasDoc a)]
  simp [hset, hparam]

theorem mem_methods {method : ClassMethod} :
    method ∈ e.methods a ↔ method = e.getter a ∨ method = e.setter a ∨
      (namesEntity a.name = true ∧ (method = worldGetter a.index ∨ method = eventGetter)) := by
  rw [methods, getters, List.mem_append, List.mem_cons, List.mem_singleton]
  cases namesEntity a.name with
  | true =>
    rw [if_pos rfl, List.mem_cons, List.mem_singleton]
    grind
  | false => simp

end FieldEntry

/-- what stands between the two ends of the Javadoc of a getter for an entity -/
def entityLines (param : String) : List String :=
  [" * Retrieve the entity involved in this event.", " * @param " ++ param,
    " * @return The involved entity."]

theorem entityLines_isLine {param : String} (h : IsLine param) :
    ∀ line ∈ entityLines param, IsLine line := by
  have hretrieve : IsLine " * Retrieve the entity involved in this event." := by decide
  have hparam : IsLine (" * @param " ++ param) := isLine_append.mpr ⟨by decide, h⟩
  have hreturn : IsLine " * @return The involved entity." := by decide
  simp [entityLines, hretrieve, hparam, hreturn]

theorem not_endsComment_entityLines {param : String} (h : ¬ EndsComment param) :
    ∀ line ∈ entityLines param, ¬ EndsComment line := by
  have hretrieve : ¬ EndsComment " * Retrieve the entity involved in this event." := by decide
  have hparam : ¬ EndsComment (" * @param " ++ param) :=
    mt (endsComment_behind (by decide) (by decide) param).mp h
  have hreturn : ¬ EndsComment " * @return The involved entity." := by decide
  simp [entityLines, hretrieve, hparam, hreturn]

theorem worldGetter_hasDoc (index : Nat) :
    (worldGetter index).HasDoc (entityLines "world - the current world of the entity.") :=
  ⟨rfl, entityLines_isLine (by decide)⟩

theorem eventGetter_hasDoc : eventGetter.HasDoc (entityLines "event - the packet event.") :=
  ⟨rfl, entityLines_isLine (by decide)⟩

theorem entity_hasDoc {method : ClassMethod} {index : Nat}
    (h : method = worldGetter index ∨ method = eventGetter) :
    ∃ lines, method.HasDoc lines ∧ ∀ line ∈ lines, ¬ EndsComment line := by
  rcases h with rfl | rfl
  · exact ⟨_, worldGetter_hasDoc index, not_endsComment_entityLines (by decide)⟩
  · exact ⟨_, eventGetter_hasDoc, not_endsComment_entityLines (by decide)⟩

namespace FieldEntry
variable (e : FieldEntry) (a : Accessor)

theorem methods_hasDoc {method : ClassMethod} (h : method ∈ e.methods a) :
    ∃ lines, method.HasDoc lines := by
  rcases (e.mem_methods a).mp h with rfl | rfl | ⟨-, h⟩
  · exact ⟨_, e.getter_hasDoc a⟩
  · exact ⟨_, e.setter_hasDoc a⟩
  · obtain ⟨lines, hdoc, -⟩ := entity_hasDoc h
    exact ⟨lines, hdoc⟩

/-- **A Javadoc of a field ends too early exactly if its name or its notes end it.** -/
theorem methods_endsComment :
    (∃ method ∈ e.methods a, EndsComment method.docInner) ↔
      EndsComment (commentText e.displayName) ∨ EndsComment (noteText e.doc) := by
  constructor
  · rintro ⟨method, hmem, hends⟩
    rcases (e.mem_methods a).mp hmem with rfl | rfl | ⟨-, h⟩
    · exact (e.getter_endsComment a).mp hends
    · exact .inl ((e.setter_endsComment a).mp hends)
    · obtain ⟨lines, hdoc, hfree⟩ := entity_hasDoc h
      obtain ⟨line, hline, hends⟩ := (ClassMethod.endsComment_docInner hdoc).mp hends
      exact absurd hends (hfree line hline)
  · intro h
    exact ⟨e.getter a, (e.mem_methods a).mpr (.inl rfl), (e.getter_endsComment a).mpr h⟩

end FieldEntry

/-! ## the comments of a class -/

theorem missingFieldLine_ne_empty (doc : DocField) : ClassWriter.missingFieldLine doc ≠ "" := by
  intro h
  have hempty : "// Cannot generate field " = "" := (String.append_eq_empty_iff.mp h).1
  exact absurd hempty (by decide)

theorem breaksLine_missingFieldLine (doc : DocField) :
    BreaksLine (ClassWriter.missingFieldLine doc) ↔
      .escaped '\n'.toNat ∈ javaInput (commentText doc.label) ∨
      .escaped '\r'.toNat ∈ javaInput (commentText doc.label) := by
  have hseam : endsAtSeam "// Cannot generate field " = true := by decide
  have hfront : ¬ BreaksLine "// Cannot generate field " := by decide
  have hline : BreaksLine (ClassWriter.missingFieldLine doc) ↔ BreaksLine (commentText doc.label) :=
    (breaksLine_append_of_ends hseam _).trans (or_iff_right hfront)
  exact hline.trans (breaksLine_iff (commentText_isLine doc.label))

namespace ClassWriter
variable (c : ClassWriter)

theorem method_mem_fieldMembers {memory : List FieldDescriptor} {field : FieldDescriptor}
    {doc : DocField} {method : ClassMethod}
    (h : Member.method method ∈ c.fieldMembers memory field doc) :
    ∃ (e : FieldEntry) (a : Accessor), method ∈ e.methods a := by
  rcases c.mem_fieldMembers h with h | h | h | ⟨e, a, method', -, -, -, -, hmem, h⟩
  · cases h
  · cases h
  · cases h
  · obtain rfl := Member.method.inj h
    exact ⟨e, a, hmem⟩

theorem fieldMembers_endsComment {memory : List FieldDescriptor} {field : FieldDescriptor}
    {doc : DocField} {name : String} (hname : doc.displayName = some name)
    (hbuilt : c.outcome memory field doc = .built) :
    (∃ method, Member.method method ∈ c.fieldMembers memory field doc ∧
        EndsComment method.docInner) ↔
      EndsComment (commentText name) ∨ EndsComment (noteText doc) := by
  rcases c.fieldMembers_cases memory field doc with
    ⟨ho, -⟩ | ⟨ho, -⟩ | ⟨ho, -⟩ | ⟨-, e, a, rfl, hentry, hm⟩
  · rw [hbuilt] at ho
    cases ho
  · rw [hbuilt] at ho
    cases ho
  · rw [hbuilt] at ho
    cases ho
  · rw [hname] at hentry
    rw [hm, Option.some.inj hentry, ← e.methods_endsComment a]
    simp

end ClassWriter

/-- **What documentation text does to the comments of a class.**  The file is translated member by
member, and a Javadoc between its two ends.  A Javadoc ends too early exactly if the name or the notes
of its field end it, for which an escape must write a part of it; and the line of a field past the
scan breaks off exactly if an escape says so. -/
theorem write_comments (c : ClassWriter) (m : MessageType) (scan : ScanResult)
    (docs : List DocField) :
    javaInput (c.write m scan docs).value
        = javaInput (c.config.headText m) ++
          ((c.members scan docs).flatMap (fun member => javaInput (member.text 1)) ++
            javaInput "\x7d\n") ∧
      (∀ p ∈ scan.networkOrder.zip docs, ∀ method,
        Member.method method ∈ c.fieldMembers scan.memoryOrder p.1 p.2 →
          javaInput (method.text 1)
            = javaInput "    /**" ++ javaInput method.docInner ++ javaInput "*/\n" ++
              javaInput (ClassMethod.codeText 1 method.header method.body)) ∧
      (∀ p ∈ scan.networkOrder.zip docs, ∀ name, p.2.displayName = some name →
        c.outcome scan.memoryOrder p.1 p.2 = .built →
          ((∃ method, Member.method method ∈ c.fieldMembers scan.memoryOrder p.1 p.2 ∧
              EndsComment method.docInner) ↔
            EndsComment (commentText name) ∨ EndsComment (noteText p.2))) ∧
      (∀ doc ∈ docs.drop scan.networkOrder.length,
        javaInput ((Member.comment (ClassWriter.missingFieldLine doc)).text 1)
            = javaInput "    " ++ javaInput (ClassWriter.missingFieldLine doc) ++ javaInput "\n" ∧
          (BreaksLine (ClassWriter.missingFieldLine doc) ↔
            .escaped '\n'.toNat ∈ javaInput (commentText doc.label) ∨
            .escaped '\r'.toNat ∈ javaInput (commentText doc.label))) ∧
      (∀ s, (∃ text, s = commentText text) ∨ (∃ doc, s = noteText doc) →
        .escaped '*'.toNat ∉ javaInput s → .escaped '/'.toNat ∉ javaInput s → ¬ EndsComment s) := by
  refine ⟨?_, fun p _ method hmem => ?_, fun p _ name hname hbuilt => ?_, fun doc _ => ⟨?_, ?_⟩, ?_⟩
  · rw [c.write_value, String.append_assoc, javaInput_append_of_ends (endsAtSeam_of_break (c.config.headText_endsWithBreak m)),
      javaInput_joinMap fun member => endsAtSeam_of_break (member.text_endsWithBreak 1)]
  · obtain ⟨e, a, hmethod⟩ := c.method_mem_fieldMembers hmem
    obtain ⟨lines, hdoc⟩ := e.methods_hasDoc a hmethod
    exact ClassMethod.javaInput_text hdoc
  · exact c.fieldMembers_endsComment hname hbuilt
  · exact javaInput_lineText (missingFieldLine_ne_empty doc)
  · exact breaksLine_missingFieldLine doc
  · rintro s (⟨text, rfl⟩ | ⟨doc, rfl⟩) hstar hslash
    · exact not_endsComment (commentText_comment text) hstar hslash
    · exact not_endsComment (noteText_comment doc) hstar hslash

/-! ## escapes -/

/-- escapes of letters, a backslash that is none, and the end of a comment as it stands -/
def quietDocs : List DocField :=
  [⟨some "Yaw \\u0041", "Int", "in */ degrees, \\\\u002a/"⟩, ⟨some "Pitch", "Int", ""⟩,
    ⟨some "Roll\n\\u0041 */", "Int", ""⟩]

/-- Neither the Javadocs of the first field end too early nor the line past the scan. -/
theorem write_comments_quiet :
    (¬ ∃ method, Member.method method ∈ numberWriter.fieldMembers lookFields
        ⟨"Look", "int", "a", 0⟩ ⟨some "Yaw \\u0041", "Int", "in */ degrees, \\\\u002a/"⟩ ∧
      EndsComment method.docInner) ∧
    ¬ BreaksLine (ClassWriter.missingFieldLine ⟨some "Roll\n\\u0041 */", "Int", ""⟩) := by
  obtain ⟨-, -, hfield, hpast, hquiet⟩ :=
    write_comments numberWriter lookMessage ⟨lookFields, lookFields⟩ quietDocs
  have hyaw := hfield (⟨"Look", "int", "a", 0⟩,
    ⟨some "Yaw \\u0041", "Int", "in */ degrees, \\\\u002a/"⟩) (by decide) "Yaw \\u0041" rfl
    (by decide)
  have hroll := (hpast ⟨some "Roll\n\\u0041 */", "Int", ""⟩ (by decide)).2
  constructor
  · rw [hyaw, not_or]
    exact ⟨hquiet _ (.inl ⟨_, rfl⟩) (by decide) (by decide),
      hquiet _ (.inr ⟨_, rfl⟩) (by decide) (by decide)⟩
  · rw [hroll]
    decide

/-- a name and notes that write the end of a comment, and a label that writes the end of a line -/
def escapedDocs : List DocField :=
  [⟨some "\\u002a/ Yaw", "Int", ""⟩, ⟨some "Pitch", "Int", "see *\\u002f"⟩,
    ⟨some "Roll\\u000a", "Int", ""⟩]

/-- Both fields have a Javadoc that ends too early, and the line past the scan breaks off. -/
theorem write_comments_escaped :
    (numberWriter.write lookMessage ⟨lookFields, lookFields⟩ escapedDocs).value
        = numberWriter.config.headText lookMessage ++
          joinMap (Member.text 1)
            (numberWriter.fieldMembers lookFields lookFields[0] escapedDocs[0] ++
              numberWriter.fieldMembers lookFields lookFields[1] escapedDocs[1] ++
              [.comment (ClassWriter.missingFieldLine escapedDocs[2])]) ++ "\x7d\n" ∧
    (∃ method,
      Member.method method ∈ numberWriter.fieldMembers lookFields lookFields[0] escapedDocs[0] ∧
      EndsComment method.docInner) ∧
    (∃ method,
      Member.method method ∈ numberWriter.fieldMembers lookFields lookFields[1] escapedDocs[1] ∧
      EndsComment method.docInner) ∧
    BreaksLine (ClassWriter.missingFieldLine escapedDocs[2]) := by
  have hname : EndsComment (commentText "\\u002a/ Yaw") := by decide
  have hnotes : EndsComment (noteText escapedDocs[1]) := by decide
  refine ⟨numberWriter.write_value lookMessage ⟨lookFields, lookFields⟩ escapedDocs, ?_, ?_, ?_⟩
  · exact (numberWriter.fieldMembers_endsComment rfl (by decide)).mpr (.inl hname)
  · exact (numberWriter.fieldMembers_endsComment rfl (by decide)).mpr (.inr hnotes)
  · decide

end WireWrapper
