import WireWrapper.Proofs.ClassText.AccessorPair
import WireWrapper.Proofs.TypeText.NameTexts

/-!
# Types that accessors declare

An accessor declares the type of its modifier or the documented one, and only the absence of a type
keeps it from being written.  The types of modifiers are those of the catalog.  A documented type is
whatever its text leaves, so it is a type of Java if what stands in front of the brackets of an array
is: for a text of name characters, a word that does not start with a digit and is not reserved,
primitive types apart.

* `FieldEntry.KeepsType`            the modifier decides;
* `isJavaType_declaredType_iff`     when the declared type is one of Java;
* `declared_types`                  what is written, and when its type is one of Java;
* `declared_types_illegal`          brackets alone, and a keyword.
-/

namespace WireWrapper
namespace FieldEntry
variable {e : FieldEntry} {config : Config} {n : Normalizer}

/-- a wrapper, or a widening modifier over narrow documentation: the modifier's type is declared -/
def KeepsType (e : FieldEntry) (n : Normalizer) : Prop :=
  e.modifier.isWrapper = true ∨
    (e.modifier.isWidening = true ∧ isNarrow (n.normalize e.doc.typeText) = true)

/-- the documented type of a field, without the brackets of an array -/
def documentedText (e : FieldEntry) (n : Normalizer) : List Char :=
  n.coreText (n.substitute e.doc.typeText.toList)

theorem declaredType_keeps (h : e.KeepsType n) : e.declaredType n = e.modifier.outputType :=
  typingOf_keeps h

theorem declaredType_documented (h : ¬ e.KeepsType n) :
    e.declaredType n = n.normalize e.doc.typeText := typingOf_documented h

/-- **The declared type is one of Java** exactly if the modifier decides or the documented text is
one, as far as the types of modifiers are. -/
theorem isJavaType_declaredType_iff (hm : IsJavaType e.modifier.outputType.toList) :
    IsJavaType (e.declaredType n).toList ↔ e.KeepsType n ∨ IsJavaType (e.documentedText n) := by
  by_cases hkeeps : e.KeepsType n
  · rw [declaredType_keeps hkeeps]
    exact iff_of_true hm (.inl hkeeps)
  · rw [declaredType_documented hkeeps, or_iff_right hkeeps]
    exact n.isJavaType_normalize_iff e.doc.typeText

theorem accessor_declared_ne_empty {a : Accessor} (h : e.accessor config n = .ok a) :
    e.declaredType n ≠ "" := by
  intro hempty
  unfold accessor at h
  dsimp only at h
  split at h
  · cases h
  · have hdeclared : (typingOf n e.modifier e.doc).declared.isEmpty = true :=
      String.isEmpty_iff.mpr hempty
    rw [if_pos hdeclared] at h
    cases h

theorem members_of_ok {a : Accessor} (h : e.accessor config n = .ok a) :
    (∃ getter others, e.getterMembers config n = .method getter :: others ∧
      getter.result = e.declaredType n) ∧
    (∃ setter, e.setterMembers config n = [.method setter] ∧
      setter.params = [(e.declaredType n, "value")]) := by
  obtain ⟨_, htyping, _⟩ := accessor_eq_ok h
  constructor
  · rw [getterMembers, staged_ok h]
    exact ⟨_, _, rfl, congrArg FieldTyping.declared htyping⟩
  · rw [setterMembers, staged_ok h]
    refine ⟨_, rfl, ?_⟩
    show [(a.typing.declared, "value")] = _
    rw [htyping]
    rfl

theorem members_of_error {failure : FieldFailure} (h : e.accessor config n = .error failure) :
    e.getterMembers config n = [.comment (stubComment "getter" e.field)] ∧
    e.setterMembers config n = [.comment (stubComment "setter" e.field)] :=
  ⟨staged_eq_comment_iff.mpr ⟨failure, h⟩, staged_eq_comment_iff.mpr ⟨failure, h⟩⟩

end FieldEntry

/-- **What accessors declare**, with the default settings and over modifiers whose types are types of
Java.  Where accessors cannot be had there are comments.  Else the getter returns and the setter
takes the declared type, and it is not empty.  It is the modifier's own type, or the documented text
with brackets or without; and it is a type of Java exactly if the modifier decides or this text is
one, which for documentation in name characters means an identifier, reserved only as the name of a
primitive type. -/
theorem declared_types (catalog : Catalog)
    (hcatalog : ∀ m ∈ catalog.modifiers, IsJavaType m.outputType.toList)
    (e : FieldEntry) (hm : e.modifier ∈ catalog.modifiers) :
    (∀ failure, e.accessor Config.stock Config.stock.normalizer = .error failure →
      e.getterMembers Config.stock Config.stock.normalizer
        = [.comment (stubComment "getter" e.field)] ∧
      e.setterMembers Config.stock Config.stock.normalizer
        = [.comment (stubComment "setter" e.field)]) ∧
    (∀ a, e.accessor Config.stock Config.stock.normalizer = .ok a →
      (∃ getter others,
        e.getterMembers Config.stock Config.stock.normalizer = .method getter :: others ∧
        getter.result = e.declaredType Config.stock.normalizer) ∧
      (∃ setter, e.setterMembers Config.stock Config.stock.normalizer = [.method setter] ∧
        setter.params = [(e.declaredType Config.stock.normalizer, "value")]) ∧
      e.declaredType Config.stock.normalizer ≠ "") ∧
    (e.KeepsType Config.stock.normalizer →
      e.declaredType Config.stock.normalizer = e.modifier.outputType) ∧
    (¬ e.KeepsType Config.stock.normalizer →
      (e.declaredType Config.stock.normalizer).toList
        = e.documentedText Config.stock.normalizer ++
          if Normalizer.mentionsArray (Config.stock.normalizer.substitute e.doc.typeText.toList)
          then ['[', ']'] else []) ∧
    (IsJavaType (e.declaredType Config.stock.normalizer).toList ↔
      e.KeepsType Config.stock.normalizer ∨
      IsJavaType (e.documentedText Config.stock.normalizer)) ∧
    (IsNameText e.doc.typeText.toList →
      (IsJavaType (e.documentedText Config.stock.normalizer) ↔
        Config.isIdentifier (e.documentedText Config.stock.normalizer) = true ∧
        (String.ofList (e.documentedText Config.stock.normalizer) ∈ reservedWords →
          String.ofList (e.documentedText Config.stock.normalizer) ∈ primitiveTypes))) := by
  refine ⟨?_, ?_, ?_, ?_, ?_, ?_⟩
  · intro failure h
    exact FieldEntry.members_of_error h
  · intro a h
    obtain ⟨hgetter, hsetter⟩ := FieldEntry.members_of_ok h
    exact ⟨hgetter, hsetter, FieldEntry.accessor_declared_ne_empty h⟩
  · exact FieldEntry.declaredType_keeps
  · intro hdocumented
    rw [FieldEntry.declaredType_documented hdocumented]
    exact Normalizer.normalize_toList _ _
  · exact FieldEntry.isJavaType_declaredType_iff (hcatalog e.modifier hm)
  · intro hnames
    exact isJavaType_word (Normalizer.coreText_continues Normalizer.stock_isNameText hnames)

theorem numberWriter_types :
    ∀ m ∈ numberWriter.catalog.modifiers, IsJavaType m.outputType.toList := by
  intro m hm
  have hentries : Catalog.ofEntries [seedEntry.modifier] = .ok numberWriter.catalog := rfl
  have hmem := (Catalog.mem_of_ofEntries hentries hm).1
  rw [List.mem_singleton.mp hmem]
  exact .inl (by decide)

/-- A longer number is declared as one, and `long` is a type. -/
theorem declared_types_seed :
    (∀ m ∈ numberWriter.catalog.modifiers, IsJavaType m.outputType.toList) ∧
    seedEntry.modifier ∈ numberWriter.catalog.modifiers ∧
    seedEntry.declaredType Config.stock.normalizer = "long" ∧ IsJavaType "long".toList := by
  have hm : seedEntry.modifier ∈ numberWriter.catalog.modifiers := by decide
  have hkeeps : ¬ seedEntry.KeepsType Config.stock.normalizer := by
    unfold FieldEntry.KeepsType
    decide
  have hcore : seedEntry.documentedText Config.stock.normalizer = "long".toList := by decide
  have hbrackets : Normalizer.mentionsArray
      (Config.stock.normalizer.substitute seedEntry.doc.typeText.toList) = false := by
    decide
  obtain ⟨-, -, -, htext, hjava, hnames⟩ :=
    declared_types numberWriter.catalog numberWriter_types seedEntry hm
  have hdeclared := htext hkeeps
  rw [hcore, hbrackets, if_neg Bool.false_ne_true, List.append_nil, String.toList_inj] at hdeclared
  refine ⟨numberWriter_types, hm, hdeclared, ?_⟩
  rw [← hdeclared, hjava, hnames (by decide), hcore]
  exact .inr (by decide)

/-- an array of nothing -/
def bareArrayEntry : FieldEntry := { seedEntry with doc := ⟨some "Hashed seed", "Array", ""⟩ }

/-- an enumeration by its keyword -/
def enumEntry : FieldEntry := { seedEntry with doc := ⟨some "Hashed seed", "VarInt Enum", ""⟩ }

/-- Brackets without an element type are declared, and so is a keyword. -/
theorem declared_types_illegal :
    (∀ m ∈ numberWriter.catalog.modifiers, IsJavaType m.outputType.toList) ∧
    (∀ e ∈ [bareArrayEntry, enumEntry], e.modifier ∈ numberWriter.catalog.modifiers ∧
      (∃ a, e.accessor Config.stock Config.stock.normalizer = .ok a) ∧
      ¬ IsJavaType (e.declaredType Config.stock.normalizer).toList) := by
  have hmodifier : seedEntry.modifier ∈ numberWriter.catalog.modifiers := by decide
  have hbare : (bareArrayEntry.declaredType Config.stock.normalizer).toList = [] ++ ['[', ']'] := by
    decide
  have hkeyword : (enumEntry.declaredType Config.stock.normalizer).toList = "enum".toList := by
    decide
  refine ⟨numberWriter_types, List.forall_mem_cons.mpr ⟨⟨hmodifier, ⟨_, rfl⟩, ?_⟩,
    List.forall_mem_singleton.mpr ⟨hmodifier, ⟨_, rfl⟩, ?_⟩⟩⟩
  · rw [hbare, isJavaType_brackets]
    exact mt (isJavaType_word (List.forall_mem_nil _)).mp (by decide)
  · rw [hkeyword]
    have hnames := continuesIdentifier_of_isIdentifier
      (by decide : Config.isIdentifier "enum".toList = true)
    exact mt (isJavaType_word hnames).mp (by decide)

end WireWrapper
