import WireWrapper.Config
import WireWrapper.Modifier.Builtin
import WireWrapper.Proofs.Catalog
import WireWrapper.Proofs.Text.Pieces

/-!
# Types in Java source

A type is a primitive one, or a class by its dotted name with type arguments if there are any, and
behind either there may be pairs of brackets.  Names are those that settings may hold, identifiers in
ASCII, and the reserved words of the language are none.

* `IsClassName`            a dotted name of a class;
* `IsPart`                 classes, references, type arguments and lists of these;
* `IsJavaType`             a type;
* `isJavaType_brackets`    a pair of brackets makes a type of a type, and of nothing else;
* `isJavaType_word`        types of name characters only;
* `builtin_types`          the types that the built-in modifiers yield.
-/

namespace WireWrapper

/-- the primitive types -/
def primitiveTypes : List String :=
  ["boolean", "byte", "short", "int", "long", "char", "float", "double"]

/-- the words that are no identifiers: keywords, the literals and the underscore -/
def reservedWords : List String := primitiveTypes ++ [
  "abstract", "assert", "break", "case", "catch", "class", "const", "continue", "default", "do",
  "else", "enum", "extends", "final", "finally", "for", "goto", "if", "implements", "import",
  "instanceof", "interface", "native", "new", "package", "private", "protected", "public", "return",
  "static", "strictfp", "super", "switch", "synchronized", "this", "throw", "throws", "transient",
  "try", "void", "volatile", "while", "true", "false", "null", "_"]

def IsPrimitive (cs : List Char) : Prop := String.ofList cs ∈ primitiveTypes

instance (cs : List Char) : Decidable (IsPrimitive cs) := inferInstanceAs (Decidable (_ ∈ _))

/-- whether a text is a name that source code may give: an identifier that is not reserved -/
def IsFreeName (cs : List Char) : Prop :=
  Config.isIdentifier cs = true ∧ String.ofList cs ∉ reservedWords

instance (cs : List Char) : Decidable (IsFreeName cs) := inferInstanceAs (Decidable (_ ∧ _))

/-- whether a text is the dotted name of a class -/
def IsClassName (cs : List Char) : Prop := ∀ part ∈ Text.pieces (· == '.') cs, IsFreeName part

instance (cs : List Char) : Decidable (IsClassName cs) :=
  List.decidableBAll _ (Text.pieces (· == '.') cs)

/-- so many pairs of brackets -/
def brackets : Nat → List Char
  | 0 => []
  | k + 1 => brackets k ++ ['[', ']']

/-- the kinds of text that references to classes are made of -/
inductive TypePart where
  | classType | reference | argument | arguments

/-- the texts of each kind -/
inductive IsPart : TypePart → List Char → Prop
  | name {name} (hname : IsClassName name) : IsPart .classType name
  | generic {name args} (hname : IsClassName name) (hargs : IsPart .arguments args) :
      IsPart .classType (name ++ '<' :: args ++ ['>'])
  | classes {t} (ht : IsPart .classType t) (k : Nat) : IsPart .reference (t ++ brackets k)
  | primitives {t} (ht : IsPrimitive t) (k : Nat) : IsPart .reference (t ++ brackets (k + 1))
  | given {t} (ht : IsPart .reference t) : IsPart .argument t
  | unknown : IsPart .argument ['?']
  | upper {t} (ht : IsPart .reference t) : IsPart .argument ("? extends ".toList ++ t)
  | lower {t} (ht : IsPart .reference t) : IsPart .argument ("? super ".toList ++ t)
  | padded {t} (ht : IsPart .argument t) (i j : Nat) :
      IsPart .arguments (List.replicate i ' ' ++ t ++ List.replicate j ' ')
  | both {a b} (ha : IsPart .arguments a) (hb : IsPart .arguments b) :
      IsPart .arguments (a ++ ',' :: b)

/-- a type in Java source -/
def IsJavaType (cs : List Char) : Prop := IsPrimitive cs ∨ IsPart .reference cs

/-! ## characters -/

theorem continuesIdentifier_of_isIdentifier {cs : List Char} (h : Config.isIdentifier cs = true) :
    ∀ c ∈ cs, Config.continuesIdentifier c = true := by
  cases cs with
  | nil => exact nofun
  | cons c cs =>
    obtain ⟨hstart, hrest⟩ := Bool.and_eq_true_iff.mp h
    refine List.forall_mem_cons.mpr ⟨?_, List.all_eq_true.mp hrest⟩
    simp only [Config.startsIdentifier, Bool.or_eq_true] at hstart
    simp only [Config.continuesIdentifier, Char.isAlphanum, Bool.or_eq_true]
    tauto

theorem IsPrimitive.isIdentifier {cs : List Char} (h : IsPrimitive cs) :
    Config.isIdentifier cs = true := by
  have hall : ∀ type ∈ primitiveTypes, Config.isIdentifier type.toList = true := by decide
  rw [← String.toList_ofList (l := cs)]
  exact hall _ h

theorem IsClassName.mem {name : List Char} (h : IsClassName name) {c : Char} (hc : c ∈ name) :
    c = '.' ∨ Config.continuesIdentifier c = true := by
  rcases @Text.mem_pieces_of_mem (· == '.') name c hc with hdot | ⟨part, hpart, hcpart⟩
  · exact .inl (beq_iff_eq.mp hdot)
  · exact .inr (continuesIdentifier_of_isIdentifier (h part hpart).1 c hcpart)

theorem IsPart.classType_ne_bracket {u : List Char} : ¬ IsPart .classType (u ++ [']']) := by
  intro h
  generalize ht : u ++ [']'] = t at h
  cases h with
  | name hname =>
    have hc : ']' ∈ t := ht ▸ List.mem_append_right u List.mem_cons_self
    rcases hname.mem hc with hdot | hchar
    · exact absurd hdot (by decide)
    · exact absurd hchar (by decide)
  | generic hname hargs =>
    have hlast := (List.append_inj' ht rfl).2
    exact absurd hlast (by decide)

/-! ## pairs of brackets -/

theorem isJavaType_of_brackets {e : List Char} (h : IsJavaType (e ++ ['[', ']'])) :
    IsJavaType e := by
  have hsplit : e ++ ['[', ']'] = (e ++ ['[']) ++ [']'] := by rw [List.append_assoc]; rfl
  rcases h with hprimitive | href
  · -- a primitive type is a name, and a bracket is no name character
    have hc : Config.continuesIdentifier ']' = true :=
      continuesIdentifier_of_isIdentifier hprimitive.isIdentifier _
        (List.mem_append_right e (by decide))
    exact absurd hc (by decide)
  · generalize ht : e ++ ['[', ']'] = t at href
    cases href with
    | classes hclass k =>
      cases k with
      | zero =>
        rw [brackets, List.append_nil] at ht
        rw [← ht, hsplit] at hclass
        exact absurd hclass IsPart.classType_ne_bracket
      | succ k =>
        rw [brackets, ← List.append_assoc, List.append_left_inj] at ht
        exact .inr (ht ▸ .classes hclass k)
    | primitives hprimitive k =>
      rw [brackets, ← List.append_assoc, List.append_left_inj] at ht
      cases k with
      | zero =>
        rw [brackets, List.append_nil] at ht
        exact .inl (ht ▸ hprimitive)
      | succ k => exact .inr (ht ▸ .primitives hprimitive k)

theorem IsJavaType.brackets {e : List Char} (h : IsJavaType e) : IsJavaType (e ++ ['[', ']']) := by
  rcases h with hprimitive | href
  · exact .inr (.primitives hprimitive 0)
  · cases href with
    | classes hclass k =>
      rw [List.append_assoc]
      exact .inr (.classes hclass (k + 1))
    | primitives hprimitive k =>
      rw [List.append_assoc]
      exact .inr (.primitives hprimitive (k + 1))

/-- **A pair of brackets** makes a type of a type, and of nothing else. -/
theorem isJavaType_brackets {e : List Char} : IsJavaType (e ++ ['[', ']']) ↔ IsJavaType e :=
  ⟨isJavaType_of_brackets, IsJavaType.brackets⟩

/-! ## words -/

theorem isClassName_word {w : List Char} (hw : ∀ c ∈ w, Config.continuesIdentifier c = true) :
    IsClassName w ↔ IsFreeName w := by
  have hpieces : Text.pieces (· == '.') w = [w] := by
    refine Text.pieces_eq_singleton fun c hc => beq_false_of_ne ?_
    rintro rfl
    exact absurd (hw '.' hc) (by decide)
  unfold IsClassName
  rw [hpieces, List.forall_mem_singleton]

theorem isFreeName_of_classType {w : List Char} (h : IsPart .classType w)
    (hw : ∀ c ∈ w, Config.continuesIdentifier c = true) : IsFreeName w := by
  cases h with
  | name hname => exact (isClassName_word hw).mp hname
  | generic hname hargs =>
    have hc := hw '<' (List.mem_append_left _ (List.mem_append_right _ List.mem_cons_self))
    exact absurd hc (by decide)

theorem isFreeName_of_reference {w : List Char} (h : IsPart .reference w)
    (hw : ∀ c ∈ w, Config.continuesIdentifier c = true) : IsFreeName w := by
  have hbrackets : ∀ k, (∀ c ∈ brackets k, Config.continuesIdentifier c = true) → k = 0 := by
    intro k hk
    cases k with
    | zero => rfl
    | succ k => exact absurd (hk ']' (List.mem_append_right _ (by decide))) (by decide)
  cases h with
  | classes hclass k =>
    obtain ⟨ht, hk⟩ := List.forall_mem_append.mp hw
    obtain rfl := hbrackets k hk
    rw [brackets, List.append_nil]
    exact isFreeName_of_classType hclass ht
  | primitives hprimitive k =>
    exact absurd (hbrackets _ (List.forall_mem_append.mp hw).2) (Nat.succ_ne_zero k)

theorem isReference_of_isFreeName {w : List Char} (h : IsFreeName w)
    (hw : ∀ c ∈ w, Config.continuesIdentifier c = true) : IsPart .reference w := by
  rw [← List.append_nil w]
  exact .classes (.name ((isClassName_word hw).mpr h)) 0

/-- **A text of name characters** is a type exactly if it is an identifier, and if it is reserved then
as a primitive type. -/
theorem isJavaType_word {w : List Char} (hw : ∀ c ∈ w, Config.continuesIdentifier c = true) :
    IsJavaType w ↔ Config.isIdentifier w = true ∧
      (String.ofList w ∈ reservedWords → String.ofList w ∈ primitiveTypes) := by
  constructor
  · intro h
    rcases h with hprimitive | href
    · exact ⟨hprimitive.isIdentifier, fun _ => hprimitive⟩
    · obtain ⟨hidentifier, hfree⟩ := isFreeName_of_reference href hw
      exact ⟨hidentifier, fun hreserved => absurd hreserved hfree⟩
  · rintro ⟨hidentifier, hreserved⟩
    by_cases h : String.ofList w ∈ reservedWords
    · exact .inl (hreserved h)
    · exact .inr (isReference_of_isFreeName ⟨hidentifier, h⟩ hw)

/-! ## the built-in modifiers -/

section
variable {name : List Char} (hname : IsClassName name)
include hname

theorem IsClassName.isJavaType : IsJavaType name := by
  rw [← List.append_nil name]
  exact .inr (.classes (.name hname) 0)

theorem IsClassName.isJavaType_of {arguments : List Char} (hargs : IsPart .arguments arguments) :
    IsJavaType (name ++ '<' :: arguments ++ ['>']) := by
  rw [← List.append_nil (name ++ '<' :: arguments ++ ['>'])]
  exact .inr (.classes (.generic hname hargs) 0)

theorem IsClassName.isPart_arguments (i : Nat) :
    IsPart .arguments (List.replicate i ' ' ++ name) := by
  rw [← List.append_nil (List.replicate i ' ' ++ name), ← List.append_nil name]
  exact .padded (.given (.classes (.name hname) 0)) i 0

end

/-- the type arguments that built-in modifiers give -/
def builtinArguments : List String :=
  ["?", "WrappedWatchableObject", "MerchantRecipe", "WrappedStatistic, Integer"]

theorem builtinArguments_isPart : ∀ a ∈ builtinArguments, IsPart .arguments a.toList := by
  have hclass : ∀ name ∈ ["WrappedWatchableObject", "MerchantRecipe", "WrappedStatistic", "Integer"],
      IsClassName name.toList := by decide
  simp only [List.forall_mem_cons] at hclass
  obtain ⟨hwatchable, hrecipe, hstatistic, hinteger, -⟩ := hclass
  simp only [builtinArguments, List.forall_mem_cons]
  refine ⟨.padded .unknown 0 0, ?_, ?_, ?_, nofun⟩
  · exact hwatchable.isPart_arguments 0
  · exact hrecipe.isPart_arguments 0
  · exact .both (hstatistic.isPart_arguments 0) (hinteger.isPart_arguments 1)

/-- whether a character stands in front of brackets and type arguments -/
def isNamePart (c : Char) : Bool := c != '[' && c != '<'

theorem builtinModifiers_types : ∀ m ∈ builtinModifiers, IsJavaType m.outputType.toList := by
  have hforms : ∀ m ∈ builtinModifiers,
      (IsPrimitive (m.outputType.toList.takeWhile isNamePart) ∧
        m.outputType.toList.dropWhile isNamePart ∈ [[], ['[', ']']]) ∨
      (IsClassName (m.outputType.toList.takeWhile isNamePart) ∧
        m.outputType.toList.dropWhile isNamePart ∈
          [[], ['[', ']']] ++ builtinArguments.map fun a => '<' :: a.toList ++ ['>']) := by
    decide +kernel
  have hplain : ∀ {front rest}, IsJavaType front → rest ∈ [[], ['[', ']']] →
      IsJavaType (front ++ rest) := by
    intro front rest hfront hrest
    rcases List.mem_pair.mp hrest with rfl | rfl
    · rwa [List.append_nil]
    · exact hfront.brackets
  intro m hm
  rw [← @List.takeWhile_append_dropWhile _ isNamePart m.outputType.toList]
  rcases hforms m hm with ⟨hprimitive, hrest⟩ | ⟨hname, hrest⟩
  · exact hplain (.inl hprimitive) hrest
  · rcases List.mem_append.mp hrest with hrest | hrest
    · exact hplain hname.isJavaType hrest
    · obtain ⟨a, ha, hrest⟩ := List.mem_map.mp hrest
      rw [← hrest, ← List.append_assoc]
      exact hname.isJavaType_of (builtinArguments_isPart a ha)

/-- **Every type that a built-in modifier yields** is one that Java source can name. -/
theorem builtin_types {c : Catalog} (hc : Catalog.builtin = .ok c) :
    ∀ m ∈ c.modifiers, IsJavaType m.outputType.toList := by
  intro m hm
  exact builtinModifiers_types m (Catalog.mem_of_ofEntries hc hm).1

end WireWrapper
