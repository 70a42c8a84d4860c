import Mathlib.Data.List.Induction
import Mathlib.Data.List.Nodup
import WireWrapper.Modifier
import WireWrapper.Proofs.Text.Rendered

/-!
# A catalog is its table

A table is read entry by entry, up to the first that is blank somewhere or has the runtime type of an
earlier one.  Without such an entry the catalog holds just what the table lists, and the order of the
table is forgotten; so a lookup is a search in the table, along the superclasses too.

* `Modifier.member`, `IsBlankAt`   the texts of an entry, and which of them are blank;
* `blankMember?_eq_some`           the blank member that is reported;
* `outputType_ne_empty`            without one an accessor has a type to yield;
* `IsTable`                        tables that can be made a catalog;
* `Refused`                        why an entry cannot follow earlier ones;
* `Holds`                          a catalog against a table;
* `exists_add_iff`, `holds_add`, `add_eq_error_iff`   one entry more;
* `holds_of_ok`, `exists_of_isTable`   whole tables that are accepted;
* `ofEntries_eq_error_iff`         and those that are not;
* `mem_of_ofEntries`               where the modifiers of a catalog come from;
* `ofEntries_exact`                what becomes of a table.
-/

namespace WireWrapper

/-! ## blank members -/

/-- the place of a member among those that are looked at -/
def ModifierMember.rank : ModifierMember → Nat
  | runtimeType => 0
  | outputType => 1
  | accessor => 2

namespace Modifier

def member (m : Modifier) : ModifierMember → String
  | .runtimeType => m.runtimeType
  | .outputType => m.outputType
  | .accessor => m.accessor

def IsBlankAt (m : Modifier) (member : ModifierMember) : Prop :=
  Text.IsBlanks (m.member member).toList

instance (m : Modifier) (member : ModifierMember) : Decidable (m.IsBlankAt member) :=
  inferInstanceAs (Decidable (Text.IsBlanks _))

theorem isBlankText_iff {s : String} : isBlankText s = true ↔ Text.IsBlanks s.toList := by
  rw [isBlankText, List.isEmpty_iff, Text.trim_eq_nil_iff]

variable {m : Modifier}

theorem blankMember?_eq : m.blankMember? =
    if m.IsBlankAt .runtimeType then some .runtimeType
    else if m.IsBlankAt .outputType then some .outputType
    else if m.IsBlankAt .accessor then some .accessor
    else none := by
  rw [blankMember?]
  simp only [isBlankText_iff]
  rfl

theorem blankMember?_eq_none : m.blankMember? = none ↔ ∀ member, ¬ m.IsBlankAt member := by
  rw [blankMember?_eq]
  constructor
  · intro h member
    split at h
    · cases h
    split at h
    · cases h
    split at h
    · cases h
    cases member <;> assumption
  · intro h
    rw [if_neg (h .runtimeType), if_neg (h .outputType), if_neg (h .accessor)]

/-- **The blank member that is reported** is the first of them. -/
theorem blankMember?_eq_some {member : ModifierMember} : m.blankMember? = some member ↔
    m.IsBlankAt member ∧ ∀ earlier, earlier.rank < member.rank → ¬ m.IsBlankAt earlier := by
  rw [blankMember?_eq]
  constructor
  · intro h
    split at h
    · next hruntime =>
      obtain rfl := Option.some.inj h
      exact ⟨hruntime, fun earlier hlt => absurd hlt (Nat.not_lt_zero _)⟩
    split at h
    · next hruntime houtput =>
      obtain rfl := Option.some.inj h
      refine ⟨houtput, fun earlier hlt => ?_⟩
      cases earlier with
      | runtimeType => exact hruntime
      | outputType => exact absurd hlt (by decide)
      | accessor => exact absurd hlt (by decide)
    split at h
    · next hruntime houtput haccessor =>
      obtain rfl := Option.some.inj h
      refine ⟨haccessor, fun earlier hlt => ?_⟩
      cases earlier with
      | runtimeType => exact hruntime
      | outputType => exact houtput
      | accessor => exact absurd hlt (by decide)
    cases h
  · rintro ⟨hblank, hfirst⟩
    cases member with
    | runtimeType => rw [if_pos hblank]
    | outputType => rw [if_neg (hfirst .runtimeType (by decide)), if_pos hblank]
    | accessor =>
      rw [if_neg (hfirst .runtimeType (by decide)), if_neg (hfirst .outputType (by decide)),
        if_pos hblank]

theorem outputType_ne_empty (h : m.blankMember? = none) : m.outputType ≠ "" := by
  intro hempty
  refine blankMember?_eq_none.mp h .outputType ?_
  rw [IsBlankAt, member, hempty]
  decide

end Modifier

namespace Catalog

/-! ## tables -/

/-- entries without blank members, each for a runtime type of its own -/
structure IsTable (entries : List Modifier) : Prop where
  filled : ∀ m ∈ entries, ∀ member, ¬ m.IsBlankAt member
  distinct : (entries.map (·.runtimeType)).Nodup

/-- why an entry cannot follow `earlier` ones: its first blank member, or else its runtime type -/
inductive Refused (earlier : List Modifier) (m : Modifier) : CatalogFailure → Prop
  | blank {member : ModifierMember} (hblank : m.IsBlankAt member)
      (hfirst : ∀ other, other.rank < member.rank → ¬ m.IsBlankAt other) :
      Refused earlier m (.blank m.runtimeType member)
  | duplicate (hfilled : ∀ member, ¬ m.IsBlankAt member)
      (hearlier : ∃ e ∈ earlier, e.runtimeType = m.runtimeType) :
      Refused earlier m (.duplicate m.runtimeType)

/-- the modifiers of a catalog are the entries of a table -/
structure Holds (c : Catalog) (entries : List Modifier) : Prop where
  get : ∀ type, c.get? type = entries.find? (·.runtimeType == type)
  size : c.size = entries.length

theorem holds_empty : empty.Holds [] where
  get type := by
    show (∅ : Std.ExtTreeMap String Modifier)[type]? = none
    rw [Std.ExtTreeMap.getElem?_empty]
  size := Std.ExtTreeMap.size_empty

theorem isTable_nil : IsTable [] := ⟨nofun, List.nodup_nil⟩

variable {c next : Catalog} {earlier entries : List Modifier} {m : Modifier}
  {failure : CatalogFailure}

theorem isTable_concat : IsTable (entries ++ [m]) ↔
    IsTable entries ∧ (∀ member, ¬ m.IsBlankAt member) ∧
      ∀ e ∈ entries, e.runtimeType ≠ m.runtimeType := by
  have hnodup : ((entries ++ [m]).map (·.runtimeType)).Nodup ↔
      (entries.map (·.runtimeType)).Nodup ∧ ∀ e ∈ entries, e.runtimeType ≠ m.runtimeType := by
    rw [List.map_append, List.nodup_append]
    simp
  constructor
  · rintro ⟨hfilled, hdistinct⟩
    obtain ⟨hentries, hm⟩ := List.forall_mem_append.mp hfilled
    obtain ⟨hbefore, hown⟩ := hnodup.mp hdistinct
    exact ⟨⟨hentries, hbefore⟩, List.forall_mem_singleton.mp hm, hown⟩
  · rintro ⟨⟨hentries, hbefore⟩, hm, hown⟩
    exact ⟨List.forall_mem_append.mpr ⟨hentries, List.forall_mem_singleton.mpr hm⟩,
      hnodup.mpr ⟨hbefore, hown⟩⟩

/-! ## one entry more -/

/-- what an entry that is taken asks for, and what it changes -/
theorem add_eq_ok_iff : c.add m = .ok next ↔ m.blankMember? = none ∧
    c.get? m.runtimeType = none ∧ next = ⟨c.byType.insert m.runtimeType m⟩ := by
  rw [add]
  cases m.blankMember? with
  | some member => exact ⟨nofun, nofun⟩
  | none =>
    dsimp only
    cases c.get? m.runtimeType with
    | some taken => exact ⟨nofun, nofun⟩
    | none =>
      exact ⟨fun h => ⟨rfl, rfl, (Except.ok.inj h).symm⟩, fun h => congrArg Except.ok h.2.2.symm⟩

theorem get?_insert (type : String) : get? ⟨c.byType.insert m.runtimeType m⟩ type
    = if m.runtimeType = type then some m else c.get? type := by
  rw [get?, Std.ExtTreeMap.getElem?_insert]
  simp only [Std.LawfulEqCmp.compare_eq_iff_eq]
  rfl

namespace Holds
variable (hc : c.Holds earlier)
include hc

theorem get?_eq_none : c.get? m.runtimeType = none ↔
    ∀ e ∈ earlier, e.runtimeType ≠ m.runtimeType := by
  rw [hc.get, List.find?_eq_none]
  simp only [beq_iff_eq, ne_eq]

/-- **An entry is taken** exactly if no member of it is blank and its type is new. -/
theorem exists_add_iff : (∃ next, c.add m = .ok next) ↔
    (∀ member, ¬ m.IsBlankAt member) ∧ ∀ e ∈ earlier, e.runtimeType ≠ m.runtimeType := by
  rw [← Modifier.blankMember?_eq_none, ← hc.get?_eq_none]
  constructor
  · rintro ⟨next, h⟩
    obtain ⟨hfilled, hnew, -⟩ := add_eq_ok_iff.mp h
    exact ⟨hfilled, hnew⟩
  · rintro ⟨hfilled, hnew⟩
    exact ⟨_, add_eq_ok_iff.mpr ⟨hfilled, hnew, rfl⟩⟩

theorem holds_add (h : c.add m = .ok next) : next.Holds (earlier ++ [m]) := by
  obtain ⟨-, hnew, rfl⟩ := add_eq_ok_iff.mp h
  refine ⟨fun type => ?_, ?_⟩
  · rw [get?_insert, hc.get, List.find?_append, List.find?_singleton]
    by_cases htype : m.runtimeType = type
    · -- no earlier entry is for this type
      rw [hc.get, htype] at hnew
      rw [if_pos htype, hnew, if_pos (beq_iff_eq.mpr htype)]
      rfl
    · rw [if_neg htype, if_neg (mt beq_iff_eq.mp htype), Option.or_none]
  · have hfresh : ¬ c.byType.contains m.runtimeType = true := by
      rw [← Std.ExtTreeMap.isSome_getElem?_eq_contains, ← get?, hnew]
      exact nofun
    show (c.byType.insert m.runtimeType m).size = _
    rw [Std.ExtTreeMap.size_insert, if_neg hfresh, List.length_append, List.length_singleton,
      ← hc.size]
    rfl

/-- **An entry is refused** exactly for its first blank member, or without one for its type. -/
theorem add_eq_error_iff : c.add m = .error failure ↔ Refused earlier m failure := by
  have hsome : (c.get? m.runtimeType).isSome = true ↔
      ∃ e ∈ earlier, e.runtimeType = m.runtimeType := by
    rw [hc.get, List.find?_isSome]
    simp only [beq_iff_eq]
  rw [add]
  constructor
  · intro h
    split at h
    · next member hmember =>
      obtain ⟨hblank, hfirst⟩ := Modifier.blankMember?_eq_some.mp hmember
      obtain rfl := Except.error.inj h
      exact .blank hblank hfirst
    next hfilled =>
    split at h
    · next htaken =>
      obtain rfl := Except.error.inj h
      exact .duplicate (Modifier.blankMember?_eq_none.mp hfilled) (hsome.mp htaken)
    · cases h
  · intro h
    cases h with
    | blank hblank hfirst => rw [Modifier.blankMember?_eq_some.mpr ⟨hblank, hfirst⟩]
    | duplicate hfilled hearlier =>
      rw [Modifier.blankMember?_eq_none.mpr hfilled]
      exact if_pos (hsome.mpr hearlier)

end Holds

/-! ## whole tables -/

theorem ofEntries_concat :
    ofEntries (entries ++ [m]) = ofEntries entries >>= fun c => c.add m := by
  rw [ofEntries, List.foldlM_append, ofEntries]
  refine bind_congr fun c => ?_
  simp only [List.foldlM_cons, List.foldlM_nil, bind_pure]

/-- **A built catalog holds its table**, and nothing was wrong with this. -/
theorem holds_of_ok (h : ofEntries entries = .ok c) : IsTable entries ∧ c.Holds entries := by
  induction entries using List.reverseRecOn generalizing c with
  | nil =>
    obtain rfl := Except.ok.inj h
    exact ⟨isTable_nil, holds_empty⟩
  | append_singleton entries m ih =>
    rw [ofEntries_concat] at h
    cases hentries : ofEntries entries with
    | error failure => rw [hentries] at h; cases h
    | ok before =>
      rw [hentries] at h
      obtain ⟨htable, hholds⟩ := ih hentries
      exact ⟨isTable_concat.mpr ⟨htable, hholds.exists_add_iff.mp ⟨c, h⟩⟩, hholds.holds_add h⟩

theorem exists_of_isTable (h : IsTable entries) : ∃ c, ofEntries entries = .ok c := by
  induction entries using List.reverseRecOn with
  | nil => exact ⟨empty, rfl⟩
  | append_singleton entries m ih =>
    obtain ⟨hentries, hm⟩ := isTable_concat.mp h
    obtain ⟨before, hbefore⟩ := ih hentries
    obtain ⟨next, hnext⟩ := (holds_of_ok hbefore).2.exists_add_iff.mpr hm
    refine ⟨next, ?_⟩
    rw [ofEntries_concat, hbefore]
    exact hnext

/-- **What is wrong with a table** is wrong with its first entry that cannot follow those in front of
it. -/
theorem ofEntries_eq_error_iff : ofEntries entries = .error failure ↔
    ∃ before m after, entries = before ++ m :: after ∧ IsTable before ∧ Refused before m failure := by
  constructor
  · intro h
    induction entries using List.reverseRecOn with
    | nil => cases h
    | append_singleton entries m ih =>
      rw [ofEntries_concat] at h
      cases hentries : ofEntries entries with
      | error earlier =>
        rw [hentries] at h
        obtain rfl := Except.error.inj h
        obtain ⟨before, first, after, rfl, hbefore, hfirst⟩ := ih hentries
        exact ⟨before, first, after ++ [m], by rw [List.append_assoc]; rfl, hbefore, hfirst⟩
      | ok c =>
        rw [hentries] at h
        obtain ⟨htable, hholds⟩ := holds_of_ok hentries
        exact ⟨entries, m, [], rfl, htable, hholds.add_eq_error_iff.mp h⟩
  · rintro ⟨before, m, after, rfl, hbefore, hm⟩
    obtain ⟨c, hc⟩ := exists_of_isTable hbefore
    have hrefused : c.add m = .error failure := (holds_of_ok hc).2.add_eq_error_iff.mpr hm
    rw [ofEntries] at hc
    rw [ofEntries, List.foldlM_append, hc]
    show (List.foldlM add c (m :: after)) = _
    rw [List.foldlM_cons, hrefused]
    rfl

theorem IsTable.perm {other : List Modifier} (h : IsTable entries) (hperm : entries.Perm other) :
    IsTable other where
  filled m hm := h.filled m (hperm.mem_iff.mpr hm)
  distinct := (hperm.map _).nodup_iff.mp h.distinct

theorem IsTable.find?_eq_some (h : IsTable entries) {type : String} :
    entries.find? (·.runtimeType == type) = some m ↔ m ∈ entries ∧ m.runtimeType = type := by
  constructor
  · intro hfind
    have htype := List.find?_some hfind
    exact ⟨List.mem_of_find?_eq_some hfind, beq_iff_eq.mp htype⟩
  · rintro ⟨hm, rfl⟩
    cases hfind : entries.find? (·.runtimeType == m.runtimeType) with
    | none => exact absurd (beq_self_eq_true _) (List.find?_eq_none.mp hfind m hm)
    | some found =>
      have hsame := List.find?_some hfind
      rw [List.inj_on_of_nodup_map h.distinct (List.mem_of_find?_eq_some hfind) hm
        (beq_iff_eq.mp hsame)]

theorem mem_modifiers : m ∈ c.modifiers ↔ ∃ type, c.get? type = some m := by
  unfold modifiers get?
  rw [List.mem_map]
  constructor
  · rintro ⟨⟨type, _⟩, hmem, rfl⟩
    exact ⟨type, Std.ExtTreeMap.mem_toList_iff_getElem?_eq_some.mp hmem⟩
  · rintro ⟨type, htype⟩
    exact ⟨(type, m), Std.ExtTreeMap.mem_toList_iff_getElem?_eq_some.mpr htype, rfl⟩

/-- **A modifier of a built catalog** is an entry of its table, and no member of it is blank. -/
theorem mem_of_ofEntries (h : ofEntries entries = .ok c) (hm : m ∈ c.modifiers) :
    m ∈ entries ∧ c.get? m.runtimeType = some m ∧ m.blankMember? = none := by
  obtain ⟨htable, hholds⟩ := holds_of_ok h
  obtain ⟨type, hget⟩ := mem_modifiers.mp hm
  obtain ⟨hmem, rfl⟩ := htable.find?_eq_some.mp ((hholds.get type).symm.trans hget)
  exact ⟨hmem, hget, Modifier.blankMember?_eq_none.mpr (htable.filled m hmem)⟩

/-- **Tables that list the same entries make one catalog.** -/
theorem ofEntries_perm {other : List Modifier} (h : ofEntries entries = .ok c)
    (hperm : entries.Perm other) : ofEntries other = .ok c := by
  obtain ⟨htable, hholds⟩ := holds_of_ok h
  obtain ⟨built, hbuilt⟩ := exists_of_isTable (htable.perm hperm)
  have hget : ∀ type : String, built.byType[type]? = c.byType[type]? := by
    intro type
    have hother := (holds_of_ok hbuilt).2.get type
    have hown := hholds.get type
    rw [get?] at hother hown
    rw [hother, hown]
    refine Option.ext fun m => ?_
    rw [(htable.perm hperm).find?_eq_some, htable.find?_eq_some, hperm.mem_iff]
  have hsame : built.byType = c.byType := Std.ExtTreeMap.ext_getElem? hget
  rw [hbuilt]
  exact congrArg (fun modifiers => Except.ok (Catalog.mk modifiers)) hsame

/-- **What becomes of a table.**  It is accepted exactly if no entry is blank anywhere and no two are for
one type.  Then the catalog has the entry for each type that the table lists, no other modifier, and
as many as the table; a lookup along the superclasses is a search in the table, short of the root; and
the table in another order makes the same catalog.  If it is not accepted, the first entry that is
blank or has the type of an earlier one is named: by its first blank member, or else as a duplicate. -/
theorem ofEntries_exact (entries : List Modifier) :
    ((∃ c, ofEntries entries = .ok c) ↔ IsTable entries) ∧
    (∀ c, ofEntries entries = .ok c →
      (∀ type m, c.get? type = some m ↔ m ∈ entries ∧ m.runtimeType = type) ∧
      (∀ type, c.get? type = none ↔ ∀ m ∈ entries, m.runtimeType ≠ type) ∧
      c.size = entries.length ∧
      (∀ (h : Hierarchy) (type : String), c.resolve? h type
        = ((h.ancestors type).takeWhile (· != objectRoot)).findSome? fun above =>
            entries.find? (·.runtimeType == above)) ∧
      ∀ other : List Modifier, entries.Perm other → ofEntries other = .ok c) ∧
    ∀ failure, ofEntries entries = .error failure ↔
      ∃ before m after, entries = before ++ m :: after ∧ IsTable before ∧
        Refused before m failure := by
  refine ⟨⟨fun ⟨c, hc⟩ => (holds_of_ok hc).1, exists_of_isTable⟩, fun c hc => ?_,
    fun failure => ofEntries_eq_error_iff⟩
  obtain ⟨htable, hholds⟩ := holds_of_ok hc
  refine ⟨fun type m => ?_, fun type => ?_, hholds.size, fun h type => ?_,
    fun other hperm => ofEntries_perm hc hperm⟩
  · rw [hholds.get, htable.find?_eq_some]
  · rw [hholds.get, List.find?_eq_none]
    simp only [beq_iff_eq, ne_eq]
  · rw [resolve?]
    exact congrArg (List.findSome? · _) (funext hholds.get)

-- the second entry is a duplicate too, but its blank members come first
example : ofEntries [⟨"int", "int", "getIntegers()", false⟩, ⟨"int", " ", "", false⟩]
    = .error (.blank "int" .outputType) := by rfl

/-! ## a table of two entries -/

def listTable : List Modifier :=
  [⟨"int", "int", "getIntegers()", false⟩,
    ⟨"java.util.List", "List<ItemStack>", "getItemListModifier()", false⟩]

/-- Both entries are found, in either order of the table. -/
theorem ofEntries_exact_list : ∃ c, ofEntries listTable = .ok c ∧
    c.get? "int" = some ⟨"int", "int", "getIntegers()", false⟩ ∧ c.get? "long" = none ∧ c.size = 2 ∧
    listTable.Perm listTable.reverse ∧ ofEntries listTable.reverse = .ok c := by
  have htable : IsTable listTable := by
    refine ⟨fun m hm => Modifier.blankMember?_eq_none.mp ?_, by decide⟩
    revert m
    decide
  obtain ⟨hok, hbuilt, -⟩ := ofEntries_exact listTable
  obtain ⟨c, hc⟩ := hok.mpr htable
  obtain ⟨hget, hnone, hsize, -, hperm⟩ := hbuilt c hc
  have hreverse : listTable.Perm listTable.reverse := (List.reverse_perm _).symm
  exact ⟨c, hc, (hget _ _).mpr ⟨List.mem_cons_self, rfl⟩, (hnone _).mpr (by decide), hsize, hreverse,
    hperm _ hreverse⟩

end Catalog
end WireWrapper
