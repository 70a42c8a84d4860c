import WireWrapper.Proofs.Batch
import WireWrapper.Proofs.Text.PascalCase

/-!
# Files of a batch

A wrapper belongs in a file that is named for its class: prefix, category, direction and the name of
the message in Pascal case.  The categories have names with different first letters, and so do the
directions; so nothing runs together there.  But the number of a message is not in the name of its
file, and a registry asks for different keys only, not for different names.  So two wrappers belong
in one file exactly if their messages are alike in category, direction and Pascal case.  Different
upper-snake names are safe.

* `append_inj_of_heads`     names told apart by their first letters, in front of another text;
* `MessageType.Collides`    messages with one class name;
* `className_eq_iff`        no others have one;
* `Generator.wrappers`      the wrappers of a batch, each of a message of its own;
* `foldl_write_own`         wrappers with different files are all kept when they are written;
* `Registry.NamesApart`     names that keep messages from colliding;
* `fileNames_nodup_iff`     when exactly the files of a batch differ;
* `fileNames_clash`         two messages with one file.
-/

namespace WireWrapper

/-! ## names of classes -/

/-- names with different first letters are told apart also in front of another text -/
theorem append_inj_of_heads {α : Type} {name : α → String} (hne : ∀ a, name a ≠ "")
    (hheads : ∀ a b, (name a).toList.head? = (name b).toList.head? → a = b) {a b : α}
    {s t : String} : name a ++ s = name b ++ t ↔ a = b ∧ s = t := by
  refine ⟨fun h => ?_, fun ⟨hab, hst⟩ => by rw [hab, hst]⟩
  have hfront : ∀ (a : α) (s : String), (name a ++ s).toList.head? = (name a).toList.head? := by
    intro a s
    rw [String.toList_append, List.head?_append_of_ne_nil]
    exact fun hnil => hne a (String.toList_eq_nil_iff.mp hnil)
  have hab : a = b := hheads a b (by rw [← hfront a s, h, hfront])
  subst hab
  exact ⟨rfl, (String.append_right_inj _).mp h⟩

theorem Category.javaName_append_inj {a b : Category} {s t : String} :
    a.javaName ++ s = b.javaName ++ t ↔ a = b ∧ s = t :=
  append_inj_of_heads (by intro a; cases a <;> decide) (by intro a b; cases a <;> cases b <;> decide)

theorem Direction.javaName_append_inj {a b : Direction} {s t : String} :
    a.javaName ++ s = b.javaName ++ t ↔ a = b ∧ s = t :=
  append_inj_of_heads (by intro a; cases a <;> decide) (by intro a b; cases a <;> cases b <;> decide)

/-- messages of one category and one direction whose names have one Pascal case -/
def MessageType.Collides (m n : MessageType) : Prop :=
  m.key.category = n.key.category ∧ m.key.direction = n.key.direction ∧
    Name.pascalCase m.name = Name.pascalCase n.name

/-- **Classes have one name exactly if their messages collide.** -/
theorem className_eq_iff (c : ClassWriter) (m n : MessageType) :
    c.className m = c.className n ↔ m.Collides n := by
  rw [ClassWriter.className, ClassWriter.className, String.append_assoc, String.append_assoc,
    String.append_assoc, String.append_assoc, String.append_right_inj,
    Category.javaName_append_inj, Direction.javaName_append_inj]
  rfl

theorem fileName_eq_iff (v w : Wrapper) : v.fileName = w.fileName ↔ v.className = w.className := by
  rw [Wrapper.fileName, Wrapper.fileName, String.append_left_inj]

/-! ## files of a batch -/

namespace Generator
variable (g : Generator) (methods : KeyMap MethodBody) (documented : DocumentedFields)

/-- the wrappers of a batch, in the order of their keys -/
def wrappers (results : BatchResults) : List Wrapper :=
  results.toList.filterMap fun (_, result) => result.toOption

theorem toOption_eq_some {result : Except Failure Wrapper} {w : Wrapper} :
    result.toOption = some w ↔ result = .ok w := by
  cases result with
  | error failure => exact ⟨nofun, nofun⟩
  | ok found => exact ⟨fun h => congrArg Except.ok (Option.some.inj h), fun h => by cases h; rfl⟩

theorem mem_wrappers {results : BatchResults} {w : Wrapper} :
    w ∈ wrappers results ↔ ∃ key : MessageKey, results[key]? = some (.ok w) := by
  rw [wrappers, List.mem_filterMap]
  constructor
  · rintro ⟨⟨key, result⟩, hmem, hw⟩
    exact ⟨key, Std.ExtTreeMap.mem_toList_iff_getElem?_eq_some.mp (toOption_eq_some.mp hw ▸ hmem)⟩
  · rintro ⟨key, hkey⟩
    exact ⟨(key, .ok w), Std.ExtTreeMap.mem_toList_iff_getElem?_eq_some.mpr hkey, rfl⟩

theorem getElem?_of_mem_wrappers {w : Wrapper}
    (hw : w ∈ wrappers (g.generateAll methods documented).value) :
    (g.generateAll methods documented).value[w.messageType.key]? = some (.ok w) ∧
      g.registry.resolve? w.messageType.key = some w.messageType := by
  obtain ⟨key, hkey⟩ := mem_wrappers.mp hw
  have hm := (g.generateAll_ok methods documented hkey).1
  rw [Registry.resolve?_key hm]
  exact ⟨hkey, hm⟩

theorem wrappers_keys :
    (wrappers (g.generateAll methods documented).value).Pairwise
      fun v w => v.messageType.key ≠ w.messageType.key := by
  rw [wrappers, List.pairwise_filterMap]
  refine List.Pairwise.imp_of_mem (fun {x y} hx hy hne v hv w hw hkeys => hne ?_)
    (Std.ExtTreeMap.distinct_keys_toList (t := (g.generateAll methods documented).value))
  -- results stand under the keys of their messages, so different places mean different messages
  have hown : ∀ z ∈ (g.generateAll methods documented).value.toList, ∀ w,
      z.2.toOption = some w → w.messageType.key = z.1 := by
    rintro ⟨key, result⟩ hz w hw
    obtain rfl := toOption_eq_some.mp hw
    have hresult := Std.ExtTreeMap.mem_toList_iff_getElem?_eq_some.mp hz
    exact Registry.resolve?_key (g.generateAll_ok methods documented hresult).1
  rw [← hown x hx v hv, hkeys, hown y hy w hw]
  exact Std.ReflCmp.compare_self

end Generator

/-! ## files -/

def Files.write (files : Files) (w : Wrapper) : Files :=
  fun path => if path = w.fileName then some w.source else files path

theorem foldl_write_other {path : String} {ws : List Wrapper} (hws : ∀ w ∈ ws, w.fileName ≠ path)
    (files : Files) : ws.foldl Files.write files path = files path := by
  induction ws generalizing files with
  | nil => rfl
  | cons w ws ih =>
    rw [List.foldl_cons, ih fun v hv => hws v (List.mem_cons_of_mem w hv), Files.write,
      if_neg (hws w List.mem_cons_self).symm]

theorem foldl_write_own {ws : List Wrapper} (hws : (ws.map Wrapper.fileName).Nodup)
    (files : Files) {w : Wrapper} (hw : w ∈ ws) :
    ws.foldl Files.write files w.fileName = some w.source := by
  induction ws generalizing files with
  | nil => cases hw
  | cons v ws ih =>
    rw [List.map_cons, List.nodup_cons] at hws
    rw [List.foldl_cons]
    rcases List.mem_cons.mp hw with rfl | hw
    · have hother : ∀ u ∈ ws, u.fileName ≠ w.fileName :=
        fun u hu heq => hws.1 (heq ▸ List.mem_map_of_mem hu)
      rw [foldl_write_other hother, Files.write, if_pos rfl]
    · exact ih hws.2 _ hw

/-- upper-snake names, and no two alike in one category and one direction -/
structure Registry.NamesApart (r : Registry) : Prop where
  upperSnake : ∀ m ∈ r.messages, Name.isUpperSnake m.name = true
  apart : ∀ m ∈ r.messages, ∀ n ∈ r.messages, m.key.category = n.key.category →
    m.key.direction = n.key.direction → m.name = n.name → m.key = n.key

theorem Registry.NamesApart.not_collides {r : Registry} (h : r.NamesApart) {m n : MessageType}
    (hm : m ∈ r.messages) (hn : n ∈ r.messages) (hne : m.key ≠ n.key) : ¬ m.Collides n := by
  rintro ⟨hcategory, hdirection, hcase⟩
  have hname := (Name.pascalCase_inj (h.upperSnake m hm) (h.upperSnake n hn)).mp hcase
  exact hne (h.apart m hm n hn hcategory hdirection hname)

namespace Generator
variable (g : Generator) (methods : KeyMap MethodBody) (documented : DocumentedFields)

theorem nodup_fileNames_iff :
    ((wrappers (g.generateAll methods documented).value).map Wrapper.fileName).Nodup
      ↔ (wrappers (g.generateAll methods documented).value).Pairwise
          fun v w => ¬ v.messageType.Collides w.messageType := by
  rw [List.Nodup, List.pairwise_map]
  have hname : ∀ w ∈ wrappers (g.generateAll methods documented).value,
      w.className = g.classWriter.className w.messageType := by
    intro w hw
    obtain ⟨key, hkey⟩ := mem_wrappers.mp hw
    exact (g.generateAll_ok methods documented hkey).2
  refine List.Pairwise.iff_of_mem fun {v w} hv hw => not_congr ?_
  rw [fileName_eq_iff, hname v hv, hname w hw, className_eq_iff]

/-- **The files of a batch differ exactly if no two messages of it collide.**  Then each wrapper is
found in its own file when all are written.  Upper-snake names that differ wherever category and
direction do not are enough. -/
theorem fileNames_nodup_iff (calls : List MessageType)
    (hcalls : g.registry = Registry.ofCalls calls) :
    (∀ (a b : MessageKey) (v w : Wrapper),
      (g.generateAll methods documented).value[a]? = some (.ok v) →
      (g.generateAll methods documented).value[b]? = some (.ok w) →
      calls.find? (·.key == a) = some v.messageType ∧
      calls.find? (·.key == b) = some w.messageType ∧
      (v.className = w.className ↔ v.messageType.Collides w.messageType) ∧
      (v.fileName = w.fileName ↔ v.messageType.Collides w.messageType)) ∧
    (((wrappers (g.generateAll methods documented).value).map Wrapper.fileName).Nodup
      ↔ (wrappers (g.generateAll methods documented).value).Pairwise
          fun v w => ¬ v.messageType.Collides w.messageType) ∧
    (g.registry.NamesApart →
      ((wrappers (g.generateAll methods documented).value).map Wrapper.fileName).Nodup) ∧
    (((wrappers (g.generateAll methods documented).value).map Wrapper.fileName).Nodup →
      ∀ (files : Files), ∀ w ∈ wrappers (g.generateAll methods documented).value,
        (wrappers (g.generateAll methods documented).value).foldl Files.write files w.fileName
          = some w.source) := by
  refine ⟨fun a b v w hv hw => ?_, g.nodup_fileNames_iff methods documented, fun hnames => ?_,
    fun hnodup files w hw => foldl_write_own hnodup files hw⟩
  · obtain ⟨hmv, hcv⟩ := g.generateAll_ok methods documented hv
    obtain ⟨hmw, hcw⟩ := g.generateAll_ok methods documented hw
    rw [hcalls, Registry.resolve?_ofCalls] at hmv hmw
    have hclass : v.className = w.className ↔ v.messageType.Collides w.messageType := by
      rw [hcv, hcw, className_eq_iff]
    exact ⟨hmv, hmw, hclass, (fileName_eq_iff v w).trans hclass⟩
  · rw [g.nodup_fileNames_iff methods documented]
    refine List.Pairwise.imp_of_mem (fun {v w} hv hw hne => ?_)
      (g.wrappers_keys methods documented)
    exact hnames.not_collides
      (Registry.mem_messages.mpr (g.getElem?_of_mem_wrappers methods documented hv).2)
      (Registry.mem_messages.mpr (g.getElem?_of_mem_wrappers methods documented hw).2) hne

end Generator

/-! ## two messages of one category and one direction -/

def firstKey : MessageKey := ⟨.play, .server, 0⟩

def secondKey : MessageKey := ⟨.play, .server, 1⟩

def pairCalls (first second : String) : List MessageType :=
  [⟨firstKey, first⟩, ⟨secondKey, second⟩]

def pairMethod : MethodBody := ⟨"Slot", "write", [.line 1, .field .getField "Slot" "id"]⟩

def pairGenerator (first second : String) : Generator :=
  .ofParts .stock .empty (.ofTypes [("Slot", ⟨none, [⟨"id", "int", false⟩]⟩)])
    (.ofCalls (pairCalls first second))

def pairMethods : KeyMap MethodBody :=
  ((∅ : KeyMap MethodBody).insert firstKey pairMethod).insert secondKey pairMethod

def pairDocumented : DocumentedFields :=
  ((∅ : DocumentedFields).insert firstKey []).insert secondKey []

def pairResults (first second : String) : BatchResults :=
  ((pairGenerator first second).generateAll pairMethods pairDocumented).value

theorem getElem?_pair (first second : String) :
    (∃ v, (pairResults first second)[firstKey]? = some (.ok v) ∧
      v.messageType = ⟨firstKey, first⟩) ∧
    (∃ w, (pairResults first second)[secondKey]? = some (.ok w) ∧
      w.messageType = ⟨secondKey, second⟩) := by
  have hwrapper : ∀ m, ∃ w, ((pairGenerator first second).generateFrom m (some pairMethod)
      (some [])).value = .ok w ∧ w.messageType = m := fun m => ⟨_, rfl, rfl⟩
  have hmethod : pairMethods[firstKey]? = some pairMethod ∧
      pairMethods[secondKey]? = some pairMethod := by decide +kernel
  have hdocs : pairDocumented[firstKey]? = some [] ∧ pairDocumented[secondKey]? = some [] := by
    decide +kernel
  have hregistry : ∀ key, (pairGenerator first second).registry.resolve? key
      = (pairCalls first second).find? (·.key == key) := Registry.resolve?_ofCalls _
  obtain ⟨v, hv, hvm⟩ := hwrapper ⟨firstKey, first⟩
  obtain ⟨w, hw, hwm⟩ := hwrapper ⟨secondKey, second⟩
  refine ⟨⟨v, ?_, hvm⟩, ⟨w, ?_, hwm⟩⟩
  · rw [pairResults, Generator.getElem?_generateAll, hregistry, hmethod.1, hdocs.1]
    exact congrArg some hv
  · rw [pairResults, Generator.getElem?_generateAll, hregistry, hmethod.2, hdocs.2]
    exact congrArg some hw

/-- Two messages with upper-snake names have a file each, and both files are there when the wrappers
are written. -/
theorem fileNames_nodup_spawn :
    (pairGenerator "SPAWN" "DESPAWN").registry = Registry.ofCalls (pairCalls "SPAWN" "DESPAWN") ∧
    (pairGenerator "SPAWN" "DESPAWN").registry.NamesApart ∧
    ∃ v w,
      (pairResults "SPAWN" "DESPAWN")[firstKey]? = some (.ok v) ∧
      (pairResults "SPAWN" "DESPAWN")[secondKey]? = some (.ok w) ∧
      v.className ≠ w.className ∧ v.fileName ≠ w.fileName ∧
      ((Generator.wrappers (pairResults "SPAWN" "DESPAWN")).map Wrapper.fileName).Nodup ∧
      (Generator.wrappers (pairResults "SPAWN" "DESPAWN")).foldl Files.write (fun _ => none)
        v.fileName = some v.source ∧
      (Generator.wrappers (pairResults "SPAWN" "DESPAWN")).foldl Files.write (fun _ => none)
        w.fileName = some w.source := by
  obtain ⟨hpair, -, hsafe, hkept⟩ := Generator.fileNames_nodup_iff (pairGenerator "SPAWN" "DESPAWN")
    pairMethods pairDocumented (pairCalls "SPAWN" "DESPAWN") rfl
  have hmessages : (pairGenerator "SPAWN" "DESPAWN").registry.messages
      = pairCalls "SPAWN" "DESPAWN" := by decide +kernel
  have hapart : (pairGenerator "SPAWN" "DESPAWN").registry.NamesApart := by
    constructor <;> rw [hmessages] <;> decide
  obtain ⟨⟨v, hv, hvm⟩, ⟨w, hw, hwm⟩⟩ := getElem?_pair "SPAWN" "DESPAWN"
  obtain ⟨-, -, hclass, hfile⟩ := hpair firstKey secondKey v w hv hw
  have hcollides : ¬ v.messageType.Collides w.messageType := by
    rw [hvm, hwm]
    rintro ⟨-, -, hcase⟩
    exact absurd hcase (by decide)
  have hnodup := hsafe hapart
  exact ⟨rfl, hapart, v, w, hv, hw, mt hclass.mp hcollides, mt hfile.mp hcollides, hnodup,
    hkept hnodup _ v (Generator.mem_wrappers.mpr ⟨_, hv⟩),
    hkept hnodup _ w (Generator.mem_wrappers.mpr ⟨_, hw⟩)⟩

/-- two messages under different keys whose names have one Pascal case belong in one file -/
theorem pair_clash {first second : String}
    (hcase : Name.pascalCase first = Name.pascalCase second) :
    ∃ v w,
      (pairResults first second)[firstKey]? = some (.ok v) ∧
      (pairResults first second)[secondKey]? = some (.ok w) ∧
      v.className = w.className ∧ v.fileName = w.fileName := by
  obtain ⟨⟨v, hv, hvm⟩, ⟨w, hw, hwm⟩⟩ := getElem?_pair first second
  have hclass : v.className = w.className := by
    rw [(Generator.generateAll_ok _ _ _ hv).2, (Generator.generateAll_ok _ _ _ hw).2,
      className_eq_iff, hvm, hwm]
    exact ⟨rfl, rfl, hcase⟩
  exact ⟨v, w, hv, hw, hclass, (fileName_eq_iff v w).mpr hclass⟩

/-- A registry takes one name under two ids, and names that differ in a separator only: the wrappers
of its messages belong in one file, and the second is written over the first. -/
theorem fileNames_clash :
    firstKey ≠ secondKey ∧
    (∃ v w,
      (pairResults "MAP_DATA" "MAP_DATA")[firstKey]? = some (.ok v) ∧
      (pairResults "MAP_DATA" "MAP_DATA")[secondKey]? = some (.ok w) ∧
      v.className = w.className ∧ v.fileName = w.fileName) ∧
    (∃ v w,
      (pairResults "SLOT_2" "SLOT2")[firstKey]? = some (.ok v) ∧
      (pairResults "SLOT_2" "SLOT2")[secondKey]? = some (.ok w) ∧
      v.className = w.className ∧ v.fileName = w.fileName) :=
  ⟨by decide, pair_clash rfl, pair_clash (by decide)⟩

end WireWrapper
