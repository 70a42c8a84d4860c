import WireWrapper.Document.Json
import WireWrapper.Proofs.Json.Records

/-!
# Documentation trees in all their forms

Every list of a tree may be left out where it is empty, a cell need not say that it is a datum, and
each record of the tree, however deep, may be reordered and extended on its own.

* `Cell.shape`, `Row.shape`, `Table.shape`, `Document.shape`   what the records consist of;
* `Section.shapeWith`, `Section.Form`   the record of a section, which holds such records again;
* `Section.ofJson?_object`   subsections are read like any other member;
* `ofJson?_of_form`          every form is read as the value that it was made for;
* `form_toJson`              the record as it is written out is a form.
-/

namespace WireWrapper

/-! ## cells, rows and tables -/

namespace Cell
variable {c : Cell} {j : Json}

def shape (c : Cell) : Json.Shape where
  members := [
    .plain "text" (.text c.text),
    .preset "header" (.bool c.isHeader) (c.isHeader = false)]
  distinct := by simp

theorem ofJson?_of_form (h : c.shape.Form j) : ofJson? j = some c := by
  have htext : j.required "text" 0 Json.text? = some c.text :=
    h.required_plain (.text c.text) (by simp [shape]) rfl
  have hheader : j.optional "header" 1 false Json.bool? = some c.isHeader :=
    h.optional_preset (.bool c.isHeader) (by simp [shape]) rfl id
  rw [ofJson?, h.recordOf? 2, htext, hheader]
  rfl

theorem form_toJson (c : Cell) : c.shape.Form c.toJson :=
  Json.Shape.form_of_given (.keep rfl (.keep rfl .nil))

end Cell

namespace Row
variable {row : Row} {j : Json}

def shape (row : Row) : Json.Shape where
  members := [.list "cells" (fun c : Cell => c.shape.Form) row.cells (row.cells = [])]
  distinct := by simp

theorem ofJson?_of_form (h : row.shape.Form j) : ofJson? j = some row := by
  have hcells : j.optional "cells" 0 [] (Json.listOf? Cell.ofJson?) = some row.cells :=
    h.optional_list (by simp [shape]) (fun _ _ _ hc => Cell.ofJson?_of_form hc)
  rw [ofJson?, h.recordOf? 1, hcells]
  rfl

theorem form_toJson (row : Row) : row.shape.Form row.toJson :=
  Json.Shape.form_of_given
    (.keep ⟨_, rfl, Json.forall₂_map fun c _ => c.form_toJson⟩ .nil)

end Row

namespace Table
variable {table : Table} {j : Json}

def shape (table : Table) : Json.Shape where
  members := [.list "rows" (fun row : Row => row.shape.Form) table.rows (table.rows = [])]
  distinct := by simp

theorem ofJson?_of_form (h : table.shape.Form j) : ofJson? j = some table := by
  have hrows : j.optional "rows" 0 [] (Json.listOf? Row.ofJson?) = some table.rows :=
    h.optional_list (by simp [shape]) (fun _ _ _ hrow => Row.ofJson?_of_form hrow)
  rw [ofJson?, h.recordOf? 1, hrows]
  rfl

theorem form_toJson (table : Table) : table.shape.Form table.toJson :=
  Json.Shape.form_of_given
    (.keep ⟨_, rfl, Json.forall₂_map fun row _ => row.form_toJson⟩ .nil)

end Table

/-! ## sections -/

namespace Section

/-- What the record of a section consists of, where `Subsections` are the arrays that may stand for
its subsections. -/
def shapeWith (heading : String) (tables : List Table) (Subsections : List Json → Prop)
    (NoSubsections : Prop) : Json.Shape where
  members := [
    .plain "heading" (.text heading),
    .list "tables" (fun table : Table => table.shape.Form) tables (tables = []),
    .array "subsections" Subsections NoSubsections]
  distinct := by simp

mutual

/-- The records of a section, in which its subsections have any of their own records. -/
def Form : Section → Json → Prop
  | ⟨heading, tables, subsections⟩ =>
    (shapeWith heading tables (AllForms subsections) (subsections = [])).Form

def AllForms : List Section → List Json → Prop
  | [] => (· = [])
  | s :: ss => fun items => ∃ item rest, items = item :: rest ∧ Form s item ∧ AllForms ss rest

end

theorem subsectionsIn_eq_map (members : List (String × Json)) (p : Nat) :
    subsectionsIn members = ((Json.object members).valuesOf "subsections" p).map listOfJson? := by
  induction members with
  | nil => rfl
  | cons member members ih =>
    obtain ⟨name, j⟩ := member
    by_cases hname : name = "subsections"
    · rw [subsectionsIn, if_pos hname, ih, Json.valuesOf, Json.valuesOf,
        List.filter_cons_of_pos (by simpa using hname)]
      rfl
    · rw [subsectionsIn, if_neg hname, ih, Json.valuesOf, Json.valuesOf,
        List.filter_cons_of_neg (by simpa using hname)]

theorem ofJson?_object (members : List (String × Json)) :
    ofJson? (.object members) = assemble (.object members)
      ((Json.object members).optional "subsections" 2 [] listOfJson?) := by
  rw [ofJson?, subsectionsIn_eq_map members 2, Json.optional]
  cases (Json.object members).valuesOf "subsections" 2 with
  | nil => rfl
  | cons v vs => cases vs <;> rfl

mutual

theorem ofJson?_of_form : ∀ (s : Section) {j : Json}, s.Form j → ofJson? j = some s
  | ⟨heading, tables, subsections⟩, j, h => by
    rw [Form] at h
    have hheading : j.required "heading" 0 Json.text? = some heading :=
      h.required_plain (.text heading) (by simp [shapeWith]) rfl
    have htables : j.optional "tables" 1 [] (Json.listOf? Table.ofJson?) = some tables :=
      h.optional_list (by simp [shapeWith]) (fun _ _ _ ht => Table.ofJson?_of_form ht)
    have hsubsections : j.optional "subsections" 2 [] listOfJson? = some subsections :=
      h.optional_array (by simp [shapeWith]) (fun _ hss => allOfJson?_of_forms subsections hss) id
    -- the equations of the reader tell an object apart from the arrays only now
    obtain ⟨members, rfl⟩ := h.exists_object
    rw [ofJson?_object, assemble, h.recordOf? 3, hheading, htables, hsubsections]
    rfl

theorem allOfJson?_of_forms :
    ∀ (ss : List Section) {items : List Json}, AllForms ss items → allOfJson? items = some ss
  | [], items, h => by
    rw [AllForms] at h
    rw [h, allOfJson?]
  | s :: ss, items, h => by
    rw [AllForms] at h
    obtain ⟨item, rest, rfl, hitem, hrest⟩ := h
    rw [allOfJson?, ofJson?_of_form s hitem, allOfJson?_of_forms ss hrest]

end

mutual

theorem form_toJson : ∀ s : Section, s.Form s.toJson
  | ⟨heading, tables, subsections⟩ => by
    rw [Form, toJson]
    exact Json.Shape.form_of_given (.keep rfl
      (.keep ⟨_, rfl, Json.forall₂_map fun table _ => table.form_toJson⟩
      (.keep ⟨_, rfl, allForms_allToJson subsections⟩ .nil)))

theorem allForms_allToJson : ∀ ss : List Section, AllForms ss (allToJson ss)
  | [] => by rw [AllForms, allToJson]
  | s :: ss => by
    rw [AllForms, allToJson]
    exact ⟨_, _, rfl, form_toJson s, allForms_allToJson ss⟩

end

end Section

/-! ## trees -/

namespace Document
variable {d : Document} {j : Json}

def shape (d : Document) : Json.Shape where
  members := [.list "sections" Section.Form d.sections (d.sections = [])]
  distinct := by simp

theorem ofJson?_of_form (h : d.shape.Form j) : ofJson? j = some d := by
  have hsections : j.optional "sections" 0 [] (Json.listOf? Section.ofJson?) = some d.sections :=
    h.optional_list (by simp [shape]) (fun s _ _ hs => s.ofJson?_of_form hs)
  rw [ofJson?, h.recordOf? 1, hsections]
  rfl

theorem form_toJson (d : Document) : d.shape.Form d.toJson :=
  Json.Shape.form_of_given
    (.keep ⟨_, rfl, Json.forall₂_map fun s _ => s.form_toJson⟩ .nil)

end Document
end WireWrapper
