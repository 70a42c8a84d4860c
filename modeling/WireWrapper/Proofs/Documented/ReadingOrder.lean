import WireWrapper.Documented

/-!
# Reading a document from the top

A document is a tree, and reading it goes down and up again; but nothing is ever put back on the way
up.  So the tree may be laid out as one row of headings and tables, in the order in which they stand
on the page, and read from left to right.  The category lasts up to the next top-level heading, the
direction up to the next heading that names one, also across the sections in between.

* `Visit`, `Document.visits`   what a reader meets, in order;
* `Cursor`, `Labels.turn`      the category and the direction in force, and what a heading does;
* `Pass`, `Labels.visit`       these with the fields found so far, and what one visit does;
* `Labels.pass`                all visits of a document in turn;
* `fieldsOf_eq_pass`           the documented fields are what this pass finds, its log included.
-/

namespace WireWrapper

/-! ## visits -/

/-- what a reader meets: the heading of a top-level section, that of a section inside another, or a
table -/
inductive Visit where
  | chapter (heading : String)
  | heading (heading : String)
  | table (table : Table)
deriving DecidableEq, Repr

mutual

/-- a section behind its heading: its tables, then its subsections -/
def Section.visits : Section → List Visit
  | ⟨_, tables, subsections⟩ => tables.map .table ++ Section.visitsAll subsections

def Section.visitsAll : List Section → List Visit
  | [] => []
  | s :: ss => .heading s.heading :: (s.visits ++ Section.visitsAll ss)

end

/-- a document from its first heading to its end -/
def Document.visits (d : Document) : List Visit :=
  d.sections.flatMap fun s => .chapter s.heading :: s.visits

/-! ## the pass -/

/-- the category and the direction in force at some place of a document -/
structure Cursor where
  category : Option Category
  direction : Option Direction
deriving DecidableEq, Repr

def Cursor.start : Cursor := ⟨none, none⟩

/-- how far a pass has come, and what it has found -/
structure Pass extends Cursor where
  found : DocumentedFields

namespace Labels
variable (l : Labels) (r : Registry)

/-- what is in force behind a visit: a top-level heading sets the category, or clears it; a heading
inside sets the direction if it names one -/
def turn (c : Cursor) : Visit → Cursor
  | .chapter heading => { c with category := Category.ofHeading? heading }
  | .heading heading => { c with direction := (l.direction? heading).or c.direction }
  | .table _ => c

/-- one visit: a heading turns the cursor, a table is read under it -/
def visit (p : Pass) : Visit → Logged Pass
  | .chapter heading => do
    .logWhen (Category.ofHeading? heading).isNone
      (.ofMessage .debug target "not a protocol section" [("heading", .text heading)])
    pure ⟨l.turn p.toCursor (.chapter heading), p.found⟩
  | .heading heading => pure ⟨l.turn p.toCursor (.heading heading), p.found⟩
  | .table t => do
    let found ← l.readTable r p.category p.direction t p.found
    pure ⟨p.toCursor, found⟩

def pass (d : Document) : Logged Pass := d.visits.foldlM (l.visit r) ⟨.start, ∅⟩

/-- the last word of a reader -/
def finish (found : DocumentedFields) : Logged DocumentedFields := do
  .log (.ofMessage .debug target "parsed documentation" [("messages", .integer found.size)])
  pure found

theorem visit_chapter (p : Pass) (heading : String) :
    l.visit r p (.chapter heading)
      = Logged.logWhen (Category.ofHeading? heading).isNone
          (.ofMessage .debug target "not a protocol section" [("heading", .text heading)])
        >>= fun _ => pure ⟨⟨Category.ofHeading? heading, p.direction⟩, p.found⟩ := rfl

theorem visit_heading (p : Pass) (heading : String) :
    l.visit r p (.heading heading)
      = pure ⟨⟨p.category, (l.direction? heading).or p.direction⟩, p.found⟩ := rfl

theorem visit_table (p : Pass) (t : Table) :
    l.visit r p (.table t)
      = l.readTable r p.category p.direction t p.found
        >>= fun found => pure ⟨p.toCursor, found⟩ := rfl

/-! ## the walk is the pass -/

theorem visit_tables (tables : List Table) (c : Cursor) (found : DocumentedFields) :
    (tables.map Visit.table).foldlM (l.visit r) ⟨c, found⟩
      = l.readTables r c.category c.direction tables found >>= fun found => pure ⟨c, found⟩ := by
  induction tables generalizing found with
  | nil => rfl
  | cons t ts ih =>
    rw [List.map_cons, List.foldlM_cons, visit_table, readTables, bind_assoc, bind_assoc]
    refine congrArg _ (funext fun found => ?_)
    rw [pure_bind]
    exact ih found

mutual

-- the category in front of a section is in force behind it, the direction need not be
theorem visit_section (category : Option Category) (s : Section) (w : Walk) :
    s.visits.foldlM (l.visit r) ⟨⟨category, w.direction⟩, w.found⟩
      = l.walk r category s w >>= fun w => pure ⟨⟨category, w.direction⟩, w.found⟩ := by
  obtain ⟨heading, tables, subsections⟩ := s
  rw [Section.visits, List.foldlM_append, visit_tables, walk, bind_assoc, bind_assoc]
  refine congrArg _ (funext fun found => ?_)
  rw [pure_bind]
  exact visit_sections category subsections ⟨w.direction, found⟩

theorem visit_sections (category : Option Category) (ss : List Section) (w : Walk) :
    (Section.visitsAll ss).foldlM (l.visit r) ⟨⟨category, w.direction⟩, w.found⟩
      = l.walkAll r category ss w >>= fun w => pure ⟨⟨category, w.direction⟩, w.found⟩ := by
  match ss with
  | [] => rfl
  | s :: ss =>
    have hs := visit_section category s ⟨(l.direction? s.heading).or w.direction, w.found⟩
    rw [Section.visitsAll, List.foldlM_cons, visit_heading, pure_bind, List.foldlM_append, hs,
      walkAll, bind_assoc, bind_assoc]
    refine congrArg _ (funext fun w => ?_)
    rw [pure_bind]
    exact visit_sections category ss w

end

theorem visit_chapters (category : Option Category) (ss : List Section) (w : Walk) :
    ((ss.flatMap fun s => Visit.chapter s.heading :: s.visits).foldlM (l.visit r)
        ⟨⟨category, w.direction⟩, w.found⟩ >>= fun p => finish p.found)
      = l.walkDocument r ss w >>= fun w => finish w.found := by
  induction ss generalizing category w with
  | nil => rfl
  | cons s ss ih =>
    have hs := l.visit_section r (Category.ofHeading? s.heading) s w
    rw [List.flatMap_cons, List.cons_append, List.foldlM_cons, visit_chapter, walkDocument,
      bind_assoc, bind_assoc, bind_assoc]
    refine congrArg _ (funext fun _ => ?_)
    rw [pure_bind, List.foldlM_append, hs, bind_assoc, bind_assoc, bind_assoc]
    refine congrArg _ (funext fun w => ?_)
    -- the category in front of the other sections does not matter: each sets its own
    rw [pure_bind]
    exact ih _ w

/-- **The documented fields are what one pass from the top finds**, and both log the same. -/
theorem fieldsOf_eq_pass (d : Document) :
    l.fieldsOf r d = l.pass r d >>= fun p => finish p.found :=
  (l.visit_chapters r none d.sections ⟨none, ∅⟩).symm

end Labels
end WireWrapper
